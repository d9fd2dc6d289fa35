import Handoff.Script.Play

namespace Handoff.Script

/-! Scripts on a clock.

After its first steps a script may go on along a clock that stands still while
anything happens.  An entry performs a step at its time, or starts a task that
waits.  At each time the entries come first, in order, and then every task looks
at what it waits for; a task that finds nothing gives up at its deadline. -/

inductive Action where
  | step (step : Step)
  | wait (future : String) (timeout : Nat)
  /-- Takes a stream and waits for its next item. -/
  | next (stream : String)

structure Entry where
  time : Nat
  action : Action

/-- How long a task waits for the next item of a stream: one day. -/
def dayLong : Nat := 86400000

inductive Goal where
  | outcome (promise : Nat)
  /-- A stream that the task is going to take. -/
  | stream (name : String)
  /-- An item of a stream that the task took. -/
  | item (name : String) (stream : Nat)

structure Task where
  index : Nat
  deadline : Nat
  goal : Goal

/-- What an entry of the clock gives: the answer of a step, or what a task found
and when. -/
inductive Report where
  | performed (answer : Answer)
  | finished (result : Result) (time : Nat)

structure Clock where
  tasks : List Task
  reports : List (Nat × Report)

namespace Clock

def initial : Clock := ⟨[], []⟩

def report (clock : Clock) (index : Nat) (report : Report) : Clock :=
  { clock with reports := clock.reports ++ [(index, report)] }

def addTask (clock : Clock) (task : Task) : Clock :=
  { clock with tasks := clock.tasks ++ [task] }

def sorted (clock : Clock) (entries : Nat) : List Report :=
  (List.range entries).filterMap fun index => clock.reports.lookup index

end Clock

def giveBack (name : String) (stream : Nat) : Playing Unit :=
  modify fun player => player.addStream name stream

def takeItem (fuel : Nat) (name : String) (stream : Nat) : Playing (Except Goal Result) := do
  match resultOf (← ask fuel (.poll stream)) with
  | .poll .pending => return .error (.item name stream)
  | result => do
      giveBack name stream
      return .ok result

/-- What a task finds when it looks: a result, or what it goes on to wait for. -/
def Task.look (fuel : Nat) (task : Task) : Playing (Except Goal Result) := do
  match task.goal with
  | .outcome promise =>
      match ((← get).promise promise).result? with
      | some result => return .ok (.outcome result)
      | none => return .error task.goal
  | .stream name =>
      match (← get).stream? name with
      | none => return .ok .noHandle
      | some stream => do
          modify fun player =>
            { player with streams := player.streams.filter fun entry => entry.1 ≠ name }
          takeItem fuel name stream
  | .item name stream => takeItem fuel name stream

def Task.giveUp (task : Task) : Playing Result := do
  match task.goal with
  | .outcome _ => return .outcome (.error .timedOut)
  | .stream _ => return .poll .pending
  | .item name stream => do
      giveBack name stream
      return .poll .pending

def visit (fuel time : Nat) (clock : Clock) (task : Task) : Playing Clock := do
  match ← task.look fuel with
  | .ok result => return clock.report task.index (.finished result time)
  | .error goal =>
      let task := { task with goal }
      if task.deadline ≤ time then
        return clock.report task.index (.finished (← task.giveUp) time)
      else return clock.addTask task

def visitAll (fuel time : Nat) (clock : Clock) : Playing Clock :=
  clock.tasks.foldlM (visit fuel time) { clock with tasks := [] }

/-- Ends the tasks whose deadline lies before a time. -/
def expire (time : Nat) (clock : Clock) : Playing Clock := do
  let (late, tasks) := clock.tasks.partition fun task => task.deadline < time
  late.foldlM (fun clock task => do
    return clock.report task.index (.finished (← task.giveUp) task.deadline)) { clock with tasks }

def begin (fuel index : Nat) (entry : Entry) (clock : Clock) : Playing Clock := do
  match entry.action with
  | .step step => return clock.report index (.performed (← answer fuel step))
  | .wait future timeout =>
      match (← get).future? future with
      | none => return clock.report index (.finished .noHandle entry.time)
      | some promise => return clock.addTask ⟨index, entry.time + timeout, .outcome promise⟩
  | .next stream => return clock.addTask ⟨index, entry.time + dayLong, .stream stream⟩

/-- Goes through the entries; tasks look when the last entry of a time is done. -/
def goThrough (fuel : Nat) : Nat → List Entry → Clock → Playing Clock
  | _, [], clock => return clock
  | index, entry :: rest, clock => do
      let clock ← expire entry.time clock
      let clock ← begin fuel index entry clock
      let more := rest.head?.any fun next => next.time = entry.time
      let clock ← if more then pure clock else visitAll fuel entry.time clock
      goThrough fuel (index + 1) rest clock

def Clock.last (clock : Clock) : Nat :=
  clock.tasks.foldl (fun last task => max last task.deadline) 0

def Action.size : Action → Nat
  | .step performed => performed.size
  | _ => 1

def playTimed (logged : Bool) (steps : List Step) (entries : List Entry) :
    List Answer × List Report × Closing :=
  let fuel := patience (sizeOfSteps steps + Count.total (entries.map fun entry => entry.action.size))
  let playing : Playing (List Answer × List Report × Closing) := do
    let answers ← steps.mapM (answer fuel)
    let clock ← goThrough fuel 0 entries .initial
    let clock ← expire (clock.last + 1) clock
    return (answers, clock.sorted entries.length, ← close fuel)
  (playing.run (Player.start logged)).1

end Handoff.Script
