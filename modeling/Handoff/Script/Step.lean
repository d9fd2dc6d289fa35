import Handoff.Error.Description
import Handoff.Handler

namespace Handoff.Script

/-! Scripts.

A script is a list of steps on named objects.  Its handlers are programs: they
record what they are told, may perform steps of their own, and may panic. -/

inductive Limits where
  | usual
  | bounded (maximum : Nat)
  | json (text : String)

/-- A direct call of a completion handler. -/
inductive Told where
  | completed (value : String)
  | failed (text : String)
  | cancelled (force : Bool)

/-- A direct call of a chunk handler. -/
inductive Fed where
  | chunk (bytes : Bytes)
  | ended

inductive Function where
  /-- The size of the UTF-8 form, in decimal. -/
  | length
  | append (text : String)
  /-- Capital letters in place of small ones, in ASCII. -/
  | upper
  | reverse
  | panic
  | identity

def Function.apply : Function → String → String
  | .length, value => toString value.utf8ByteSize
  | .append text, value => value ++ text
  | .upper, value => String.ofList (value.toList.map Char.toUpper)
  | .reverse, value => String.ofList value.toList.reverse
  | .panic, value | .identity, value => value

inductive Listening where
  | everything
  | noCancel
  /-- Through one callback for each ending that is heard. -/
  | callbacks (hearing : Hearing)
  | logging (name : String)

mutual

inductive Step where
  | promise (name : String)
  | ready (name value : String)
  | failed (name cause : String)
  | cause (name text : String) (deeper : Option String)
  | causeOf (name : String) (error : Error.Description)
  | resolve (name value : String)
  | fail (name : String) (cause : Cause.Description)
  | failWith (name cause : String)
  | cancel (name : String) (force : Bool)
  | isDone (name : String)
  | drop (name : String)
  | cancelFuture (name : String) (force : Bool)
  | future (name new : String)
  | state (name : String)
  | listen (name : String) (listeners : List Listener)
  | map (name new : String) (function : Function)
  | result (name : String)
  /-- Waits, without a bound or with one. -/
  | wait (name : String) (bounded : Bool)
  | waiter (name new : String)
  | join (name : String)
  | same (name other : String)
  | inspect (name : String)
  | inspectCallbacks (hearing : Hearing)
  | tell (listener : Listener) (calls : List Told)
  | feed (consumer : Consumer) (calls : List Fed)
  | accumulator (name : String) (ceiling : Option Nat)
  | deliver (name : String) (bytes : Bytes)
  | close (name : String)
  | abort (name : String)
  | attach (name : String) (consumer : Consumer)
  | status (name : String)
  | body (name : String) (limits : Limits)
  | send (name : String) (bytes : Bytes)
  | finish (name value : String)
  | text (name new : String) (charset : Option String)
  | chunks (name new : String)
  | poll (name : String)
  | pollAll (name : String)
  | dropStream (name : String)
  /-- A step that does not exist, on an object that may. -/
  | unknown (name : String)

/-- A completion handler: how it listens, and what it does when it hears. -/
structure Listener where
  listening : Listening
  tag : String
  steps : List Step
  panics : Bool

inductive Consumer where
  | recording (program : Program)
  | logging (name : String)
  /-- Collects text for the promise of a sink. -/
  | text (sink : String) (charset : Option String) (capacity : Capacity)

structure Program where
  tag : String
  /-- Whether only chunks are recorded. -/
  closure : Bool
  /-- What chunk calls answer; the last one goes on, and no answer is yes. -/
  answers : List Bool
  reactions : List (Nat × List Step)
  finale : List Step
  panicsAt : Option Nat
  panicsAtEnd : Bool

end

instance : Inhabited Step := ⟨.unknown ""⟩

instance : Inhabited Listener := ⟨⟨.everything, "", [], false⟩⟩

instance : Inhabited Consumer := ⟨.logging ""⟩

/-- Which endings reach the program of a listener. -/
def Listener.hearing (listener : Listener) : Hearing :=
  match listener.listening with
  | .everything => .all
  | .noCancel => { Hearing.all with cancelled := false }
  | .callbacks hearing => hearing
  | .logging _ => ⟨false, false, false⟩

namespace Program

def answer (program : Program) (call : Nat) : Bool :=
  (program.answers[call]?.or program.answers.getLast?).getD true

def reaction (program : Program) (call : Nat) : List Step :=
  (program.reactions.lookup call).getD []

end Program

/-! The size of a script bounds the calls it can cause. -/

mutual

def Step.size : Step → Nat
  | .listen _ listeners => sizeOfListeners listeners + 1
  | .tell listener calls => listener.size + calls.length + 1
  | .feed consumer calls => consumer.size + calls.length + 1
  | .attach _ consumer => consumer.size + 1
  | _ => 1

def Listener.size : Listener → Nat
  | .mk _ _ steps _ => sizeOfSteps steps + 1

def Consumer.size : Consumer → Nat
  | .recording program => program.size + 1
  | _ => 1

def Program.size : Program → Nat
  | .mk _ _ _ reactions finale _ _ => sizeOfReactions reactions + sizeOfSteps finale + 1

def sizeOfListeners : List Listener → Nat
  | [] => 0
  | listener :: rest => listener.size + sizeOfListeners rest

def sizeOfSteps : List Step → Nat
  | [] => 0
  | step :: rest => step.size + sizeOfSteps rest

def sizeOfReactions : List (Nat × List Step) → Nat
  | [] => 0
  | (_, steps) :: rest => sizeOfSteps steps + sizeOfReactions rest

end

def Step.subject : Step → String
  | .promise name | .ready name _ | .failed name _ | .cause name _ _ | .causeOf name _
  | .resolve name _ | .fail name _ | .failWith name _ | .cancel name _ | .isDone name
  | .drop name | .cancelFuture name _ | .future name _ | .state name | .listen name _
  | .map name _ _ | .result name | .wait name _ | .waiter name _ | .join name | .same name _
  | .inspect name | .accumulator name _ | .deliver name _ | .close name | .abort name
  | .attach name _ | .status name | .body name _ | .send name _ | .finish name _
  | .text name _ _ | .chunks name _ | .poll name | .pollAll name | .dropStream name
  | .unknown name => name
  | .inspectCallbacks _ | .tell _ _ | .feed _ _ => ""

end Handoff.Script
