import Handoff.Proofs.Courses

namespace Handoff

/-! Sessions of a client with one body.

The client does one operation after the other and waits for the result of each.
Its handlers answer when they are called: they do not panic and do not call the
library, so what they answer is decided by the calls of handlers up to then. -/

/-- A handler that logs was called. -/
def Notice.isCall : Notice → Bool
  | .completed _ _ | .failed _ _ | .cancelled _ _ | .chunk _ _ | .endOfStream _ => true
  | _ => false

/-- A call of a handler: of client code, or of a handler that logs. -/
def Entry.isCall : Entry → Bool
  | .invoked _ => true
  | .notice line => line.isCall
  | _ => false

/-- The calls of handlers, latest first. -/
def Machine.calls (machine : Machine) : List Entry :=
  machine.journal.filter Entry.isCall

/-- How the handlers of a client answer. -/
structure Client where
  wantsEnd : List Entry → Bool
  value : List Entry → String

namespace Client

def answer (client : Client) (past : List Entry) : Invocation → Reply
  | .told _ _ | .ending _ => .done
  | .chunk _ _ => .flag (client.wantsEnd past)
  | .mapping _ _ => .value (client.value past)

theorem accepts_answer (client : Client) (past : List Entry) (invocation : Invocation) :
    invocation.accepts (client.answer past invocation) = true := by
  cases invocation <;> rfl

/-- What happens next while an operation runs. -/
def move (client : Client) (machine : Machine) : Move :=
  match machine.control, machine.stack with
  | .client _, .client invocation :: _ => .answer (client.answer machine.calls invocation)
  | _, _ => .tick

def plays (client : Client) (machine : Machine) (move : Move) : Prop :=
  move = client.move machine

theorem move_cases (client : Client) (machine : Machine) :
    client.move machine = .tick ∨ ∃ reply, client.move machine = .answer reply := by
  unfold move
  split
  · exact .inr ⟨_, rfl⟩
  · exact .inl rfl

/-- The machine after some moves of an operation. -/
def play (client : Client) : Nat → Machine → Machine
  | 0, machine => machine
  | count + 1, machine => client.play count (machine.act (client.move machine))

end Client

/-- What the client may do with a body, its sender, its stream and its completion. -/
inductive Operation where
  | send (bytes : Bytes)
  | complete (value : String)
  /-- Fails or cancels the body through its sender. -/
  | fail (outcome : Outcome)
  /-- Cancels the body through its completion. -/
  | cancel (force : Bool)
  | deliver (bytes : Bytes)
  /-- Closes or aborts the stream. -/
  | finish (ending : Ending)
  /-- Makes a handler and attaches it. -/
  | attach (handler : NewHandler)
  | text (charset : Charset)
  | chunks
  | listen (handler : Nat) (hearing : Hearing)
  | log (name : String)
  | poll (channel : Nat)

namespace Operation

def call (operation : Operation) (index : Nat) (machine : Machine) : Call :=
  let body := machine.world.body index
  match operation with
  | .send bytes => .send index bytes
  | .complete value => .complete index value
  | .fail outcome => .fail index outcome
  | .cancel force => .cancel body.promise force
  | .deliver bytes => .deliver body.accumulator bytes
  | .finish ending => .finish body.accumulator ending
  | .attach _ => .attach body.accumulator machine.world.handlers.size
  | .text charset => .text index charset
  | .chunks => .chunks index
  | .listen handler hearing => .listen body.promise handler hearing
  | .log name => .log body.promise name
  | .poll channel => .poll channel

/-- What the client does before the call. -/
def preparation : Operation → List Move
  | .attach handler => [.call (.newHandler handler), .tick]
  | _ => []

def moves (operation : Operation) (index : Nat) (machine : Machine) : List Move :=
  operation.preparation ++ [.call (operation.call index machine)]

/-- The client has what the operation needs. -/
def Admitted (operation : Operation) (index : Nat) (machine : Machine) : Prop :=
  (machine.run operation.preparation).world.admits (operation.call index machine) = true ∧
    match operation with
    | .attach handler => machine.world.admits (.newHandler handler) = true
    | _ => True

end Operation

/-- The machine after an operation that takes so many moves. -/
def Client.complete (client : Client) (index : Nat) (operation : Operation) (count : Nat)
    (before : Machine) : Machine :=
  (client.play count (before.run (operation.moves index before))).tick

/-- Whether a reply refuses an operation. -/
def Reply.isRefused : Reply → Bool
  | .result (.error _) => true
  | _ => false

section

variable {client : Client} {index : Nat} {operation : Operation} {reply : Reply}
  {before between after : Machine}

/-- The client does an operation and gets its result. -/
structure Performs (client : Client) (index : Nat) (operation : Operation) (before : Machine)
    (reply : Reply) (after : Machine) : Prop where
  admitted : operation.Admitted index before
  course : ∃ between, Machine.Course client.plays [] (before.run (operation.moves index before))
    between ∧ between.stack = [] ∧ between.control = .reply reply ∧ after = between.tick

/-- A client's operations on a body, each with its result. -/
inductive Session (client : Client) (index : Nat) :
    Machine → List (Operation × Reply) → Machine → Prop
  | start (machine : Machine) : Session client index machine [] machine
  | perform {before between after : Machine} {operation : Operation} {reply : Reply}
      {exchanges : List (Operation × Reply)}
      (performs : Performs client index operation before reply between)
      (rest : Session client index between exchanges after) :
      Session client index before ((operation, reply) :: exchanges) after

/-- A client plays one course only. -/
theorem Machine.Course.unique {base : List Frame} {machine first second : Machine}
    (one : Course client.plays base machine first) (firstOver : Over base first)
    (other : Course client.plays base machine second) (secondOver : Over base second) :
    first = second := by
  induction one with
  | start machine =>
      cases other with
      | start => rfl
      | move busy => exact absurd firstOver busy
  | move busy allowed rest ih =>
      cases other with
      | start => exact absurd secondOver busy
      | move _ played later =>
          cases allowed
          cases played
          exact ih firstOver later

theorem Performs.unique {first second : Machine} {result answer : Reply}
    (one : Performs client index operation before result first)
    (other : Performs client index operation before answer second) :
    result = answer ∧ first = second := by
  obtain ⟨between, course, bottom, replied, rfl⟩ := one.course
  obtain ⟨stop, again, floor, answered, rfl⟩ := other.course
  have same := course.unique ⟨bottom, by rw [replied]; rfl⟩ again ⟨floor, by rw [answered]; rfl⟩
  subst same
  rw [replied] at answered
  cases answered
  exact ⟨rfl, rfl⟩

/-- The operations decide the results and what comes of the session. -/
theorem Session.unique {exchanges others : List (Operation × Reply)} {first second : Machine}
    (one : Session client index before exchanges first)
    (other : Session client index before others second)
    (operations : others.map Prod.fst = exchanges.map Prod.fst) :
    others = exchanges ∧ second = first := by
  induction one generalizing others with
  | start machine =>
      cases other with
      | start => exact ⟨rfl, rfl⟩
      | perform => cases operations
  | perform performs rest ih =>
      cases other with
      | start => cases operations
      | perform performed later =>
          simp only [List.map_cons, List.cons.injEq] at operations
          obtain ⟨rfl, operations⟩ := operations
          obtain ⟨rfl, rfl⟩ := performs.unique performed
          obtain ⟨rfl, rfl⟩ := ih later operations
          exact ⟨rfl, rfl⟩

theorem course_play {base : List Frame} {machine : Machine} (count : Nat)
    (busy : ∀ earlier < count, Machine.isAbove base.length (client.play earlier machine) = true) :
    Machine.Course client.plays base machine (client.play count machine) := by
  induction count generalizing machine with
  | zero => exact .start machine
  | succ count ih =>
      refine .move (fun ceased => ?_) rfl (ih fun earlier less => ?_)
      · have above := busy 0 (Nat.succ_pos count)
        simp [Machine.isAbove, Client.play, ceased.1, ceased.2] at above
      · exact busy (earlier + 1) (Nat.succ_lt_succ less)

theorem performs_play (count : Nat) (admitted : operation.Admitted index before)
    (busy : ∀ earlier < count, Machine.isAbove 0
      (client.play earlier (before.run (operation.moves index before))) = true)
    (bottom : (client.play count (before.run (operation.moves index before))).stack = [])
    (replied : (client.play count (before.run (operation.moves index before))).control =
      .reply reply) :
    Performs client index operation before reply (client.complete index operation count before) :=
  ⟨admitted, _, course_play count busy, bottom, replied, rfl⟩

theorem Performs.run (performs : Performs client index operation before reply after) :
    ∃ moves, before.run moves = after := by
  obtain ⟨between, course, -, -, rfl⟩ := performs.course
  obtain ⟨moves, rfl⟩ := course.reached
  refine ⟨operation.moves index before ++ moves ++ [.tick], ?_⟩
  simp only [Machine.run_append, Machine.run_cons, Machine.run_nil]
  rfl

/-- Between operations control is with the client, outside of every handler. -/
theorem Performs.idle (performs : Performs client index operation before reply after) :
    after.stack = [] ∧ after.control = .client (.replied reply) := by
  obtain ⟨between, -, bottom, replied, rfl⟩ := performs.course
  obtain ⟨world, stack, control, journal⟩ := between
  obtain rfl : stack = [] := bottom
  obtain rfl : control = .reply reply := replied
  exact ⟨rfl, rfl⟩

end

end Handoff
