import Handoff.Machine.Call

namespace Handoff

/-! Runs of the machine. -/

/-- One move: a step of the library, or something the client does. -/
inductive Move where
  | tick
  | call (call : Call)
  /-- Makes a cause to fail promises with. -/
  | describe (description : Cause.Description)
  /-- Ends the innermost call of client code. -/
  | answer (reply : Reply)
  | panic (message : String)

def Invocation.accepts : Invocation → Reply → Bool
  | .told _ _, .done => true
  | .mapping _ _, .value _ => true
  | .chunk _ _, .flag _ => true
  | .ending _, .done => true
  | _, _ => false

namespace Machine

/-- Makes a move.  A move that is not possible changes nothing. -/
def act (machine : Machine) (move : Move) : Machine :=
  match move, machine.control with
  | .tick, _ => machine.tick
  | .call call, .client _ =>
      if machine.world.admits call then machine.begin call else machine
  | .describe description, .client _ => (machine.describe description).2
  | .answer reply, .client _ =>
      match machine.stack with
      | .client invocation :: stack =>
          if invocation.accepts reply then { machine with stack, control := .reply reply }
          else machine
      | _ => machine
  | .panic message, .client _ =>
      match machine.stack with
      | .client _ :: stack => { machine with stack, control := .panic message }
      | _ => machine
  | _, _ => machine

def run (machine : Machine) (moves : List Move) : Machine :=
  moves.foldl act machine

/-- Lets the library work until control is with the client, for `fuel` steps at
most. -/
def advance : Nat → Machine → Machine
  | 0, machine => machine
  | fuel + 1, machine =>
      match machine.control with
      | .client _ | .stopped => machine
      | _ => advance fuel machine.tick

def frameWork : Frame → Nat
  | .dispatching _ _ waiting => waiting.length + 1
  | .forgetting handlers => handlers.length + 1
  | _ => 1

/-- A bound on the steps the library can make before it calls the client or
returns to it: every handler, every queued item and every promise is dealt with
once, in a few steps. -/
def patience (machine : Machine) : Nat :=
  let world := machine.world
  let handlers := world.promises.rows.map fun promise => promise.waiting.length + 1
  let items := world.accumulators.rows.map fun accumulator => accumulator.queue.length + 1
  32 * (Count.total handlers + Count.total items + Count.total (machine.stack.map frameWork) + 8)

def settleDown (machine : Machine) : Machine :=
  machine.advance machine.patience

end Machine

end Handoff
