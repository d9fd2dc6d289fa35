import Handoff.Accumulator
import Handoff.Channel
import Handoff.Notice

namespace Handoff

/-! What happened.  The journal keeps the log together with every event that a
law of the library speaks about.

That a handler is told an outcome, is given a chunk or is told of the end is noted
as the library turns to the handler.  If the handler is the client's, the next step
calls it, and the entry of that call comes next. -/

/-- A call of client code. -/
inductive Invocation where
  | told (handler : Nat) (outcome : Outcome)
  | mapping (function : Nat) (value : String)
  | chunk (handler : Nat) (bytes : Bytes)
  | ending (handler : Nat)

inductive Entry where
  | notice (notice : Notice)
  | invoked (invocation : Invocation)
  /-- A chunk handler of the client is gone. -/
  | dropped (handler : Nat)
  | registered (promise registration : Nat)
  | told (promise registration : Nat) (outcome : Outcome)
  | settled (promise : Nat) (outcome : Outcome)
  /-- A chunk passed the checks of an accumulator. -/
  | accepted (accumulator : Nat) (bytes : Bytes)
  /-- A chunk was passed to the handler of an accumulator. -/
  | handed (accumulator : Nat) (bytes : Bytes)
  | answered (accumulator : Nat) (wantsEnd : Bool)
  | closed (accumulator : Nat) (ending : Ending)
  /-- The handler of an accumulator was told that the stream ended. -/
  | ended (accumulator : Nat)
  | released (accumulator : Nat)
  /-- The handler of an accumulator panicked. -/
  | collapsed (accumulator : Nat)
  | polled (channel : Nat) (poll : Poll)

end Handoff
