import Handoff.Config

namespace Handoff

/-! Streamed bodies.

A body joins an accumulator for its chunks with a promise for its completion.
The sender is the only holder of the promise's sink. -/

structure Body where
  accumulator : Nat
  promise : Nat
  config : Config
  /-- How many hold the sender: the client, and every running call on it. -/
  senders : Nat
  /-- Whether the client holds the sender. -/
  owned : Bool

namespace Body

instance : Inhabited Body := ⟨⟨0, 0, default, 0, false⟩⟩

def addSender (body : Body) : Body :=
  { body with senders := body.senders + 1 }

def removeSender (body : Body) : Body :=
  { body with senders := body.senders - 1 }

end Body

end Handoff
