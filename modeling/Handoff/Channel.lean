import Handoff.Bytes
import Handoff.Error

namespace Handoff

/-! Channels.

A channel carries the chunks of a body to a reader.  Two handlers send into it,
through one opening: once either of them closes it, nothing follows. -/

inductive Poll where
  | pending
  | chunk (bytes : Bytes)
  | error (error : Error)
  | ended

structure Channel where
  /-- Items on their way, oldest first. -/
  items : List (Except Error Bytes)
  opened : Bool
  /-- How many handlers hold the sending side. -/
  senders : Nat
  listening : Bool

namespace Channel

def new : Channel :=
  ⟨[], true, 2, true⟩

instance : Inhabited Channel := ⟨⟨[], false, 0, false⟩⟩

/-- Sends an item; nobody gets it when the channel is closed or nobody reads. -/
def send (channel : Channel) (item : Except Error Bytes) : Channel :=
  if channel.opened && channel.listening then
    { channel with items := channel.items ++ [item] }
  else channel

def close (channel : Channel) : Channel :=
  { channel with opened := false }

/-- One of the handlers is gone; with the last one the channel closes. -/
def leave (channel : Channel) : Channel :=
  { channel with senders := channel.senders - 1, opened := channel.opened && channel.senders > 1 }

def abandon (channel : Channel) : Channel :=
  { channel with items := [], listening := false }

def poll (channel : Channel) : Poll × Channel :=
  match channel.items with
  | .ok bytes :: rest => (.chunk bytes, { channel with items := rest })
  | .error error :: rest => (.error error, { channel with items := rest })
  | [] => (if channel.opened then .pending else .ended, channel)

end Channel

end Handoff
