import Handoff.Capacity

namespace Handoff

structure Config where
  /-- Most octets kept before a chunk handler attaches; no limit if absent. -/
  pendingCeiling : Option Nat
  /-- Capacity of the buffer that collects the body as text. -/
  textCapacity : Capacity
deriving DecidableEq, Repr

namespace Config

def usual : Config :=
  ⟨none, .usual⟩

instance : Inhabited Config := ⟨usual⟩

/-- One limit for both. -/
def bounded (maximum : Nat) : Config :=
  ⟨some maximum, .fixed maximum⟩

end Config

end Handoff
