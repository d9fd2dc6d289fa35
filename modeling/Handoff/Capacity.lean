import Handoff.Count
import Handoff.Error

namespace Handoff

inductive Capacity where
  /-- Never more than `maximum` octets; storage grows by powers of two. -/
  | fixed (maximum : Nat)
  /-- Storage grows by whole increments, up to the ceiling. -/
  | growable (increment ceiling : Nat)
deriving DecidableEq, Repr

namespace Capacity

/-- The usual growth step, 16 KiB. -/
def smallStep : Nat := 1024 * 16

/-- The usual ceiling, 1000 KiB. -/
def usualCeiling : Nat := 1024 * 1000

def usual : Capacity :=
  .growable smallStep usualCeiling

instance : Inhabited Capacity := ⟨usual⟩

def limit : Capacity → Nat
  | .fixed maximum => maximum
  | .growable _ ceiling => ceiling

/-- Growth by whole increments needs an increment that is not zero and fits
under the ceiling. -/
def isValid : Capacity → Bool
  | .fixed _ => true
  | .growable increment ceiling => !(increment == 0 || ceiling < increment)

/-- Refuses a capacity that could never hold an octet. -/
def validate (capacity : Capacity) : Except Error Unit :=
  if capacity.isValid then .ok () else .error .invalidCapacity

/-- The storage step that holds `required` octets, the limit aside. -/
def step (required : Nat) : Capacity → Nat
  | .fixed maximum => min ((Count.nextPowerOfTwo? required).getD maximum) maximum
  | .growable increment ceiling =>
      let steps := max ((required + increment - 1) / increment) 1
      min (Count.cappedMul steps increment) ceiling

def storageFor (capacity : Capacity) (required : Nat) : Except Error Nat := do
  capacity.validate
  if required > capacity.limit then
    throw (.capacityExceeded required capacity.limit)
  return capacity.step required

end Capacity

end Handoff
