namespace Handoff.Count

/-! Counts are natural numbers.  Where a rule depends on the largest count a
64-bit word can hold, that limit appears by name. -/

/-- The largest count that fits a 64-bit word. -/
def limit : Nat := 0xffffffffffffffff

def cappedAdd (left right : Nat) : Nat :=
  min (left + right) limit

def cappedMul (left right : Nat) : Nat :=
  min (left * right) limit

/-- The least power of two that is not below `count`. -/
def nextPowerOfTwo (count : Nat) : Nat :=
  if count ≤ 1 then 1 else 1 <<< ((count - 1).log2 + 1)

/-- The least power of two that is not below `count`, if it is a 64-bit count. -/
def nextPowerOfTwo? (count : Nat) : Option Nat :=
  if count ≤ 0x8000000000000000 then some (nextPowerOfTwo count) else none

def total (counts : List Nat) : Nat :=
  counts.foldr (fun count sum => count + sum) 0

end Handoff.Count
