import Handoff.Proofs.Buffers.Growth
import Mathlib.Algebra.Group.Nat.Defs
import Mathlib.Order.Bounds.Basic

namespace Handoff

/-! The steps in which storage is set aside.

A step is a power of two or a whole number of increments.  For a size the least step
that holds it is set aside, cut off at the limit.  All of it can be computed in words:
no operation on the way lacks a result, and none has one that is too large. -/

namespace Count

/-! Operations on words.  One that has no result, or none that fits a word, gives
nothing. -/

def word? (count : Nat) : Option Nat :=
  if count ≤ limit then some count else none

def minus? (left right : Nat) : Option Nat :=
  if right ≤ left then some (left - right) else none

def quotient? (count divisor : Nat) : Option Nat :=
  if divisor = 0 then none else some (count / divisor)

def remainder? (count divisor : Nat) : Option Nat :=
  if divisor = 0 then none else some (count % divisor)

def shiftedRight? (count places : Nat) : Option Nat :=
  if places < 64 then some (count >>> places) else none

/-- A quotient in words, rounded up. -/
def ceiling? (count divisor : Nat) : Option Nat := do
  let whole ← quotient? count divisor
  let rest ← remainder? count divisor
  if rest = 0 then return whole else word? (whole + 1)

/-- The next power of two computed in words, if it is one: all places from the highest
of `count - 1` downwards are filled, and one is added. -/
def power? (count : Nat) : Option (Option Nat) := do
  if count ≤ 1 then return word? (0 + 1)
  let less ← minus? count 1
  let free ← minus? 63 less.log2
  let filled ← shiftedRight? limit free
  return word? (filled + 1)

variable {count divisor : Nat}

theorem ceiling?_eq (fits : count ≤ limit) (some : 0 < divisor) :
    ceiling? count divisor = .some ((count + divisor - 1) / divisor) := by
  have whole := Nat.div_add_mod count divisor
  have less := Nat.mod_lt count some
  have divides : divisor ≠ 0 := by omega
  simp only [ceiling?, quotient?, remainder?, if_neg divides, Option.bind_eq_bind, Option.bind_some]
  by_cases rest : count % divisor = 0
  · rw [if_pos rest]
    have same : (count + divisor - 1) / divisor = count / divisor := by
      refine Nat.div_eq_of_lt_le ?_ ?_
      · rw [Nat.mul_comm]; omega
      · rw [Nat.succ_mul, Nat.mul_comm]; omega
    rw [same]
    rfl
  · rw [if_neg rest]
    have same : (count + divisor - 1) / divisor = count / divisor + 1 := by
      refine Nat.div_eq_of_lt_le ?_ ?_
      · rw [Nat.succ_mul, Nat.mul_comm]; omega
      · rw [Nat.succ_mul, Nat.succ_mul, Nat.mul_comm]; omega
    -- A rest means that the divisor is more than one, so there is a word above the quotient.
    have half : count / divisor ≤ count / 2 := Nat.div_le_div_left (by omega) (by decide)
    have room : count / divisor + 1 ≤ limit := by
      unfold limit at fits ⊢
      omega
    rw [word?, if_pos room, same]

/-- Filling all places from one downwards and adding one gives the next power. -/
theorem filled_add_one {place : Nat} (inside : place ≤ 63) :
    limit >>> (63 - place) + 1 = 2 ^ (place + 1) := by
  have places : 2 ^ (place + 1) * 2 ^ (63 - place) = limit + 1 := by
    rw [← Nat.pow_add, (by omega : place + 1 + (63 - place) = 64)]
    rfl
  have positive := Nat.two_pow_pos (63 - place)
  have power := Nat.two_pow_pos (place + 1)
  have quotient : limit / 2 ^ (63 - place) = 2 ^ (place + 1) - 1 := by
    refine Nat.div_eq_of_lt_le ?_ ?_
    · rw [Nat.sub_mul]; omega
    · rw [Nat.sub_add_cancel power]; omega
  rw [Nat.shiftRight_eq_div_pow, quotient, Nat.sub_add_cancel power]

theorem nextPowerOfTwo_le_limit : nextPowerOfTwo count ≤ limit ↔ count ≤ 0x8000000000000000 := by
  constructor
  · intro word
    have above := le_nextPowerOfTwo count
    obtain ⟨exponent, power⟩ := isPowerOfTwo_nextPowerOfTwo count
    rw [power] at above word
    have exponents : exponent < 64 := (Nat.pow_lt_pow_iff_right (by decide : 1 < 2)).mp
      (Nat.lt_of_le_of_lt word (by decide : limit < 2 ^ 64))
    have half : 2 ^ exponent ≤ 2 ^ 63 :=
      Nat.pow_le_pow_right (by decide) (Nat.le_of_lt_succ exponents)
    omega
  · intro half
    exact Nat.le_trans (nextPowerOfTwo_le ⟨63, rfl⟩ half) (by decide)

theorem nextPowerOfTwo?_eq (count : Nat) : nextPowerOfTwo? count = word? (nextPowerOfTwo count) := by
  simp only [nextPowerOfTwo?, word?, nextPowerOfTwo_le_limit]

theorem power?_eq (fits : count ≤ limit) : power? count = some (nextPowerOfTwo? count) := by
  rw [nextPowerOfTwo?_eq]
  unfold power? nextPowerOfTwo
  by_cases small : count ≤ 1
  · rw [if_pos small, if_pos small]
    rfl
  · have place : (count - 1).log2 < 64 :=
      (Nat.log2_lt (by omega)).mpr (by unfold limit at fits; omega)
    simp only [if_neg small, minus?, if_pos (by omega : 1 ≤ count),
      if_pos (Nat.le_of_lt_succ place), shiftedRight?, if_pos (by omega : 63 - (count - 1).log2 < 64),
      Option.bind_eq_bind, Option.bind_some, filled_add_one (Nat.le_of_lt_succ place),
      Nat.one_shiftLeft]
    rfl

theorem cappedMul_eq (left right : Nat) : cappedMul left right = (word? (left * right)).getD limit := by
  unfold cappedMul word?
  split
  case isTrue fits => exact Nat.min_eq_left fits
  case isFalse large => exact Nat.min_eq_right (by omega)

/-- Where a count is cut off at a word, it makes no difference if it is no word itself. -/
theorem min_word? {most : Nat} (word : most ≤ limit) (count : Nat) :
    min ((word? count).getD most) most = min count most := by
  unfold word?
  split
  case isTrue => rfl
  case isFalse large => rw [Option.getD_none, Nat.min_self, Nat.min_eq_right (by omega)]

end Count

namespace Capacity

variable {capacity : Capacity} {required larger storage : Nat}

/-- The storage step computed in words. -/
def stepInWords (required : Nat) : Capacity → Option Nat
  | .fixed maximum => do
      let power ← Count.power? required
      return min (power.getD maximum) maximum
  | .growable increment ceiling => do
      let steps ← Count.ceiling? required increment
      return min ((Count.word? (max steps 1 * increment)).getD Count.limit) ceiling

/-- The storage for a size computed in words, or nothing if that is not possible. -/
def storageInWords (capacity : Capacity) (required : Nat) : Option (Except Error Nat) :=
  match capacity.validate with
  | .error error => some (.error error)
  | .ok () =>
      if required > capacity.limit then
        some (.error (.capacityExceeded required capacity.limit))
      else (capacity.stepInWords required).map .ok

/-- The sizes that may be set aside, the limit aside. -/
def IsStep (size : Nat) : Capacity → Prop
  | .fixed _ => size.isPowerOfTwo
  | .growable increment _ => ∃ count, 1 ≤ count ∧ size = count * increment

/-- The least step that holds `required` octets, the limit aside. -/
def wholeStep (required : Nat) : Capacity → Nat
  | .fixed _ => Count.nextPowerOfTwo required
  | .growable increment _ => max ((required + increment - 1) / increment) 1 * increment

theorem validate_ok_iff : capacity.validate = .ok () ↔ capacity.isValid = true := by
  unfold validate
  split <;> simp [*]

theorem isLeast_wholeStep (valid : capacity.isValid = true) (required : Nat) :
    IsLeast {size | capacity.IsStep size ∧ required ≤ size} (capacity.wholeStep required) := by
  cases capacity with
  | fixed maximum =>
      exact ⟨⟨Count.isPowerOfTwo_nextPowerOfTwo required, Count.le_nextPowerOfTwo required⟩,
        fun size step => Count.nextPowerOfTwo_le step.1 step.2⟩
  | growable increment ceiling =>
      obtain ⟨some, -⟩ := isValid_growable.mp valid
      refine ⟨⟨⟨_, Nat.le_max_right _ _, rfl⟩, le_increments some required⟩, ?_⟩
      rintro size ⟨⟨count, one, rfl⟩, holds⟩
      exact Nat.mul_le_mul_right increment (increments_le some one holds)

/-- What is set aside is the least step that holds a size, or all there may be. -/
theorem step_eq (word : capacity.limit ≤ Count.limit) (required : Nat) :
    capacity.step required = min (capacity.wholeStep required) capacity.limit := by
  cases capacity with
  | fixed maximum =>
      rw [step, Count.nextPowerOfTwo?_eq]
      exact Count.min_word? word _
  | growable increment ceiling =>
      change ceiling ≤ Count.limit at word
      rw [step, Count.cappedMul, Nat.min_assoc, Nat.min_eq_right word]
      rfl

theorem step_mono (word : capacity.limit ≤ Count.limit) (valid : capacity.isValid = true)
    (more : required ≤ larger) : capacity.step required ≤ capacity.step larger := by
  rw [step_eq word, step_eq word]
  have least := (isLeast_wholeStep valid larger).mono (isLeast_wholeStep valid required)
    fun size step => ⟨step.1, Nat.le_trans more step.2⟩
  omega

theorem stepInWords_eq (valid : capacity.isValid = true) (fits : required ≤ Count.limit) :
    capacity.stepInWords required = some (capacity.step required) := by
  cases capacity with
  | fixed maximum =>
      simp only [stepInWords, Count.power?_eq fits]
      rfl
  | growable increment ceiling =>
      simp only [stepInWords, Count.ceiling?_eq fits (isValid_growable.mp valid).1, step,
        Count.cappedMul_eq]
      rfl

theorem storageInWords_eq (capacity : Capacity) (fits : required ≤ Count.limit) :
    capacity.storageInWords required = some (capacity.storageFor required) := by
  unfold storageInWords storageFor
  cases validated : capacity.validate with
  | error error => rfl
  | ok =>
      simp only [stepInWords_eq (validate_ok_iff.mp validated) fits]
      split <;> rfl

/-- The law of storage steps.  Storage is set aside exactly for the sizes that a valid
capacity may hold, and can be computed in words.  It is the least step that holds the
size, cut off at the limit; a larger size takes no less, and storage takes itself. -/
theorem storage_law (word : capacity.limit ≤ Count.limit) :
    (∀ required ≤ Count.limit,
      capacity.storageInWords required = some (capacity.storageFor required) ∧
      ((∃ storage, capacity.storageFor required = .ok storage) ↔
        capacity.validate = .ok () ∧ required ≤ capacity.limit)) ∧
    (∀ required storage, capacity.storageFor required = .ok storage →
      required ≤ storage ∧ storage ≤ capacity.limit ∧
      (∃ size, IsLeast {size | capacity.IsStep size ∧ required ≤ size} size ∧
        storage = min size capacity.limit) ∧
      capacity.storageFor storage = .ok storage) ∧
    (∀ required larger storage more, required ≤ larger →
      capacity.storageFor required = .ok storage → capacity.storageFor larger = .ok more →
        storage ≤ more) := by
  refine ⟨fun required fits => ⟨storageInWords_eq capacity fits, ?_⟩,
    fun required storage stored => ?_, fun required larger storage more above stored larges => ?_⟩
  · simp [storageFor_ok_iff, validate_ok_iff]
  · obtain ⟨⟨valid, fits⟩, rfl⟩ := storageFor_ok_iff.mp stored
    have within := capacity.step_le_limit required
    have holds := le_step word valid fits
    exact ⟨holds, within, ⟨_, isLeast_wholeStep valid required, step_eq word required⟩,
      storageFor_ok_iff.mpr ⟨⟨valid, within⟩, step_absorbs holds (Nat.le_refl _)⟩⟩
  · obtain ⟨⟨valid, -⟩, rfl⟩ := storageFor_ok_iff.mp stored
    obtain ⟨-, rfl⟩ := storageFor_ok_iff.mp larges
    exact step_mono word valid above

/-- At the edge of a word: the next whole number of increments, and the next power of
two, are no words. -/
theorem storage_law_edge :
    limit (.growable 0x8000000000000000 Count.limit) ≤ Count.limit ∧
    storageInWords (.growable 0x8000000000000000 Count.limit) 0x8000000000000001 =
      some (.ok Count.limit) ∧
    limit (.fixed 0x8000000000000005) ≤ Count.limit ∧
    (∃ size, IsLeast {size | (fixed 0x8000000000000005).IsStep size ∧ 0x8000000000000001 ≤ size}
      size ∧ 0x8000000000000005 = min size 0x8000000000000005) ∧
    storageFor (.fixed 0x8000000000000005) 0x8000000000000005 = .ok 0x8000000000000005 := by
  have wide : limit (.growable 0x8000000000000000 Count.limit) ≤ Count.limit := Nat.le_refl _
  have narrow : limit (.fixed 0x8000000000000005) ≤ Count.limit := by decide
  obtain ⟨words, -⟩ := storage_law wide
  obtain ⟨-, steps, -⟩ := storage_law narrow
  obtain ⟨-, -, least, again⟩ := steps 0x8000000000000001 0x8000000000000005 rfl
  refine ⟨wide, ?_, narrow, least, again⟩
  rw [(words 0x8000000000000001 (by decide)).1]
  rfl

end Capacity

end Handoff
