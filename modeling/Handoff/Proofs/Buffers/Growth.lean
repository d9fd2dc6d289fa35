import Handoff.Buffer

namespace Handoff

/-! How a buffer grows.

A buffer takes octets exactly if its capacity holds what would then be in it,
and the storage that is set aside depends only on how much that is, not on the
pieces in which it came. -/

namespace Count

variable {count larger : Nat}

theorem le_nextPowerOfTwo (count : Nat) : count ≤ nextPowerOfTwo count := by
  unfold nextPowerOfTwo
  split
  case isTrue small => exact small
  case isFalse =>
      have above := Nat.lt_log2_self (n := count - 1)
      rw [Nat.one_shiftLeft]
      omega

theorem isPowerOfTwo_nextPowerOfTwo (count : Nat) : (nextPowerOfTwo count).isPowerOfTwo := by
  unfold nextPowerOfTwo
  split
  · exact ⟨0, rfl⟩
  · exact ⟨_, Nat.one_shiftLeft _⟩

/-- No smaller power of two would do. -/
theorem nextPowerOfTwo_le {power : Nat} (two : power.isPowerOfTwo) (less : count ≤ power) :
    nextPowerOfTwo count ≤ power := by
  obtain ⟨exponent, rfl⟩ := two
  unfold nextPowerOfTwo
  split
  case isTrue => exact Nat.one_le_two_pow
  case isFalse several =>
      have exponents : (count - 1).log2 < exponent := (Nat.log2_lt (by omega)).mpr (by omega)
      rw [Nat.one_shiftLeft]
      exact Nat.pow_le_pow_right (by decide) exponents

/-- Whatever fits below the next power of two has the same next power of two. -/
theorem nextPowerOfTwo_absorbs (more : count ≤ larger) (less : larger ≤ nextPowerOfTwo count) :
    nextPowerOfTwo larger = nextPowerOfTwo count :=
  Nat.le_antisymm (nextPowerOfTwo_le (isPowerOfTwo_nextPowerOfTwo count) less)
    (nextPowerOfTwo_le (isPowerOfTwo_nextPowerOfTwo larger)
      (Nat.le_trans more (le_nextPowerOfTwo larger)))

theorem nextPowerOfTwo?_absorbs {otherwise : Nat} (more : count ≤ larger)
    (less : larger ≤ (nextPowerOfTwo? count).getD otherwise) :
    nextPowerOfTwo? larger = nextPowerOfTwo? count := by
  unfold nextPowerOfTwo? at less ⊢
  by_cases small : count ≤ 0x8000000000000000
  · rw [if_pos small, Option.getD_some] at less
    have power : nextPowerOfTwo count ≤ 0x8000000000000000 :=
      nextPowerOfTwo_le ⟨63, by decide⟩ small
    have smaller : larger ≤ 0x8000000000000000 := Nat.le_trans less power
    rw [if_pos small, if_pos smaller, nextPowerOfTwo_absorbs more less]
  · rw [if_neg small, if_neg (by omega)]

end Count

namespace Capacity

variable {capacity : Capacity} {required : Nat}

/-- Decides whether `size` octets can be held; nothing can be held by every
capacity. -/
def holds (capacity : Capacity) (size : Nat) : Bool :=
  size == 0 || (capacity.isValid && decide (size ≤ capacity.limit))

def refusal (capacity : Capacity) (size : Nat) : Error :=
  if capacity.isValid then .capacityExceeded size capacity.limit else .invalidCapacity

theorem holds_iff {size : Nat} : capacity.holds size = true ↔
    size = 0 ∨ capacity.isValid = true ∧ size ≤ capacity.limit := by
  simp [holds]

theorem holds_of_le {size smaller : Nat} (holds : capacity.holds size = true)
    (less : smaller ≤ size) : capacity.holds smaller = true := by
  rw [holds_iff] at holds ⊢
  rcases holds with empty | ⟨valid, fits⟩
  · exact .inl (by omega)
  · exact .inr ⟨valid, Nat.le_trans less fits⟩

theorem isValid_growable {increment ceiling : Nat} :
    (growable increment ceiling).isValid = true ↔ 0 < increment ∧ increment ≤ ceiling := by
  simp [isValid, Nat.pos_iff_ne_zero]

theorem step_le_limit (capacity : Capacity) (required : Nat) :
    capacity.step required ≤ capacity.limit := by
  cases capacity with
  | fixed maximum => exact Nat.min_le_right _ _
  | growable increment ceiling => exact Nat.min_le_right _ _

/-- The number of increments that is set aside holds the size. -/
theorem le_increments {increment : Nat} (some : 0 < increment) (required : Nat) :
    required ≤ max ((required + increment - 1) / increment) 1 * increment := by
  have whole := Nat.lt_div_mul_add (a := required + increment - 1) some
  have steps := Nat.mul_le_mul_right increment
    (Nat.le_max_left ((required + increment - 1) / increment) 1)
  omega

/-- No smaller number of increments would do, unless it is none. -/
theorem increments_le {increment count : Nat} (some : 0 < increment) (one : 1 ≤ count)
    (holds : required ≤ count * increment) :
    max ((required + increment - 1) / increment) 1 ≤ count := by
  refine Nat.max_le.mpr ⟨Nat.le_of_lt_succ ((Nat.div_lt_iff_lt_mul some).mpr ?_), one⟩
  rw [Nat.succ_mul]
  omega

/-- A step holds what it is made for, as long as the limit is a 64-bit count. -/
theorem le_step (word : capacity.limit ≤ Count.limit) (valid : capacity.isValid = true)
    (fits : required ≤ capacity.limit) : required ≤ capacity.step required := by
  cases capacity with
  | fixed maximum =>
      refine Nat.le_min.mpr ⟨?_, fits⟩
      unfold Count.nextPowerOfTwo?
      split
      · exact Count.le_nextPowerOfTwo required
      · exact fits
  | growable increment ceiling =>
      have enough := le_increments (isValid_growable.mp valid).1 required
      exact Nat.le_min.mpr ⟨Nat.le_min.mpr ⟨enough, Nat.le_trans fits word⟩, fits⟩

/-- The number of increments that hold a size is also that of every larger size
they hold. -/
theorem steps_absorbs {increment larger : Nat} (more : required ≤ larger)
    (less : larger ≤ max ((required + increment - 1) / increment) 1 * increment) :
    max ((larger + increment - 1) / increment) 1 =
      max ((required + increment - 1) / increment) 1 := by
  have grows : (required + increment - 1) / increment ≤ (larger + increment - 1) / increment :=
    Nat.div_le_div_right (by omega)
  have enough : (larger + increment - 1) / increment ≤
      max ((required + increment - 1) / increment) 1 := by
    rcases Nat.eq_zero_or_pos increment with rfl | some
    · simp
    · exact Nat.le_trans (Nat.le_max_left _ 1) (increments_le some (Nat.le_max_right _ 1) less)
  omega

/-- The step made for a size is also the step of every larger size it holds. -/
theorem step_absorbs {larger : Nat} (more : required ≤ larger)
    (less : larger ≤ capacity.step required) : capacity.step larger = capacity.step required := by
  cases capacity with
  | fixed maximum =>
      have power := Count.nextPowerOfTwo?_absorbs more (Nat.le_trans less (Nat.min_le_left _ _))
      rw [step, step, power]
  | growable increment ceiling =>
      rw [step, step, steps_absorbs more (Nat.le_trans less
        (Nat.le_trans (Nat.min_le_left _ _) (Nat.min_le_left _ _)))]

theorem storageFor_eq (capacity : Capacity) (required : Nat) :
    capacity.storageFor required =
      if capacity.isValid ∧ required ≤ capacity.limit then .ok (capacity.step required)
      else .error (capacity.refusal required) := by
  by_cases valid : capacity.isValid = true
  · by_cases less : required ≤ capacity.limit
    · have fits : ¬ required > capacity.limit := by omega
      simp [storageFor, validate, valid, less, fits, bind, Except.bind, pure, Except.pure]
    · have exceeds : required > capacity.limit := by omega
      simp [storageFor, validate, valid, less, exceeds, refusal, bind, Except.bind, throw,
        throwThe, MonadExceptOf.throw]
  · simp [storageFor, validate, valid, refusal, bind, Except.bind]

theorem storageFor_ok_iff {storage : Nat} : capacity.storageFor required = .ok storage ↔
    (capacity.isValid = true ∧ required ≤ capacity.limit) ∧ capacity.step required = storage := by
  rw [storageFor_eq]
  split <;> simp [*]

/-- The storage there is once `required` octets must have a place, when there
was some before. -/
def room (capacity : Capacity) (storage required : Nat) : Nat :=
  if required > storage then capacity.step required else storage

theorem le_room (word : capacity.limit ≤ Count.limit) (fits : capacity.holds required = true)
    (storage : Nat) : required ≤ capacity.room storage required := by
  unfold room
  split
  case isTrue grows =>
      have allowed := (holds_iff.mp fits).resolve_left (by omega)
      exact le_step word allowed.1 allowed.2
  case isFalse enough => omega

/-- Storage set aside in two steps is what one step would set aside. -/
theorem room_room {storage larger : Nat} (more : required ≤ larger) :
    capacity.room (capacity.room storage required) larger = capacity.room storage larger := by
  unfold room
  by_cases grows : required > storage
  · rw [if_pos grows, if_pos (by omega : larger > storage)]
    split
    case isTrue => rfl
    case isFalse enough => exact (step_absorbs more (by omega)).symm
  · rw [if_neg grows]

end Capacity

namespace Buffer

variable {buffer after : Buffer}

/-- Storage is within the limit, and only a valid capacity has any. -/
structure Sound (buffer : Buffer) : Prop where
  storage : buffer.storage ≤ buffer.capacity.limit
  valid : 0 < buffer.storage → buffer.capacity.isValid = true

theorem sound_new (capacity : Capacity) : (new capacity).Sound :=
  ⟨Nat.zero_le _, fun some => absurd some (Nat.lt_irrefl 0)⟩

/-- A buffer once it has taken octets at the end. -/
def grown (buffer : Buffer) (bytes : Bytes) : Buffer :=
  { buffer with
    storage := buffer.capacity.room buffer.storage (buffer.length + bytes.length)
    content := buffer.content ++ bytes }

@[simp] theorem length_grown (bytes : Bytes) :
    (buffer.grown bytes).length = buffer.length + bytes.length :=
  List.length_append

theorem Sound.reserve_eq (sound : buffer.Sound) (required : Nat) :
    buffer.reserve required =
      if buffer.capacity.holds required then
        .ok { buffer with storage := buffer.capacity.room buffer.storage required }
      else .error (buffer.capacity.refusal required) := by
  by_cases grows : required > buffer.storage
  · have decides : buffer.capacity.holds required = true ↔
        buffer.capacity.isValid = true ∧ required ≤ buffer.capacity.limit := by
      rw [Capacity.holds_iff]
      exact or_iff_right (by omega)
    simp only [reserve, Capacity.room, if_pos grows, Capacity.storageFor_eq, decides]
    split <;> rfl
  · have holds : buffer.capacity.holds required = true := by
      rw [Capacity.holds_iff]
      by_cases none : buffer.storage = 0
      · exact .inl (by omega)
      · exact .inr ⟨sound.valid (by omega), by have := sound.storage; omega⟩
    simp only [reserve, Capacity.room, if_neg grows, holds, ↓reduceIte]
    rfl

/-- An append to a buffer that is written to takes everything or nothing, as the
capacity holds the whole or does not. -/
theorem Sound.append_eq (sound : buffer.Sound) (writing : buffer.reading = false)
    (bytes : Bytes) :
    buffer.append bytes =
      if buffer.capacity.holds (buffer.length + bytes.length) then .ok (buffer.grown bytes)
      else .error (buffer.capacity.refusal (buffer.length + bytes.length)) := by
  unfold append
  rw [if_neg (by simp [writing]), sound.reserve_eq]
  split <;> rfl

theorem Sound.grown (sound : buffer.Sound) {bytes : Bytes}
    (fits : buffer.capacity.holds (buffer.length + bytes.length) = true) :
    (buffer.grown bytes).Sound := by
  simp only [Buffer.grown, Capacity.room]
  split
  case isTrue grows =>
      have allowed := (Capacity.holds_iff.mp fits).resolve_left (by omega)
      exact ⟨Capacity.step_le_limit _ _, fun _ => allowed.1⟩
  case isFalse => exact ⟨sound.storage, sound.valid⟩

/-- Octets taken in two pieces leave the buffer as if they had come in one. -/
theorem grown_grown (first second : Bytes) :
    (buffer.grown first).grown second = buffer.grown (first ++ second) := by
  have room := @Capacity.room_room buffer.capacity _ buffer.storage _
    (Nat.le_add_right (buffer.length + first.length) second.length)
  simp only [grown, length, List.length_append, List.append_assoc, ← Nat.add_assoc] at room ⊢
  rw [room]

theorem Sound.append_ok_iff (sound : buffer.Sound) {bytes : Bytes} :
    buffer.append bytes = .ok after ↔ buffer.reading = false ∧
      buffer.capacity.holds (buffer.length + bytes.length) = true ∧ after = buffer.grown bytes := by
  cases reading : buffer.reading with
  | true => simp [append, reading]
  | false =>
      rw [sound.append_eq reading]
      split <;> simp [*, eq_comm]

/-- Octets that come in pieces are all taken exactly if they would have been taken
at once, and the same buffer is left. -/
theorem Sound.foldlM_append (sound : buffer.Sound) {pieces : List Bytes} (several : pieces ≠ []) :
    pieces.foldlM append buffer = .ok after ↔ buffer.append pieces.flatten = .ok after := by
  induction pieces generalizing buffer with
  | nil => contradiction
  | cons piece rest ih =>
      by_cases last : rest = []
      · subst last
        simp
      have rest_iff {middle : Buffer} (sound : middle.Sound) := ih sound last
      rw [List.foldlM_cons, List.flatten_cons, sound.append_ok_iff, List.length_append,
        ← Nat.add_assoc, ← grown_grown]
      constructor
      · intro taken
        cases first : buffer.append piece with
        | error error => simp [first, bind, Except.bind] at taken
        | ok middle =>
            obtain ⟨writing, fits, rfl⟩ := sound.append_ok_iff.mp first
            simp only [first, bind, Except.bind, rest_iff (sound.grown fits),
              (sound.grown fits).append_ok_iff, length_grown] at taken
            exact ⟨writing, taken.2⟩
      · rintro ⟨writing, fits, rfl⟩
        have first : buffer.capacity.holds (buffer.length + piece.length) = true :=
          Capacity.holds_of_le fits (Nat.le_add_right _ _)
        have second := (sound.grown first).append_ok_iff.mpr
          ⟨writing, by rw [length_grown]; exact fits, rfl⟩
        simp only [sound.append_ok_iff.mpr ⟨writing, first, rfl⟩, bind, Except.bind,
          rest_iff (sound.grown first), second]

end Buffer

end Handoff
