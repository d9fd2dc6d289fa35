import Handoff.Proofs.Buffers.Operations

namespace Handoff

/-! How much storage a buffer has.

Storage is only set aside when content outgrows it, so what was asked for along
the way and what was set aside are different histories.  All the same, only the
most that ever had to be held decides: that mark is the one thing about the past
the storage depends on. -/

namespace Capacity

variable {capacity : Capacity} {required : Option Nat} {mark storage : Nat}

/-- The storage there is when no more than `mark` octets ever had to be held.
Without required storage there is none before the first octet. -/
def storageAt (capacity : Capacity) (required : Option Nat) (mark : Nat) : Except Error Nat :=
  if required.isNone ∧ mark = 0 then .ok 0 else capacity.storageFor mark

/-- A higher mark for which there is room makes no difference. -/
theorem storageAt_absorbs {higher : Nat} (stored : capacity.storageAt required mark = .ok storage)
    (more : mark ≤ higher) (less : higher ≤ storage) :
    capacity.storageAt required higher = .ok storage := by
  unfold storageAt at stored ⊢
  split at stored
  case isTrue none =>
      cases stored
      rw [if_pos ⟨none.1, by omega⟩]
  case isFalse some =>
      obtain ⟨⟨valid, -⟩, rfl⟩ := storageFor_ok_iff.mp stored
      have within := capacity.step_le_limit mark
      rw [if_neg fun none => some ⟨none.1, by omega⟩]
      exact storageFor_ok_iff.mpr ⟨⟨valid, Nat.le_trans less within⟩, step_absorbs more less⟩

theorem storage_le_room {size : Nat} (word : capacity.limit ≤ Count.limit)
    (fits : capacity.holds size = true) (storage : Nat) :
    storage ≤ capacity.room storage size := by
  have enough := le_room word fits storage
  unfold room at enough ⊢
  split
  case isTrue grows =>
      rw [if_pos grows] at enough
      omega
  case isFalse => exact Nat.le_refl _

/-- Only where nothing was ever held does it matter whether storage was required. -/
theorem storageAt_congr {other : Option Nat} (alike : required.isNone = other.isNone ∨ mark ≠ 0) :
    capacity.storageAt required mark = capacity.storageAt other mark := by
  unfold storageAt
  rcases alike with same | some
  · rw [same]
  · rw [if_neg fun none => some none.2, if_neg fun none => some none.2]

end Capacity

namespace Buffer

variable {capacity : Capacity} {required : Option Nat} {buffer after : Buffer} {mark : Nat}

/-- An empty buffer, with storage if some is required. -/
def opened (capacity : Capacity) : Option Nat → Except Error Buffer
  | none => .ok (new capacity)
  | some required => withStorage capacity required

/-- The most octets that are in a buffer at one time while some operations are
performed on it. -/
def peak (buffer : Buffer) : List Operation → Nat
  | [] => buffer.length
  | operation :: rest => max buffer.length ((buffer.perform operation).2.peak rest)

/-- The most octets a buffer ever had to hold: those it was required to, or more
if more were in it. -/
def highWater (buffer : Buffer) (required : Option Nat) (operations : List Operation) : Nat :=
  max (required.getD 0) (buffer.peak operations)

theorem length_le_peak (buffer : Buffer) (operations : List Operation) :
    buffer.length ≤ buffer.peak operations := by
  cases operations with
  | nil => exact Nat.le_refl _
  | cons operation rest => exact Nat.le_max_left _ _

theorem run_append (buffer : Buffer) (operations more : List Operation) :
    (buffer.run (operations ++ more)).2 = ((buffer.run operations).2.run more).2 := by
  induction operations generalizing buffer with
  | nil => rfl
  | cons operation rest ih => exact ih _

/-- A buffer that never had to hold more than `mark` octets, and the storage it
has for that. -/
structure Holds (capacity : Capacity) (required : Option Nat) (mark : Nat) (buffer : Buffer) :
    Prop where
  kind : buffer.capacity = capacity
  sound : buffer.Sound
  length : buffer.length ≤ mark
  enough : mark ≤ buffer.storage
  storage : capacity.storageAt required mark = .ok buffer.storage

theorem holds_of_opened (word : capacity.limit ≤ Count.limit)
    (made : opened capacity required = .ok buffer) :
    Holds capacity required (required.getD 0) buffer := by
  cases required with
  | none =>
      cases made
      exact ⟨rfl, sound_new capacity, Nat.le_refl _, Nat.le_refl _, rfl⟩
  | some required =>
      have sound := (Made.withStorage made).sound
      cases stored : capacity.storageFor required with
      | error error => simp [opened, withStorage, stored, bind, Except.bind] at made
      | ok storage =>
          simp only [opened, withStorage, stored, bind, Except.bind] at made
          cases made
          obtain ⟨⟨valid, fits⟩, rfl⟩ := Capacity.storageFor_ok_iff.mp stored
          exact ⟨rfl, sound, Nat.zero_le _, Capacity.le_step word valid fits, stored⟩

/-- Content that needs more storage takes the mark along; content for which there
is room may raise the mark, but not past the storage. -/
theorem Holds.grown (holds : Holds capacity required mark buffer)
    (word : capacity.limit ≤ Count.limit) {bytes : Bytes}
    (fits : buffer.capacity.holds (buffer.length + bytes.length) = true) :
    Holds capacity required (max mark (buffer.grown bytes).length) (buffer.grown bytes) := by
  obtain ⟨rfl, sound, length, enough, storage⟩ := holds
  refine ⟨rfl, sound.grown fits, Nat.le_max_right _ _, ?_, ?_⟩
  · apply Nat.max_le.mpr
    rw [length_grown]
    exact ⟨Nat.le_trans enough (Capacity.storage_le_room word fits _),
      Capacity.le_room word fits _⟩
  · rw [length_grown]
    simp only [Buffer.grown, Capacity.room]
    split
    case isTrue grows =>
        have allowed := (Capacity.holds_iff.mp fits).resolve_left (by omega)
        rw [Nat.max_eq_right (by omega), Capacity.storageAt,
          if_neg fun none => absurd none.2 (by omega)]
        exact Capacity.storageFor_ok_iff.mpr ⟨allowed, rfl⟩
    case isFalse =>
        apply Capacity.storageAt_absorbs storage <;> omega

theorem Becomes.length_le (becomes : buffer.Becomes after) :
    after.length ≤ buffer.length ∧ after.storage = buffer.storage ∨
      ∃ bytes, after = buffer.grown bytes ∧
        buffer.capacity.holds (buffer.length + bytes.length) = true := by
  cases becomes with
  | same | rewound => exact .inl ⟨Nat.le_refl _, rfl⟩
  | grown bytes writing fits => exact .inr ⟨bytes, rfl, fits⟩
  | flipped => exact .inl ⟨Nat.le_of_eq (congrArg List.length flip_content), flip_storage⟩
  | cleared => exact .inl ⟨Nat.zero_le _, rfl⟩
  | read => exact .inl ⟨Nat.le_of_eq (congrArg List.length flip_content), flip_storage⟩

theorem Holds.becomes (holds : Holds capacity required mark buffer)
    (word : capacity.limit ≤ Count.limit) (becomes : buffer.Becomes after) :
    Holds capacity required (max mark after.length) after := by
  rcases becomes.length_le with ⟨less, same⟩ | ⟨bytes, rfl, fits⟩
  · have length := holds.length
    rw [Nat.max_eq_left (by omega)]
    exact ⟨becomes.same_capacity.trans holds.kind, holds.sound.kept becomes, by omega,
      same ▸ holds.enough, same ▸ holds.storage⟩
  · exact holds.grown word fits

/-- Along a run the mark follows the highest content. -/
theorem Holds.run (holds : Holds capacity required mark buffer)
    (word : capacity.limit ≤ Count.limit) (operations : List Operation) :
    Holds capacity required (max mark (buffer.peak operations)) (buffer.run operations).2 := by
  induction operations generalizing buffer mark with
  | nil =>
      rw [peak, Nat.max_eq_left holds.length]
      exact holds
  | cons operation rest ih =>
      have last := ih (holds.becomes word (holds.sound.becomes operation))
      have before := holds.length
      have first := (buffer.perform operation).2.length_le_peak rest
      have marks : max (max mark (buffer.perform operation).2.length)
          ((buffer.perform operation).2.peak rest) = max mark (buffer.peak (operation :: rest)) := by
        rw [peak]
        omega
      exact marks ▸ last

theorem Becomes.storage_le (becomes : buffer.Becomes after)
    (word : buffer.capacity.limit ≤ Count.limit) : buffer.storage ≤ after.storage := by
  rcases becomes.length_le with ⟨-, same⟩ | ⟨bytes, rfl, fits⟩
  · exact Nat.le_of_eq same.symm
  · exact Capacity.storage_le_room word fits _

theorem Sound.storage_le_run (sound : buffer.Sound) (word : buffer.capacity.limit ≤ Count.limit)
    (operations : List Operation) : buffer.storage ≤ (buffer.run operations).2.storage := by
  induction operations generalizing buffer with
  | nil => exact Nat.le_refl _
  | cons operation rest ih =>
      have becomes := sound.becomes operation
      apply Nat.le_trans (becomes.storage_le word)
      exact ih (sound.kept becomes) (becomes.same_capacity ▸ word)

/-- The storage of a buffer is that of its high-water mark, and never becomes
less.  Two histories with one mark end with the same storage, unless nothing was
held in either and only one of the buffers was made with storage. -/
theorem storage_of_highWater (word : capacity.limit ≤ Count.limit)
    (made : opened capacity required = .ok buffer) (operations : List Operation) :
    let mark := buffer.highWater required operations
    let last := (buffer.run operations).2
    capacity.storageAt required mark = .ok last.storage ∧
    (∀ more, last.storage ≤ (buffer.run (operations ++ more)).2.storage) ∧
    ∀ (other : Option Nat) (second : Buffer) (others : List Operation),
      opened capacity other = .ok second → second.highWater other others = mark →
      required.isNone = other.isNone ∨ mark ≠ 0 →
        (second.run others).2.storage = last.storage := by
  have holds := (holds_of_opened word made).run word operations
  refine ⟨holds.storage, ?_, ?_⟩
  · intro more
    rw [run_append]
    exact holds.sound.storage_le_run (holds.kind ▸ word) more
  · intro other second others made same alike
    have also : capacity.storageAt other (second.highWater other others) =
        .ok (second.run others).2.storage :=
      ((holds_of_opened word made).run word others).storage
    rw [same, ← Capacity.storageAt_congr alike, highWater, holds.storage] at also
    exact (Except.ok.inj also).symm

/-- Three octets that come in pieces, around a refused append and before others,
or that are required at once, stand for the same storage.  Two more make it the
limit, which is no power of two. -/
theorem storage_of_highWater_pieces :
    let pieces : List Operation :=
      [.append [1, 2], .append [3, 4, 5, 6], .appendOctet 3, .clear, .append [7]]
    (new (.fixed 5)).highWater none pieces = 3 ∧ ((new (.fixed 5)).run pieces).2.storage = 4 ∧
    ((new (.fixed 5)).run (pieces ++ [.append [1, 2, 3, 4]])).2.storage = 5 ∧
    ∃ buffer, withStorage (.fixed 5) 3 = .ok buffer ∧ (buffer.run [.flip]).2.storage = 4 := by
  obtain ⟨stored, more, others⟩ := @storage_of_highWater (.fixed 5) none (new (.fixed 5))
    (by decide) rfl [.append [1, 2], .append [3, 4, 5, 6], .appendOctet 3, .clear, .append [7]]
  have same := others (some 3) _ [.flip] rfl rfl (.inr (by decide))
  exact ⟨rfl, (Except.ok.inj stored).symm, rfl, _, rfl, same⟩

end Buffer

end Handoff
