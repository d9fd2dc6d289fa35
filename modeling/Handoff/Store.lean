namespace Handoff

/-! Tables of objects that are numbered in the order they were made.

Every number has a row: one that was never written holds the default.  Reading
and writing are therefore total, and what is read depends only on what was
written last. -/

structure Store (α : Type u) where
  rows : List α

namespace Store

variable {α : Type u}

instance : Inhabited (Store α) := ⟨⟨[]⟩⟩

/-- The number the next object will have. -/
def size (store : Store α) : Nat :=
  store.rows.length

def get [Inhabited α] (store : Store α) (index : Nat) : α :=
  store.rows[index]?.getD default

def add (store : Store α) (value : α) : Store α :=
  ⟨store.rows ++ [value]⟩

/-- Replaces the object with a number, making rows up to it where there are
none. -/
def set [Inhabited α] (store : Store α) (index : Nat) (value : α) : Store α :=
  if index < store.size then ⟨store.rows.set index value⟩
  else ⟨store.rows ++ List.replicate (index - store.size) default ++ [value]⟩

@[simp] theorem size_add (store : Store α) (value : α) :
    (store.add value).size = store.size + 1 := by
  simp [add, size]

/-- A row that was never made holds the default. -/
theorem get_of_size_le [Inhabited α] (store : Store α) {index : Nat} (unmade : store.size ≤ index) :
    store.get index = default := by
  rw [get, List.getElem?_eq_none unmade, Option.getD_none]

theorem get_add [Inhabited α] (store : Store α) (value : α) (index : Nat) :
    (store.add value).get index = if index = store.size then value else store.get index := by
  unfold add get size
  grind

theorem get_set [Inhabited α] (store : Store α) (written index : Nat) (value : α) :
    (store.set written value).get index = if index = written then value else store.get index := by
  unfold set get size
  grind

@[simp] theorem get_set_same [Inhabited α] (store : Store α) (index : Nat) (value : α) :
    (store.set index value).get index = value := by
  simp [get_set]

theorem get_set_other [Inhabited α] (store : Store α) {written index : Nat} (value : α)
    (other : index ≠ written) : (store.set written value).get index = store.get index := by
  simp [get_set, other]

theorem size_set [Inhabited α] (store : Store α) (index : Nat) (value : α) :
    (store.set index value).size = max store.size (index + 1) := by
  unfold set size
  split
  · simp only [List.length_set]
    omega
  · simp only [List.length_append, List.length_replicate, List.length_singleton]
    omega

end Store

end Handoff
