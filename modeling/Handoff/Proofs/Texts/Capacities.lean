import Handoff.Capacity.Json
import Handoff.Proofs.Texts.Objects

namespace Handoff

open Json

/-! What a text says of a capacity.

A field counts when it is given exactly once.  The mode and the numbers it asks for may
stand in any order, and beside any other members. -/

namespace Json

variable {α β : Type} {read : α → Except Fault β}

theorem bind_eq_ok {first : Except Fault α} {next : α → Except Fault β} {result : β} :
    (first >>= next) = .ok result ↔ ∃ value, first = .ok value ∧ next value = .ok result := by
  cases first with
  | error fault => simp [bind, Except.bind]
  | ok value => simp [bind, Except.bind]

/-- Keeps the value of a field; a second one is a fault. -/
def once (read : α → Except Fault β) (found : Option β) (value : α) : Except Fault (Option β) :=
  if found.isSome then .error .mismatch else (read value).map some

/-- A field was left out, or it was given once. -/
theorem foldlM_once {values : List α} {found : Option β} :
    values.foldlM (once read) none = .ok found ↔
      values = [] ∧ found = none ∨
        ∃ value result, values = [value] ∧ read value = .ok result ∧ found = some result := by
  cases values with
  | nil => simp [pure, Except.pure, eq_comm]
  | cons value rest =>
      cases given : read value with
      | error fault => simp [once, given, bind, Except.bind, Except.map]
      | ok result =>
          cases rest with
          | nil => simp [once, given, bind, Except.bind, Except.map, pure, Except.pure, eq_comm]
          | cons other rest => simp [once, given, bind, Except.bind, Except.map]

/-- What a field is: it was left out and is as usual, or it was given once, with a value
that says what it is. -/
def FieldIs (values : List α) (usual : β) (tells : α → β → Prop) (result : β) : Prop :=
  values = [] ∧ result = usual ∨ ∃ value, values = [value] ∧ tells value result

theorem foldlM_once_getD {values : List α} {usual result : β} :
    (∃ found, values.foldlM (once read) none = .ok found ∧ found.getD usual = result) ↔
      FieldIs values usual (fun value result => read value = .ok result) result := by
  constructor
  · rintro ⟨found, fold, rfl⟩
    obtain ⟨missing, rfl⟩ | ⟨value, result, given, read, rfl⟩ := foldlM_once.mp fold
    · exact .inl ⟨missing, rfl⟩
    · exact .inr ⟨value, given, read⟩
  · rintro (⟨missing, rfl⟩ | ⟨value, given, read⟩)
    · exact ⟨none, foldlM_once.mpr (.inl ⟨missing, rfl⟩), rfl⟩
    · exact ⟨some result, foldlM_once.mpr (.inr ⟨value, result, given, read, rfl⟩), rfl⟩

theorem exists_fieldIs {values : List α} {usual : β} {tells : α → β → Prop} :
    (∃ result, FieldIs values usual tells result) ↔
      values.length ≤ 1 ∧ ∀ value ∈ values, ∃ result, tells value result := by
  cases values with
  | nil => simp [FieldIs]
  | cons value rest => cases rest <;> simp [FieldIs]

@[simp] theorem named_nil (name : String) : named name ([] : List (Member α)) = [] := rfl

theorem named_cons_same {name : String} {member : Member α} (same : member.name.text = name)
    (written : List (Member α)) :
    named name (member :: written) = member.value :: named name written := by
  simp [named, same]

theorem named_cons_other {name : String} {member : Member α} (other : member.name.text ≠ name)
    (written : List (Member α)) : named name (member :: written) = named name written := by
  simp [named, other]

end Json

namespace Capacity

variable {written : List (Member Atom)}

def Mode.text : Mode → String
  | .fixed => "fixed"
  | .growable => "growable"

/-- The numbers of a mode. -/
def Mode.fields : Mode → List String
  | .fixed => ["max"]
  | .growable => ["increment", "ceiling"]

theorem Mode.ofName_eq_ok {name : String} {mode : Mode} :
    Mode.ofName name = .ok mode ↔ name = mode.text := by
  unfold Mode.ofName
  split
  · cases mode <;> simp [Mode.text]
  · cases mode <;> simp [Mode.text]
  · cases mode <;> simp_all [Mode.text]

def modeOf : Atom → Except Fault Mode
  | .text name => Mode.ofName name.text
  | _ => .error .mismatch

namespace Members

/-- What the reader of a capacity does with a member. -/
def put (found : Members) (member : Member Atom) : Except Fault Members :=
  if member.name.text = "mode" then
    (once modeOf found.mode member.value).map fun mode => { found with mode }
  else
    .ok { found with
      others := found.others ++ [(member.name.text, (member.value.scalar true).count?)] }

theorem reads_put (depth : Nat) : Reads Atom.chars (read depth) put := by
  intro found member rest closes
  by_cases mode : member.name.text = "mode"
  · rw [read, put, if_pos mode, if_pos mode, once]
    cases given : found.mode with
    | some first => rfl
    | none =>
        rw [colon_tail]
        change (Json.text _ >>= _) = _
        rw [Json.text, asked_atom _ member.afterColon member.value closes]
        cases member.value with
        | text name =>
            change (Mode.ofName name.text >>= _) = _
            simp only [modeOf]
            cases Mode.ofName name.text <;> rfl
        | _ => rfl
  · rw [read, put, if_neg mode, if_neg mode, colon_tail]
    change (value true depth _ >>= _) = _
    rw [value_atom true depth member.afterColon member.value closes]
    rfl

/-- The members other than the mode. -/
def counts (written : List (Member Atom)) : List (String × Option Nat) :=
  (written.filter fun member => member.name.text ≠ "mode").map fun member =>
    (member.name.text, (member.value.scalar true).count?)

theorem counts_cons_mode {member : Member Atom} (mode : member.name.text = "mode")
    (written : List (Member Atom)) : counts (member :: written) = counts written := by
  simp [counts, mode]

theorem counts_cons {member : Member Atom} (field : member.name.text ≠ "mode")
    (written : List (Member Atom)) : counts (member :: written) =
      (member.name.text, (member.value.scalar true).count?) :: counts written := by
  simp [counts, field]

theorem foldlM_put {written : List (Member Atom)} {start found : Members} :
    written.foldlM put start = .ok found ↔
      (named "mode" written).foldlM (once modeOf) start.mode = .ok found.mode ∧
        found.others = start.others ++ counts written := by
  induction written generalizing start with
  | nil =>
      obtain ⟨mode, numbers⟩ := found
      obtain ⟨first, before⟩ := start
      simp [counts, pure, Except.pure, eq_comm]
  | cons member written ih =>
      by_cases mode : member.name.text = "mode"
      · rw [named_cons_same mode, counts_cons_mode mode, List.foldlM_cons, List.foldlM_cons, put,
          if_pos mode]
        cases given : once modeOf start.mode member.value with
        | error fault => simp [bind, Except.bind, Except.map]
        | ok first => exact ih
      · rw [named_cons_other mode, counts_cons mode, List.foldlM_cons, put, if_neg mode,
          List.append_cons start.others _ (counts written)]
        exact ih

/-- The members of an object give a count exactly once. -/
def Gives (written : List (Member Atom)) (name : String) (count : Nat) : Prop :=
  ∃ fits, named name written = [.natural count fits]

theorem filter_counts (written : List (Member Atom)) {name : String} (field : name ≠ "mode") :
    ((counts written).filter fun member => member.1 = name) =
      (named name written).map fun value => (name, (value.scalar true).count?) := by
  induction written with
  | nil => rfl
  | cons member written ih =>
      by_cases mode : member.name.text = "mode"
      · rw [named_cons_other fun same => field (same.symm.trans mode), counts_cons_mode mode, ih]
      · rw [counts_cons mode]
        by_cases same : member.name.text = name
        · rw [named_cons_same same, List.filter_cons_of_pos (by simpa using same), ih, same,
            List.map_cons]
        · rw [named_cons_other same, List.filter_cons_of_neg (by simpa using same), ih]

theorem field_counts {written : List (Member Atom)} {mode : Option Mode} {name : String}
    {count : Nat} (field : name ≠ "mode") :
    (Members.mk mode (counts written)).field name = .ok count ↔ Gives written name count := by
  rw [Members.field, filter_counts written field, Gives]
  cases named name written with
  | nil => simp
  | cons value rest =>
      cases rest with
      | nil =>
          cases value with
          | natural value fits =>
              simp only [List.map_cons, List.map_nil, Atom.scalar, Scalar.count?]
              constructor
              · intro same
                cases same
                exact ⟨fits, rfl⟩
              · rintro ⟨fits, same⟩
                cases same
                rfl
          | _ => simp [Atom.scalar, Scalar.count?]
      | cons other rest => simp

end Members

/-- The members of an object name a mode exactly once. -/
def Names (written : List (Member Atom)) (mode : Mode) : Prop :=
  ∃ name : Plain, named "mode" written = [.text name] ∧ name.text = mode.text

/-- The members of an object describe a capacity: they name its mode and give each of
its numbers. -/
def Describes (written : List (Member Atom)) : Capacity → Prop
  | .fixed maximum => Names written .fixed ∧ Members.Gives written "max" maximum
  | .growable increment ceiling => Names written .growable ∧
      Members.Gives written "increment" increment ∧ Members.Gives written "ceiling" ceiling

/-- Some capacity is described when a mode is named and its numbers are given. -/
theorem exists_describes : (∃ capacity, Describes written capacity) ↔
    ∃ mode, Names written mode ∧ ∀ field ∈ mode.fields, ∃ count, Members.Gives written field count := by
  constructor
  · rintro ⟨capacity, describes⟩
    cases capacity with
    | fixed maximum =>
        obtain ⟨names, gives⟩ := describes
        exact ⟨.fixed, names, by simpa [Mode.fields] using ⟨maximum, gives⟩⟩
    | growable increment ceiling =>
        obtain ⟨names, first, second⟩ := describes
        exact ⟨.growable, names, by simpa [Mode.fields] using ⟨⟨increment, first⟩, ceiling, second⟩⟩
  · rintro ⟨mode, names, gives⟩
    cases mode with
    | fixed =>
        obtain ⟨maximum, given⟩ := gives "max" (List.mem_cons_self ..)
        exact ⟨.fixed maximum, names, given⟩
    | growable =>
        obtain ⟨increment, first⟩ := gives "increment" (List.mem_cons_self ..)
        obtain ⟨ceiling, second⟩ := gives "ceiling" (List.mem_cons_of_mem _ (List.mem_cons_self ..))
        exact ⟨.growable increment ceiling, names, first, second⟩

/-- The one mode that was read is the one that is named. -/
theorem foldlM_modeOf {mode : Mode} :
    (named "mode" written).foldlM (once modeOf) none = .ok (some mode) ↔ Names written mode := by
  rw [foldlM_once]
  constructor
  · rintro (⟨-, same⟩ | ⟨value, result, given, named, same⟩)
    · cases same
    · cases same
      cases value with
      | text name => exact ⟨name, given, Mode.ofName_eq_ok.mp named⟩
      | _ => cases named
  · rintro ⟨name, given, same⟩
    exact .inr ⟨.text name, mode, given, Mode.ofName_eq_ok.mpr same, rfl⟩

/-- What members are read as is what they describe. -/
theorem capacity_eq_ok {capacity : Capacity} :
    (written.foldlM Members.put .none >>= Members.capacity) = .ok capacity ↔
      Describes written capacity := by
  rw [bind_eq_ok]
  constructor
  · rintro ⟨⟨mode, numbers⟩, fold, read⟩
    obtain ⟨named, same⟩ := Members.foldlM_put.mp fold
    obtain rfl : numbers = Members.counts written := same
    cases mode with
    | none => cases read
    | some mode =>
        have names : Names written mode := foldlM_modeOf.mp named
        cases mode with
        | fixed =>
            obtain ⟨maximum, given, same⟩ := bind_eq_ok.mp read
            cases same
            exact ⟨names, (Members.field_counts (by decide)).mp given⟩
        | growable =>
            obtain ⟨increment, first, read⟩ := bind_eq_ok.mp read
            obtain ⟨ceiling, second, same⟩ := bind_eq_ok.mp read
            cases same
            exact ⟨names, (Members.field_counts (by decide)).mp first,
              (Members.field_counts (by decide)).mp second⟩
  · intro describes
    cases capacity with
    | fixed maximum =>
        obtain ⟨names, gives⟩ := describes
        exact ⟨⟨some .fixed, Members.counts written⟩,
          Members.foldlM_put.mpr ⟨foldlM_modeOf.mpr names, rfl⟩,
          bind_eq_ok.mpr ⟨maximum, (Members.field_counts (by decide)).mpr gives, rfl⟩⟩
    | growable increment ceiling =>
        obtain ⟨names, first, second⟩ := describes
        exact ⟨⟨some .growable, Members.counts written⟩,
          Members.foldlM_put.mpr ⟨foldlM_modeOf.mpr names, rfl⟩,
          bind_eq_ok.mpr ⟨increment, (Members.field_counts (by decide)).mpr first,
            bind_eq_ok.mpr ⟨ceiling, (Members.field_counts (by decide)).mpr second, rfl⟩⟩⟩

/-- An object of atoms is read as a capacity from its members. -/
theorem read_object (depth : Nat) (gap : Gap) (object : Object Atom) (rest : List Char) :
    read depth (gap.chars ++ (object.chars Atom.chars ++ rest)) =
      (object.members.foldlM Members.put .none >>= Members.capacity).map fun capacity =>
        (capacity, rest) := by
  have body := members_body (Members.reads_put depth) true object .none rest
  rw [read, skipSpace_gap, Object.chars, List.cons_append, skipSpace_cons rfl]
  change (Json.members true (Members.read depth) _ true .none _ >>= _) = _
  rw [body]
  cases object.members.foldlM Members.put .none with
  | error fault => rfl
  | ok found =>
      change (found.capacity >>= _) = _
      change _ = found.capacity.map _
      cases found.capacity <;> rfl

theorem read_atom (depth : Nat) (gap : Gap) (atom : Atom) {rest : List Char} (closes : Closes rest) :
    read depth (gap.chars ++ (atom.chars ++ rest)) = .error .mismatch := by
  have mismatch := asked_atom (fun _ => (none : Option Capacity)) .none atom closes
  change asked _ (atom.chars ++ rest) = _ at mismatch
  obtain ⟨char, more, chars, -, noList, noObject⟩ := atom.first
  rw [read, skipSpace_atom]
  rw [chars, List.cons_append] at mismatch ⊢
  split
  case h_1 same => exact absurd (List.cons.inj same).1 noObject
  case h_2 same => exact absurd (List.cons.inj same).1 noList
  case h_3 => exact mismatch

/-! The text that is written of a capacity. -/

/-- The numbers of a capacity fit a word. -/
def Fits : Capacity → Prop
  | .fixed maximum => maximum ≤ Count.limit
  | .growable increment ceiling => increment ≤ Count.limit ∧ ceiling ≤ Count.limit

/-- The members that are written of a capacity. -/
def members : (capacity : Capacity) → capacity.Fits → List (Member Atom)
  | .fixed maximum => fun fits =>
      [.tight (.of "mode".toList rfl) (.text (.of "fixed".toList rfl)),
        .tight (.of "max".toList rfl) (.natural maximum fits)]
  | .growable increment ceiling => fun fits =>
      [.tight (.of "mode".toList rfl) (.text (.of "growable".toList rfl)),
        .tight (.of "increment".toList rfl) (.natural increment fits.1),
        .tight (.of "ceiling".toList rfl) (.natural ceiling fits.2)]

theorem toList_toJson (capacity : Capacity) (fits : capacity.Fits) :
    capacity.toJson.toList = Object.chars Atom.chars ⟨capacity.members fits, .none⟩ := by
  cases capacity with
  | fixed maximum =>
      unfold toJson
      simp only [String.toList_append, Nat.toString_eq_ofList_toDigits, String.toList_ofList]
      simp [members, Object.chars, Object.body, row, Member.tight, Member.tail, Plain.quoted,
        Plain.of, Gap.none, Atom.chars]
  | growable increment ceiling =>
      unfold toJson
      simp only [String.toList_append, Nat.toString_eq_ofList_toDigits, String.toList_ofList]
      simp [members, Object.chars, Object.body, row, Member.tight, Member.tail, Plain.quoted,
        Plain.of, Gap.none, Atom.chars]

theorem describes_members (capacity : Capacity) (fits : capacity.Fits) :
    Describes (capacity.members fits) capacity := by
  cases capacity with
  | fixed maximum => exact ⟨⟨.of "fixed".toList rfl, rfl, rfl⟩, fits, rfl⟩
  | growable increment ceiling =>
      exact ⟨⟨.of "growable".toList rfl, rfl, rfl⟩, ⟨fits.1, rfl⟩, fits.2, rfl⟩

end Capacity

end Handoff
