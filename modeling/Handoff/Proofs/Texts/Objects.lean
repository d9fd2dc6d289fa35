import Handoff.Proofs.Texts.Lexemes

namespace Handoff.Json

/-! Objects, and how their members are read.

An object is written with space wherever space may stand.  A reader goes from member to
member and does something with each; what it comes to is a fold over the members that
were written, with no trace of the space between them. -/

structure Member (α : Type) where
  before : Gap
  name : Plain
  beforeColon : Gap
  afterColon : Gap
  value : α
  after : Gap

structure Object (α : Type) where
  members : List (Member α)
  /-- Space in front of the closing bracket. -/
  inner : Gap

variable {α σ : Type} {write : α → List Char}

/-- A member without space. -/
def Member.tight (name : Plain) (value : α) : Member α :=
  ⟨.none, name, .none, .none, value, .none⟩

/-- What stands behind the name of a member, up to the end of its value. -/
def Member.tail (write : α → List Char) (member : Member α) : List Char :=
  member.beforeColon.chars ++ ':' :: (member.afterColon.chars ++ write member.value)

/-- How members are written, with a comma in front of each but the first. -/
def row (write : α → List Char) : (first : Bool) → List (Member α) → List Char
  | _, [] => []
  | first, member :: members =>
      (if first then [] else [',']) ++ (member.before.chars ++ (member.name.quoted ++
        (member.tail write ++ (member.after.chars ++ row write false members))))

namespace Object

/-- How an object is written, behind its opening bracket. -/
def body (write : α → List Char) (object : Object α) : List Char :=
  row write true object.members ++ (object.inner.chars ++ ['\x7d'])

def chars (write : α → List Char) (object : Object α) : List Char :=
  '\x7b' :: object.body write

end Object

/-- The values of the members that have a name. -/
def named (name : String) (members : List (Member α)) : List α :=
  (members.filter fun member => member.name.text = name).map Member.value

theorem colon_tail (member : Member α) (rest : List Char) :
    colon (member.tail write ++ rest) =
      .ok (member.afterColon.chars ++ (write member.value ++ rest)) := by
  rw [Member.tail, List.append_assoc, colon, skipSpace_gap, List.cons_append, skipSpace_cons rfl,
    List.append_assoc]
  rfl

theorem nextMember_end (strict first : Bool) {chars rest : List Char}
    (skipped : skipSpace chars = '\x7d' :: rest) :
    nextMember strict first chars = .ok (none, rest) := by
  rw [nextMember, skipped]
  rfl

theorem nextMember_row (strict first : Bool) (gap before : Gap) (name : Plain) (rest : List Char) :
    nextMember strict first
        (gap.chars ++ ((if first then [] else [',']) ++ (before.chars ++ (name.quoted ++ rest)))) =
      .ok (some name.text, rest) := by
  have quoted : skipSpace (before.chars ++ (name.quoted ++ rest)) =
      '"' :: (name.chars ++ '"' :: rest) := by
    rw [skipSpace_gap, Plain.quoted, List.cons_append, skipSpace_cons rfl, List.append_assoc]
    rfl
  have read := string_plain strict name rest
  cases first with
  | true =>
      simp only [if_true, List.nil_append]
      rw [nextMember, skipSpace_gap, quoted]
      simp [read, bind, Except.bind, pure, Except.pure, Plain.text]
  | false =>
      simp only [Bool.false_eq_true, if_false, List.cons_append, List.nil_append]
      rw [nextMember, skipSpace_gap, skipSpace_cons rfl]
      simp [read, quoted, bind, Except.bind, pure, Except.pure, Plain.text]

/-- Whatever follows a member, its value ends there. -/
theorem closes_row (write : α → List Char) (after inner : Gap) (members : List (Member α)) (rest : List Char) :
    Closes (after.chars ++ (row write false members ++ (inner.chars ++ '\x7d' :: rest))) := by
  have bracket : Closes ('\x7d' :: rest) := by
    intro char same
    cases same
    exact .inr (.inr rfl)
  cases members with
  | nil => exact (bracket.gap inner).gap after
  | cons member members =>
      refine Closes.gap (fun char same => ?_) after
      cases same
      exact .inr (.inl rfl)

/-- What a reader of members does with one member, wherever its value ends. -/
def Reads (write : α → List Char) (read : σ → String → List Char → Except Fault (Found σ))
    (effect : σ → Member α → Except Fault σ) : Prop :=
  ∀ state member rest, Closes rest → read state member.name.text (member.tail write ++ rest) =
    (effect state member).map fun after => (after, rest)

theorem members_row {read : σ → String → List Char → Except Fault (Found σ)}
    {effect : σ → Member α → Except Fault σ} (reads : Reads write read effect) (strict first : Bool)
    (gap inner : Gap) (written : List (Member α)) (state : σ) (rest : List Char) {fuel : Nat}
    (few : written.length < fuel) :
    members strict read fuel first state
        (gap.chars ++ (row write first written ++ (inner.chars ++ '\x7d' :: rest))) =
      (written.foldlM effect state).map fun after => (after, rest) := by
  induction written generalizing first gap state fuel with
  | nil =>
      obtain ⟨fuel, rfl⟩ := Nat.exists_eq_add_one_of_ne_zero (Nat.ne_of_gt few)
      have skipped : skipSpace (gap.chars ++ (row write first [] ++ (inner.chars ++ '\x7d' :: rest))) =
          '\x7d' :: rest := by
        rw [skipSpace_gap, row, List.nil_append, skipSpace_gap, skipSpace_cons rfl]
      rw [members, nextMember_end strict first skipped]
      rfl
  | cons member written ih =>
      obtain ⟨fuel, rfl⟩ := Nat.exists_eq_add_one_of_ne_zero (Nat.ne_of_gt (Nat.zero_lt_of_lt few))
      have next := nextMember_row strict first gap member.before member.name
        (member.tail write ++ (member.after.chars ++ (row write false written ++
          (inner.chars ++ '\x7d' :: rest))))
      have found := reads state member _ (closes_row write member.after inner written rest)
      simp only [row, List.append_assoc]
      rw [members, next]
      simp only [bind, Except.bind]
      rw [found]
      cases changed : effect state member with
      | error fault => simp [List.foldlM_cons, changed, bind, Except.bind, Except.map]
      | ok after =>
          have later := ih false member.after after (Nat.lt_of_succ_lt_succ few)
          simpa [List.foldlM_cons, changed, bind, Except.bind, Except.map] using later

theorem length_le_row (write : α → List Char) (first : Bool) (written : List (Member α)) :
    written.length ≤ (row write first written).length := by
  induction written generalizing first with
  | nil => exact Nat.zero_le _
  | cons member written ih =>
      have later := ih false
      simp only [row, Plain.quoted, List.length_append, List.length_cons]
      omega

/-- All members of an object are read, and then its closing bracket. -/
theorem members_body {read : σ → String → List Char → Except Fault (Found σ)}
    {effect : σ → Member α → Except Fault σ} (reads : Reads write read effect) (strict : Bool)
    (object : Object α) (state : σ) (rest : List Char) :
    members strict read ((object.body write ++ rest).length + 1) true state
        (object.body write ++ rest) =
      (object.members.foldlM effect state).map fun after => (after, rest) := by
  have enough : object.members.length < (object.body write ++ rest).length + 1 := by
    have some := length_le_row write true object.members
    simp only [Object.body, List.length_append]
    omega
  have whole := members_row reads strict true .none object.inner object.members state rest enough
  rw [← whole]
  simp [Object.body, Gap.none]

/-! Values that are atoms or objects. -/

theorem skipSpace_atom (gap : Gap) (atom : Atom) (rest : List Char) :
    skipSpace (gap.chars ++ (atom.chars ++ rest)) = atom.chars ++ rest := by
  obtain ⟨char, more, chars, solid, -, -⟩ := atom.first
  rw [skipSpace_gap, chars, List.cons_append, skipSpace_cons solid]

theorem asked_atom (select : Scalar → Option σ) (gap : Gap) (atom : Atom) {rest : List Char}
    (closes : Closes rest) : asked select (gap.chars ++ (atom.chars ++ rest)) =
      match select (atom.scalar true) with
      | some value => .ok (value, rest)
      | none => .error .mismatch := by
  have read := scalar_chars true atom closes
  obtain ⟨char, more, chars, -, noList, noObject⟩ := atom.first
  rw [asked, skipSpace_atom]
  rw [chars, List.cons_append] at read ⊢
  split
  case h_1 same => exact absurd (List.cons.inj same).1 noList
  case h_2 same => exact absurd (List.cons.inj same).1 noObject
  case h_3 =>
    rw [read]
    simp only [bind, Except.bind]
    cases select (atom.scalar true) <;> rfl

theorem asked_object (select : Scalar → Option σ) (gap : Gap) (rest : List Char) :
    asked select (gap.chars ++ '\x7b' :: rest) = .error .mismatch := by
  rw [asked, skipSpace_gap, skipSpace_cons rfl]
  rfl

theorem value_atom (strict : Bool) (depth : Nat) (gap : Gap) (atom : Atom) {rest : List Char}
    (closes : Closes rest) : value strict depth (gap.chars ++ (atom.chars ++ rest)) =
      .ok ((atom.scalar strict).count?, rest) := by
  have read := scalar_chars strict atom closes
  obtain ⟨char, more, chars, -, noList, noObject⟩ := atom.first
  have apart (other : Char) (tail : List Char) (different : char ≠ other) :
      skipSpace (gap.chars ++ (atom.chars ++ rest)) ≠ other :: tail := by
    rw [skipSpace_atom, chars]
    exact fun same => different (List.cons.inj same).1
  rw [value]
  · rw [skipSpace_atom, read]
    rfl
  · exact fun tail _ => apart '[' tail noList
  · exact fun tail _ => apart '\x7b' tail noObject
  · exact fun _ tail _ => apart '[' tail noList
  · exact fun _ tail _ => apart '\x7b' tail noObject

theorem foldlM_ok (written : List (Member α)) :
    written.foldlM (fun _ _ => (.ok () : Except Fault Unit)) () = .ok () := by
  induction written with
  | nil => rfl
  | cons member written ih => exact ih

/-- An object of atoms is one level deep. -/
theorem value_object (strict : Bool) (depth : Nat) (gap : Gap) (object : Object Atom)
    (rest : List Char) : value strict (depth + 1) (gap.chars ++ (object.chars Atom.chars ++ rest)) =
      .ok (none, rest) := by
  have reads : Reads Atom.chars (fun _ _ rest => do
      let found ← value strict depth (← colon rest)
      return ((), found.2)) (fun (_ : Unit) _ => (.ok () : Except Fault Unit)) := by
    intro state member rest closes
    change (colon (member.tail Atom.chars ++ rest) >>= _) = _
    rw [colon_tail]
    change (value strict depth _ >>= _) = _
    rw [value_atom strict depth member.afterColon member.value closes]
    rfl
  have skipped : skipSpace (gap.chars ++ (object.chars Atom.chars ++ rest)) =
      '\x7b' :: (object.body Atom.chars ++ rest) := by
    rw [skipSpace_gap, Object.chars, List.cons_append, skipSpace_cons rfl]
  have read := members_body reads strict object () rest
  rw [foldlM_ok] at read
  unfold value
  rw [skipped]
  change (members strict _ _ true () (object.body Atom.chars ++ rest) >>= _) = _
  exact congrArg (· >>= _) read

/-- What a member may have for a value. -/
inductive Value where
  | atom (scalar : Atom)
  | object (members : Object Atom)

def Value.chars : Value → List Char
  | .atom scalar => scalar.chars
  | .object members => members.chars Atom.chars

theorem skip_value (gap : Gap) (written : Value) {rest : List Char} (closes : Closes rest) :
    skip (gap.chars ++ (written.chars ++ rest)) = .ok ((), rest) := by
  cases written with
  | atom atom =>
      rw [skip, Value.chars, value_atom false _ gap atom closes]
      rfl
  | object object =>
      have deep : (gap.chars ++ (object.chars Atom.chars ++ rest)).length =
          (gap.chars ++ (object.body Atom.chars ++ rest)).length + 1 := by
        simp [Object.chars]
        omega
      rw [skip, Value.chars, deep, value_object]
      rfl

end Handoff.Json
