import Handoff.Config.Json
import Handoff.Proofs.Texts.Capacities

namespace Handoff

open Json

/-! What a text says of a configuration.

Only some members of an object matter, and each of them by itself; wherever they stand,
and whatever stands beside them, the configuration is made of their values.  The text that
is written of a configuration says just that configuration. -/

namespace Config

/-- The ceiling that is read from a value. -/
def ceilingOf : Value → Except Fault (Option Nat)
  | .atom .null => .ok none
  | .atom (.natural limit _) => .ok (some limit)
  | _ => .error .mismatch

/-- The capacity that is read from a value. -/
def capacityOf : Value → Except Fault Capacity
  | .object object => object.members.foldlM Capacity.Members.put .none >>= Capacity.Members.capacity
  | .atom _ => .error .mismatch

namespace Partial

/-- What the reader of a configuration does with a member. -/
def put (found : Partial) (member : Member Value) : Except Fault Partial :=
  if member.name.text = "pending_ceiling" then
    (once ceilingOf found.pendingCeiling member.value).map fun pendingCeiling =>
      { found with pendingCeiling }
  else if member.name.text = "text_capacity" then
    (once capacityOf found.textCapacity member.value).map fun textCapacity =>
      { found with textCapacity }
  else .ok found

theorem optionalCount_value (gap : Gap) (value : Value) {rest : List Char} (closes : Closes rest) :
    optionalCount (gap.chars ++ (value.chars ++ rest)) =
      (ceilingOf value).map fun ceiling => (ceiling, rest) := by
  cases value with
  | atom atom =>
      rw [optionalCount, Value.chars, asked_atom _ gap atom closes]
      cases atom <;> rfl
  | object object => exact asked_object _ gap _

theorem read_value (depth : Nat) (gap : Gap) (value : Value) {rest : List Char}
    (closes : Closes rest) : Capacity.read depth (gap.chars ++ (value.chars ++ rest)) =
      (capacityOf value).map fun capacity => (capacity, rest) := by
  cases value with
  | atom atom => exact Capacity.read_atom depth gap atom closes
  | object object => exact Capacity.read_object depth gap object rest

theorem reads_put : Reads Value.chars read put := by
  intro found member rest closes
  rw [put]
  by_cases ceiling : member.name.text = "pending_ceiling"
  · rw [if_pos ceiling, ceiling, read, once]
    cases found.pendingCeiling with
    | some first => rfl
    | none =>
        rw [colon_tail]
        change (optionalCount _ >>= _) = _
        rw [optionalCount_value member.afterColon member.value closes]
        cases ceilingOf member.value <;> rfl
  · rw [if_neg ceiling]
    by_cases capacity : member.name.text = "text_capacity"
    · rw [if_pos capacity, capacity, read, once]
      cases found.textCapacity with
      | some first => rfl
      | none =>
          rw [colon_tail]
          change (Capacity.read _ _ >>= _) = _
          rw [read_value _ member.afterColon member.value closes]
          cases capacityOf member.value <;> rfl
    · rw [if_neg capacity, read, colon_tail]
      · change (skip _ >>= _) = _
        rw [skip_value member.afterColon member.value closes]
        rfl
      · exact ceiling
      · exact capacity

/-- Only the members of two names matter, and each of them by itself. -/
theorem foldlM_put {written : List (Member Value)} {start found : Partial} :
    written.foldlM put start = .ok found ↔
      (named "pending_ceiling" written).foldlM (once ceilingOf) start.pendingCeiling =
          .ok found.pendingCeiling ∧
        (named "text_capacity" written).foldlM (once capacityOf) start.textCapacity =
          .ok found.textCapacity := by
  induction written generalizing start with
  | nil =>
      obtain ⟨ceiling, capacity⟩ := found
      obtain ⟨first, second⟩ := start
      simp [pure, Except.pure]
  | cons member written ih =>
      rw [List.foldlM_cons, put]
      by_cases ceiling : member.name.text = "pending_ceiling"
      · rw [if_pos ceiling, named_cons_same ceiling, named_cons_other (by simp [ceiling]),
          List.foldlM_cons]
        cases given : once ceilingOf start.pendingCeiling member.value with
        | error fault => simp [bind, Except.bind, Except.map]
        | ok first => exact ih
      · rw [if_neg ceiling, named_cons_other ceiling]
        by_cases capacity : member.name.text = "text_capacity"
        · rw [if_pos capacity, named_cons_same capacity, List.foldlM_cons]
          cases given : once capacityOf start.textCapacity member.value with
          | error fault => simp [bind, Except.bind, Except.map]
          | ok first => exact ih
        · rw [if_neg capacity, named_cons_other capacity]
          exact ih

end Partial

/-- An object with space around it. -/
structure Document where
  before : Gap
  object : Object Value
  after : Gap

def Document.text (document : Document) : String :=
  String.ofList (document.before.chars ++
    (document.object.chars Value.chars ++ document.after.chars))

theorem ofJson_document (document : Document) :
    ofJson document.text = (document.object.members.foldlM Partial.put .empty).map
      Partial.complete := by
  have body := members_body Partial.reads_put true document.object .empty document.after.chars
  have nothing : skipSpace document.after.chars = [] := by
    simpa [skipSpace] using skipSpace_gap document.after []
  rw [ofJson, Document.text, whole, String.toList_ofList, read, skipSpace_gap, Object.chars,
    List.cons_append, skipSpace_cons rfl]
  change ((Json.members true Partial.read _ true .empty _ >>= _) >>= _) = _
  rw [body]
  cases document.object.members.foldlM Partial.put .empty with
  | error fault => rfl
  | ok found =>
      change (if (skipSpace document.after.chars).isEmpty then _ else _) = _
      rw [nothing]
      rfl

/-- What a value says about the ceiling. -/
def SaysCeiling (value : Value) (ceiling : Option Nat) : Prop :=
  value = .atom .null ∧ ceiling = none ∨
    ∃ limit fits, value = .atom (.natural limit fits) ∧ ceiling = some limit

/-- What a value says about the capacity. -/
def SaysCapacity (value : Value) (capacity : Capacity) : Prop :=
  ∃ object, value = .object object ∧ Capacity.Describes object.members capacity

/-- The members of an object describe a configuration.  What is left out is as usual. -/
structure Describes (written : List (Member Value)) (config : Config) : Prop where
  ceiling : FieldIs (named "pending_ceiling" written) usual.pendingCeiling SaysCeiling
    config.pendingCeiling
  capacity : FieldIs (named "text_capacity" written) usual.textCapacity SaysCapacity
    config.textCapacity

theorem ceilingOf_eq_ok {value : Value} {ceiling : Option Nat} :
    ceilingOf value = .ok ceiling ↔ SaysCeiling value ceiling := by
  cases value with
  | object object => simp [ceilingOf, SaysCeiling]
  | atom atom =>
      cases atom with
      | natural limit fits =>
          constructor
          · intro same
            cases same
            exact .inr ⟨limit, fits, rfl, rfl⟩
          · rintro (⟨same, -⟩ | ⟨other, fits, same, rfl⟩) <;> cases same
            rfl
      | _ => simp [ceilingOf, SaysCeiling, eq_comm]

theorem capacityOf_eq_ok {value : Value} {capacity : Capacity} :
    capacityOf value = .ok capacity ↔ SaysCapacity value capacity := by
  cases value with
  | atom atom => simp [capacityOf, SaysCapacity]
  | object object => simp [capacityOf, SaysCapacity, Capacity.capacity_eq_ok]

theorem foldlM_complete {written : List (Member Value)} {config : Config} :
    (written.foldlM Partial.put .empty).map Partial.complete = .ok config ↔
      (∃ found, (named "pending_ceiling" written).foldlM (once ceilingOf) none = .ok found ∧
        found.getD usual.pendingCeiling = config.pendingCeiling) ∧
      ∃ found, (named "text_capacity" written).foldlM (once capacityOf) none = .ok found ∧
        found.getD usual.textCapacity = config.textCapacity := by
  constructor
  · intro read
    cases fold : written.foldlM Partial.put .empty with
    | error fault => rw [fold] at read; cases read
    | ok found =>
        rw [fold] at read
        cases read
        obtain ⟨ceilings, capacities⟩ := Partial.foldlM_put.mp fold
        exact ⟨⟨_, ceilings, rfl⟩, ⟨_, capacities, rfl⟩⟩
  · rintro ⟨⟨ceiling, ceilings, first⟩, ⟨capacity, capacities, second⟩⟩
    have fold : written.foldlM Partial.put .empty = .ok ⟨ceiling, capacity⟩ :=
      Partial.foldlM_put.mpr ⟨ceilings, capacities⟩
    rw [fold]
    change Except.ok (Config.mk _ _) = _
    rw [first, second]

/-- A text is read as the configuration that its members describe. -/
theorem ofJson_eq_ok {document : Document} {config : Config} :
    ofJson document.text = .ok config ↔ Describes document.object.members config := by
  rw [ofJson_document, foldlM_complete, foldlM_once_getD, foldlM_once_getD]
  simp only [ceilingOf_eq_ok, capacityOf_eq_ok]
  constructor
  · rintro ⟨ceiling, capacity⟩
    exact ⟨ceiling, capacity⟩
  · rintro ⟨ceiling, capacity⟩
    exact ⟨ceiling, capacity⟩

/-- The members of an object are such that a configuration can be read from them. -/
structure Acceptable (written : List (Member Value)) : Prop where
  one_ceiling : (named "pending_ceiling" written).length ≤ 1
  one_capacity : (named "text_capacity" written).length ≤ 1
  ceiling : ∀ value ∈ named "pending_ceiling" written,
    value = .atom .null ∨ ∃ limit fits, value = .atom (.natural limit fits)
  capacity : ∀ value ∈ named "text_capacity" written, ∃ object, value = .object object ∧
    ∃ mode, Capacity.Names object.members mode ∧
      ∀ field ∈ mode.fields, ∃ count, Capacity.Members.Gives object.members field count

theorem exists_saysCeiling {value : Value} : (∃ ceiling, SaysCeiling value ceiling) ↔
    value = .atom .null ∨ ∃ limit fits, value = .atom (.natural limit fits) := by
  constructor
  · rintro ⟨ceiling, ⟨same, -⟩ | ⟨limit, fits, same, -⟩⟩
    · exact .inl same
    · exact .inr ⟨limit, fits, same⟩
  · rintro (same | ⟨limit, fits, same⟩)
    · exact ⟨none, .inl ⟨same, rfl⟩⟩
    · exact ⟨some limit, .inr ⟨limit, fits, same, rfl⟩⟩

theorem exists_saysCapacity {value : Value} : (∃ capacity, SaysCapacity value capacity) ↔
    ∃ object, value = .object object ∧ ∃ mode, Capacity.Names object.members mode ∧
      ∀ field ∈ mode.fields, ∃ count, Capacity.Members.Gives object.members field count := by
  constructor
  · rintro ⟨capacity, object, same, describes⟩
    exact ⟨object, same, Capacity.exists_describes.mp ⟨capacity, describes⟩⟩
  · rintro ⟨object, same, gives⟩
    obtain ⟨capacity, describes⟩ := Capacity.exists_describes.mpr gives
    exact ⟨capacity, object, same, describes⟩

theorem exists_describes {written : List (Member Value)} :
    (∃ config, Describes written config) ↔ Acceptable written := by
  constructor
  · rintro ⟨config, ceiling, capacity⟩
    obtain ⟨one, ceilings⟩ := exists_fieldIs.mp ⟨_, ceiling⟩
    obtain ⟨alone, capacities⟩ := exists_fieldIs.mp ⟨_, capacity⟩
    exact ⟨one, alone, fun value member => exists_saysCeiling.mp (ceilings value member),
      fun value member => exists_saysCapacity.mp (capacities value member)⟩
  · rintro ⟨one, alone, ceilings, capacities⟩
    obtain ⟨ceiling, first⟩ := exists_fieldIs.mpr
      ⟨one, fun value member => exists_saysCeiling.mpr (ceilings value member)⟩
    obtain ⟨capacity, second⟩ := exists_fieldIs.mpr
      ⟨alone, fun value member => exists_saysCapacity.mpr (capacities value member)⟩
    exact ⟨⟨ceiling, capacity⟩, first, second⟩

/-! The text that is written of a configuration. -/

/-- The numbers of a configuration fit a word. -/
structure Fits (config : Config) : Prop where
  ceiling : ∀ limit, config.pendingCeiling = some limit → limit ≤ Count.limit
  capacity : config.textCapacity.Fits

/-- The value that is written of a ceiling. -/
def ceilingValue : (ceiling : Option Nat) → (∀ limit, ceiling = some limit → limit ≤ Count.limit) →
    Value
  | none => fun _ => .atom .null
  | some limit => fun fits => .atom (.natural limit (fits limit rfl))

/-- The object that is written of a configuration, without space. -/
def document (config : Config) (fits : config.Fits) : Document where
  before := .none
  object := {
    members := [
      .tight (.of "pending_ceiling".toList rfl) (ceilingValue config.pendingCeiling fits.ceiling),
      .tight (.of "text_capacity".toList rfl)
        (.object ⟨config.textCapacity.members fits.capacity, .none⟩)]
    inner := .none }
  after := .none

theorem text_document (config : Config) (fits : config.Fits) :
    (config.document fits).text = config.toJson := by
  apply String.toList_injective
  have capacity := Capacity.toList_toJson config.textCapacity fits.capacity
  obtain ⟨ceiling, mode⟩ := config
  unfold toJson
  simp only [String.toList_append, Document.text, String.toList_ofList, capacity]
  simp only [document, Object.chars, Object.body, row, Member.tight, Member.tail, Plain.quoted,
    Plain.of, Gap.none, Value.chars]
  cases ceiling with
  | none => simp [ceilingValue, Atom.chars]
  | some limit =>
      simp only [Nat.toString_eq_ofList_toDigits, String.toList_ofList]
      simp [ceilingValue, Atom.chars]

theorem describes_document (config : Config) (fits : config.Fits) :
    Describes (config.document fits).object.members config := by
  obtain ⟨ceiling, capacity⟩ := config
  constructor
  · refine .inr ⟨ceilingValue ceiling fits.ceiling, rfl, ?_⟩
    cases ceiling with
    | none => exact .inl ⟨rfl, rfl⟩
    | some limit => exact .inr ⟨limit, fits.ceiling limit rfl, rfl, rfl⟩
  · exact .inr ⟨.object ⟨capacity.members fits.capacity, .none⟩, rfl, _, rfl,
      Capacity.describes_members capacity fits.capacity⟩

/-- The law of configuration texts.  A configuration is read back from the text that is
written of it, valid or not, as long as its numbers fit a word.  A text with an object is
read as what its members describe: the ceiling and the capacity count if they are given
once, are as usual if they are not, and no other member matters.  It is refused exactly
when nothing is described. -/
theorem text_law (document : Document) :
    (∀ config : Config, config.Fits → ofJson config.toJson = .ok config) ∧
    (∀ config, ofJson document.text = .ok config ↔ Describes document.object.members config) ∧
    ((∃ config, ofJson document.text = .ok config) ↔ Acceptable document.object.members) := by
  refine ⟨fun config fits => ?_, fun config => ofJson_eq_ok, ?_⟩
  · rw [← text_document config fits]
    exact ofJson_eq_ok.mpr (describes_document config fits)
  · simp only [ofJson_eq_ok]
    exact exists_describes

/-- The mode comes last, there is space, and nobody asked for the note. -/
def scattered : Document where
  before := .none
  object := {
    members := [
      .tight (.of "note".toList rfl) (.atom (.flag true)),
      { before := .of [' ', '\n'] rfl
        name := .of "text_capacity".toList rfl
        beforeColon := .none
        afterColon := .of ['\t'] rfl
        value := .object {
          members := ((Capacity.fixed 5).members (Nat.le_of_ble_eq_true rfl)).reverse
          inner := .none }
        after := .none }]
    inner := .none }
  after := .of ['\n'] rfl

theorem text_law_scattered :
    ofJson (toJson ⟨some Count.limit, .growable 0 Count.limit⟩) =
        .ok ⟨some Count.limit, .growable 0 Count.limit⟩ ∧
      ofJson scattered.text = .ok ⟨none, .fixed 5⟩ := by
  have law := text_law scattered
  have fits : Fits ⟨some Count.limit, .growable 0 Count.limit⟩ := by
    refine ⟨fun limit same => ?_, Nat.zero_le _, Nat.le_refl _⟩
    cases same
    exact Nat.le_refl _
  refine ⟨law.1 _ fits, (law.2.1 _).mpr ⟨.inl ⟨rfl, rfl⟩, ?_⟩⟩
  exact .inr ⟨_, rfl, _, rfl, ⟨.of "fixed".toList rfl, rfl, rfl⟩, _, rfl⟩

end Config

end Handoff
