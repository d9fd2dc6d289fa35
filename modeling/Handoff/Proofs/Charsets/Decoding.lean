import Handoff.Charset
import Handoff.Proofs.Charsets.Sequences
import Mathlib.Data.Nat.Find

namespace Handoff

/-! Decoding of octets, whole or in pieces.

Where a cut does not go through a sequence it makes no difference to what is
decoded.  Text comes back from its octets, and of octets that are no text the
reader makes as much as can be made: it takes characters where it can, and where it
cannot it takes one maximal invalid part at a time. -/

namespace Text.Utf8

/-- Octets with which the sequence of some character begins. -/
def Begins (part : Bytes) : Prop :=
  ∃ char, part <+: String.utf8EncodeChar char

/-- Octets that may be passed over together: with them a sequence begins, or there
is only one of them. -/
def Skippable (part : Bytes) : Prop :=
  part ≠ [] ∧ (Begins part ∨ part.length = 1)

/-- The longest part that may be passed over where no character can be taken. -/
structure MaximalInvalid (part rest : Bytes) : Prop where
  unconvertible : ∀ char, ¬ String.utf8EncodeChar char <+: part ++ rest
  skippable : Skippable part
  longest : ∀ other, Skippable other → other <+: part ++ rest → other.length ≤ part.length

/-- The characters that octets stand for, with one replacement character for each
maximal invalid part. -/
inductive Lossy : Bytes → List Char → Prop where
  | nil : Lossy [] []
  | char {rest chars} (char : Char) : Lossy rest chars →
      Lossy (String.utf8EncodeChar char ++ rest) (char :: chars)
  | invalid {part rest chars} : MaximalInvalid part rest → Lossy rest chars →
      Lossy (part ++ rest) (replacement :: chars)

/-- An octet that continues a sequence and begins none. -/
def Continues (byte : UInt8) : Prop :=
  0x80 ≤ byte ∧ byte ≤ 0xbf

variable {byte lead : UInt8} {part rest bytes : Bytes} {chars : List Char}

/-- An octet that was not expected is read anew. -/
theorem readAll_unexpected {missing value : Nat} {low high : UInt8}
    (unexpected : ¬ (low ≤ byte ∧ byte ≤ high)) :
    (State.inside missing low high value).readAll (byte :: rest) =
      replacement :: State.between.readAll (byte :: rest) := by
  simp [State.readAll, read, unexpected]

theorem readAll_append {state : State} (narrow : state.Narrow) (first : Bytes) {second : Bytes}
    (fresh : ∀ byte ∈ second.head?, ¬ Continues byte) :
    state.readAll (first ++ second) = state.readAll first ++ State.between.readAll second := by
  induction first generalizing state with
  | nil =>
      cases state with
      | between => rfl
      | inside missing low high value =>
          cases second with
          | nil => rfl
          | cons byte rest =>
              have outside : ¬ (low ≤ byte ∧ byte ≤ high) := by
                have other := fresh byte rfl
                obtain ⟨bottom, -, top⟩ := narrow
                simp only [Continues, UInt8.le_iff_toNat_le, UInt8.reduceToNat] at other ⊢
                omega
              rw [List.nil_append, readAll_unexpected outside]
              rfl
  | cons byte first ih =>
      simp only [List.cons_append, State.readAll, ih (narrow.read byte), List.append_assoc]

/-- An octet with which nothing begins is an invalid part of its own. -/
theorem start_of_not_begins (invalid : ¬ Begins [lead]) : start lead = (.between, [replacement]) := by
  rcases start_cases lead with ⟨small, -⟩ | started | ⟨missing, low, high, value, started, narrow⟩
  · have alone : sequence lead.toNat = [lead] := by
      rw [sequence_eq (.inl (by omega)), if_pos small, UInt8.ofNat_toNat]
    exact absurd ⟨Char.ofNat lead.toNat, [], alone.symm⟩ invalid
  · exact started
  · obtain ⟨char, going⟩ := (follows_start started).begins narrow (UInt8.le_refl low)
      (UInt8.le_iff_toNat_le.mpr narrow.2.1)
    exact absurd ⟨char, (List.prefix_append [lead] [low]).trans going⟩ invalid

/-- A maximal invalid part makes one replacement character. -/
theorem MaximalInvalid.readAll (invalid : MaximalInvalid part rest) :
    State.between.readAll (part ++ rest) = replacement :: State.between.readAll rest := by
  by_cases begins : Begins part
  · obtain ⟨char, left, cut⟩ := begins
    have more : left ≠ [] := by
      rintro rfl
      exact invalid.unconvertible char ⟨rest, by rw [← cut, List.append_nil]⟩
    obtain ⟨state, follows, narrow, reads⟩ := exists_follows cut.symm invalid.skippable.1 more
    rw [reads]
    cases state with
    | between => exact follows.elim
    | inside missing low high value =>
        cases rest with
        | nil => rfl
        | cons byte rest =>
            refine readAll_unexpected fun expected => ?_
            have going := follows.begins narrow expected.1 expected.2
            have bound := invalid.longest (part ++ [byte]) ⟨by simp, .inl going⟩ ⟨rest, by simp⟩
            rw [List.length_append, List.length_singleton] at bound
            omega
  · obtain ⟨lead, rfl⟩ := List.length_eq_one_iff.mp (invalid.skippable.2.resolve_left begins)
    rw [List.singleton_append, State.readAll, read, start_of_not_begins begins]
    rfl

/-- Where no character can be taken there is a maximal invalid part. -/
theorem exists_maximalInvalid (some : bytes ≠ [])
    (unconvertible : ∀ char, ¬ String.utf8EncodeChar char <+: bytes) :
    ∃ part rest, part ++ rest = bytes ∧ MaximalInvalid part rest := by
  classical
  have one : 1 ≤ bytes.length := List.length_pos_iff.mpr some
  have single : Skippable (bytes.take 1) := by
    have length : (bytes.take 1).length = 1 := List.length_take_of_le one
    exact ⟨List.ne_nil_of_length_pos (by omega), .inr length⟩
  let most := Nat.findGreatest (fun count => Skippable (bytes.take count)) bytes.length
  have fits : most ≤ bytes.length := Nat.findGreatest_le _
  refine ⟨bytes.take most, bytes.drop most, List.take_append_drop _ _, ?_, ?_, ?_⟩
  · rwa [List.take_append_drop]
  · exact Nat.findGreatest_spec (P := fun count => Skippable (bytes.take count)) one single
  · intro other skippable front
    rw [List.take_append_drop] at front
    rw [List.length_take_of_le fits]
    refine Nat.le_findGreatest front.length_le ?_
    rwa [← List.prefix_iff_eq_take.mp front]

theorem exists_lossy (bytes : Bytes) : ∃ chars, Lossy bytes chars := by
  induction length : bytes.length using Nat.strong_induction_on generalizing bytes with
  | h count ih =>
      subst length
      by_cases none : bytes = []
      · exact ⟨[], none ▸ .nil⟩
      by_cases convertible : ∃ char, String.utf8EncodeChar char <+: bytes
      · obtain ⟨char, rest, rfl⟩ := convertible
        have shorter : rest.length < (String.utf8EncodeChar char ++ rest).length := by
          have := List.length_pos_iff.mpr (String.utf8EncodeChar_ne_nil (c := char))
          rw [List.length_append]
          omega
        obtain ⟨chars, lossy⟩ := ih _ shorter rest rfl
        exact ⟨_, .char char lossy⟩
      · obtain ⟨part, rest, rfl, invalid⟩ := exists_maximalInvalid none (not_exists.mp convertible)
        have shorter : rest.length < (part ++ rest).length := by
          have := List.length_pos_iff.mpr invalid.skippable.1
          rw [List.length_append]
          omega
        obtain ⟨chars, lossy⟩ := ih _ shorter rest rfl
        exact ⟨_, .invalid invalid lossy⟩

/-- The reader reads exactly the characters that octets stand for. -/
theorem lossy_iff : Lossy bytes chars ↔ decode bytes = chars := by
  have sound {chars} (lossy : Lossy bytes chars) : decode bytes = chars := by
    rw [decode_eq]
    induction lossy with
    | nil => rfl
    | char char _ ih => rw [readAll_sequence, ih]
    | invalid invalid _ ih => rw [invalid.readAll, ih]
  refine ⟨sound, ?_⟩
  rintro rfl
  obtain ⟨chars, lossy⟩ := exists_lossy bytes
  exact sound lossy ▸ lossy

theorem decode_append (first : Bytes) {second : Bytes}
    (fresh : ∀ byte ∈ second.head?, ¬ Continues byte) :
    decode (first ++ second) = decode first ++ decode second := by
  have narrow : State.between.Narrow := trivial
  simp only [decode_eq]
  exact readAll_append narrow first fresh

theorem decode_flatMap (chars : List Char) :
    decode (chars.flatMap String.utf8EncodeChar) = chars := by
  rw [decode_eq]
  induction chars with
  | nil => rfl
  | cons char chars ih => rw [List.flatMap_cons, readAll_sequence, ih]

/-- Octets of the lower half are characters by themselves. -/
theorem decode_of_small (small : ∀ byte ∈ bytes, byte < 0x80) :
    decode bytes = bytes.map fun byte => Char.ofNat byte.toNat := by
  rw [decode_eq]
  induction bytes with
  | nil => rfl
  | cons byte rest ih =>
      have first : byte.toNat < 0x80 := UInt8.lt_iff_toNat_lt.mp (small byte List.mem_cons_self)
      rw [List.map_cons, ← ih fun other later => small other (List.mem_cons_of_mem _ later)]
      simp [State.readAll, read, start_eq, first]

end Text.Utf8

/-! The octets of a text. -/

theorem Bytes.toList_loop (array : ByteArray) (index : Nat) (read : Bytes) :
    ByteArray.toList.loop array index read = read.reverse ++ array.data.toList.drop index := by
  fun_induction ByteArray.toList.loop array index read with
  | case1 index read inside ih =>
      have bound : index < array.data.toList.length := by simpa using inside
      rw [ih, List.drop_eq_getElem_cons bound]
      simp [ByteArray.get!, inside]
  | case2 index read outside =>
      rw [List.drop_eq_nil_of_le (by simpa using outside), List.append_nil]

theorem Bytes.ofText_eq (text : String) :
    Bytes.ofText text = text.toList.flatMap String.utf8EncodeChar := by
  rw [ofText, ByteArray.toList, toList_loop, String.toUTF8_eq_toByteArray, ← String.utf8Encode_toList]
  simp [List.utf8Encode]

namespace Charset

theorem decodeChars_append_of_ne {charset : Charset} (other : charset ≠ .utf8)
    (first second : Bytes) :
    charset.decodeChars (first ++ second) =
      charset.decodeChars first ++ charset.decodeChars second := by
  cases charset with
  | utf8 => contradiction
  | latin1 => exact List.map_append
  | ascii => exact List.map_append

theorem decodeChars_of_small (charset : Charset) {bytes : Bytes}
    (small : ∀ byte ∈ bytes, byte < 0x80) :
    charset.decodeChars bytes = bytes.map latin1Char := by
  cases charset with
  | latin1 => rfl
  | utf8 => exact Text.Utf8.decode_of_small small
  | ascii =>
      refine List.map_congr_left fun byte member => ?_
      rw [asciiChar, if_pos (small byte member), latin1Char]

/-- The law of decoding.  Octets may be cut anywhere in ISO-8859-1 and US-ASCII, and in
UTF-8 before any octet that does not continue a sequence.  Text is read back from its
octets, the charsets agree on the lower half of the octets, and in UTF-8 octets that
are no text are read with one replacement character for each maximal invalid part. -/
theorem decoding_law :
    (∀ (charset : Charset) (first second : Bytes),
      (∀ byte ∈ second.head?, ¬ Text.Utf8.Continues byte) →
        charset.decode (first ++ second) = charset.decode first ++ charset.decode second) ∧
    (∀ charset : Charset, charset ≠ .utf8 → ∀ first second : Bytes,
      charset.decode (first ++ second) = charset.decode first ++ charset.decode second) ∧
    (∀ text : String, Charset.utf8.decode (Bytes.ofText text) = text) ∧
    (∀ bytes : Bytes, (∀ byte ∈ bytes, byte < 0x80) → ∀ charset other : Charset,
      charset.decode bytes = other.decode bytes) ∧
    (∀ (bytes : Bytes) (text : String),
      Charset.utf8.decode bytes = text ↔ Text.Utf8.Lossy bytes text.toList) := by
  have pieces {charset : Charset} (other : charset ≠ .utf8) (first second : Bytes) :
      charset.decode (first ++ second) = charset.decode first ++ charset.decode second := by
    rw [decode, decodeChars_append_of_ne other, String.ofList_append, decode, decode]
  refine ⟨fun charset first second fresh => ?_, fun charset other => pieces other,
    fun text => ?_, fun bytes small charset other => ?_, fun bytes text => ?_⟩
  · by_cases utf8 : charset = .utf8
    · subst utf8
      simp only [decode, decodeChars, Text.Utf8.decode_append first fresh, String.ofList_append]
    · exact pieces utf8 first second
  · rw [decode, decodeChars, Bytes.ofText_eq, Text.Utf8.decode_flatMap, String.ofList_toList]
  · rw [decode, decode, charset.decodeChars_of_small small, other.decodeChars_of_small small]
  · rw [Text.Utf8.lossy_iff, decode, decodeChars, ← String.toList_inj, String.toList_ofList]

/-- A sequence that breaks off is one invalid part, and what comes after it is read as
if it came alone. -/
theorem decoding_law_torn :
    (∀ byte ∈ ([0xe2, 0x82, 0xac] : Bytes).head?, ¬ Text.Utf8.Continues byte) ∧
    Charset.utf8.decode ([0xf0, 0x9f, 0x98] ++ [0xe2, 0x82, 0xac]) = "\ufffd" ++ "€" ∧
    Charset.latin1.decode ([0xe2] ++ [0x82]) = "â" ++ "\x82" ∧
    Charset.ascii.decode [0x48, 0x7f] = Charset.utf8.decode [0x48, 0x7f] := by
  obtain ⟨pieces, anywhere, -, agree, -⟩ := decoding_law
  have fresh : ∀ byte ∈ ([0xe2, 0x82, 0xac] : Bytes).head?, ¬ Text.Utf8.Continues byte := by
    intro byte first
    cases first
    unfold Text.Utf8.Continues
    decide
  have small : ∀ byte ∈ ([0x48, 0x7f] : Bytes), byte < 0x80 :=
    List.forall_mem_cons.mpr ⟨by decide, List.forall_mem_singleton.mpr (by decide)⟩
  refine ⟨fresh, ?_, ?_, agree _ small _ _⟩
  · rw [pieces .utf8 _ _ fresh]
    rfl
  · rw [anywhere .latin1 (by decide)]
    rfl

end Charset

end Handoff
