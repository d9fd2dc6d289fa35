import Handoff.Text.Utf8
import Mathlib.Algebra.Group.Nat.Defs

namespace Handoff.Text.Utf8

/-! The octet sequences of characters, and what the lossy reader makes of them.

A sequence is a first octet and a trail: the further octets carry six bits of the
character's number each, highest first.  Inside a sequence the reader still expects
some numbers.  Each of them is the number of a character whose sequence begins with
the octets read so far, and every such character is still expected. -/

/-- The octets of the character with a number. -/
def sequence (number : Nat) : Bytes :=
  String.utf8EncodeChar (Char.ofNat number)

/-- The last `count` octets of the sequence for a number. -/
def trail (number : Nat) : Nat → Bytes
  | 0 => []
  | count + 1 => UInt8.ofNat (number / 64 ^ count % 64 + 0x80) :: trail number count

/-- Decides whether a reader may still come upon the character with a number. -/
def State.Expects (number : Nat) : State → Prop
  | .between => False
  | .inside missing low high value =>
      number / 64 ^ (missing + 1) = value ∧ low.toNat ≤ number / 64 ^ missing % 64 + 0x80 ∧
        number / 64 ^ missing % 64 + 0x80 ≤ high.toNat

/-- Some octet is expected, and none but one that continues a sequence. -/
def State.Narrow : State → Prop
  | .between => True
  | .inside _ low high _ => 0x80 ≤ low.toNat ∧ low.toNat ≤ high.toNat ∧ high.toNat ≤ 0xbf

variable {number missing value : Nat} {lead byte low high : UInt8} {part : Bytes}

theorem sequence_toNat (char : Char) : sequence char.toNat = String.utf8EncodeChar char := by
  rw [sequence, Char.ofNat_toNat]

theorem toNat_ofNat {count : Nat} (small : count < 256) : (UInt8.ofNat count).toNat = count := by
  rw [UInt8.toNat_ofNat']
  omega

/-- Each further place holds six bits. -/
theorem div_pow_succ (number place : Nat) :
    number / 64 ^ (place + 1) = number / 64 ^ place / 64 := by
  rw [Nat.pow_succ, Nat.div_div_eq_div_mul]

/-- A sequence by the size of its number. -/
theorem sequence_eq (valid : number.isValidChar) : sequence number =
    if number < 0x80 then [UInt8.ofNat number]
    else if number < 0x800 then UInt8.ofNat (number / 64 + 0xc0) :: trail number 1
    else if number < 0x10000 then UInt8.ofNat (number / 64 ^ 2 + 0xe0) :: trail number 2
    else UInt8.ofNat (number / 64 ^ 3 + 0xf0) :: trail number 3 := by
  have same : (Char.ofNat number).val.toNat = number := by
    rw [Char.ofNat, dif_pos valid]
    rfl
  have limit : number < 0x110000 := by
    unfold Nat.isValidChar at valid
    omega
  simp only [sequence, String.utf8EncodeChar, same, trail, Nat.reducePow, Nat.div_one]
  by_cases one : number < 0x80
  · rw [if_pos (by omega), if_pos one]
  rw [if_neg (by omega), if_neg one]
  by_cases two : number < 0x800
  · rw [if_pos (by omega), if_pos two, Nat.mod_eq_of_lt (by omega : number / 64 < 32)]
  rw [if_neg (by omega), if_neg two]
  by_cases three : number < 0x10000
  · rw [if_pos (by omega), if_pos three, Nat.mod_eq_of_lt (by omega : number / 4096 < 16)]
  · rw [if_neg (by omega), if_neg three, Nat.mod_eq_of_lt (by omega : number / 262144 < 8)]

/-- The reader's first step by the number of the octet. -/
theorem start_eq (lead : UInt8) : start lead =
    if lead.toNat < 0x80 then (.between, [Char.ofNat lead.toNat])
    else if lead.toNat < 0xc2 then (.between, [replacement])
    else if lead.toNat < 0xe0 then (.inside 0 0x80 0xbf (lead.toNat - 0xc0), [])
    else if lead.toNat < 0xf0 then
      (.inside 1 (if lead.toNat = 0xe0 then 0xa0 else 0x80)
        (if lead.toNat = 0xed then 0x9f else 0xbf) (lead.toNat - 0xe0), [])
    else if lead.toNat < 0xf5 then
      (.inside 2 (if lead.toNat = 0xf0 then 0x90 else 0x80)
        (if lead.toNat = 0xf4 then 0x8f else 0xbf) (lead.toNat - 0xf0), [])
    else (.between, [replacement]) := by
  simp only [start, UInt8.lt_iff_toNat_lt, ← UInt8.toNat_inj, UInt8.reduceToNat]
  grind

/-- The first octet is a whole sequence, or invalid, or the reader goes inside. -/
theorem start_cases (lead : UInt8) :
    lead.toNat < 0x80 ∧ start lead = (.between, [Char.ofNat lead.toNat]) ∨
      start lead = (.between, [replacement]) ∨
      ∃ missing low high value, start lead = (.inside missing low high value, []) ∧
        (State.inside missing low high value).Narrow := by
  rw [start_eq]
  split
  case isTrue small => exact .inl ⟨small, rfl⟩
  split
  case isTrue => exact .inr (.inl rfl)
  split
  case isTrue => exact .inr (.inr ⟨_, _, _, _, rfl, by simp [State.Narrow]⟩)
  split
  case isTrue =>
    refine .inr (.inr ⟨_, _, _, _, rfl, ?_⟩)
    simp only [State.Narrow, apply_ite UInt8.toNat, UInt8.reduceToNat]
    grind
  split
  case isTrue =>
    refine .inr (.inr ⟨_, _, _, _, rfl, ?_⟩)
    simp only [State.Narrow, apply_ite UInt8.toNat, UInt8.reduceToNat]
    grind
  case isFalse => exact .inr (.inl rfl)

theorem narrow_start (lead : UInt8) : (start lead).1.Narrow := by
  rcases start_cases lead with ⟨-, started⟩ | started | ⟨_, _, _, _, started, narrow⟩
  · rw [started]
    trivial
  · rw [started]
    trivial
  · rwa [started]

/-! The numbers that are expected after a first octet are those it can begin, by how
many octets there are. -/

theorem expects_two (least : 0xc2 ≤ lead.toNat) (most : lead.toNat < 0xe0) :
    (State.inside 0 0x80 0xbf (lead.toNat - 0xc0)).Expects number ↔
      0x80 ≤ number ∧ number < 0x800 ∧ number / 64 + 0xc0 = lead.toNat := by
  simp only [State.Expects, UInt8.reduceToNat]
  omega

theorem expects_three (least : 0xe0 ≤ lead.toNat) (most : lead.toNat < 0xf0) :
    (State.inside 1 (if lead.toNat = 0xe0 then 0xa0 else 0x80)
      (if lead.toNat = 0xed then 0x9f else 0xbf) (lead.toNat - 0xe0)).Expects number ↔
      number.isValidChar ∧ 0x800 ≤ number ∧ number < 0x10000 ∧
        number / 64 ^ 2 + 0xe0 = lead.toNat := by
  simp only [State.Expects, apply_ite UInt8.toNat, UInt8.reduceToNat, Nat.isValidChar]
  split <;> split <;> omega

theorem expects_four (least : 0xf0 ≤ lead.toNat) (most : lead.toNat < 0xf5) :
    (State.inside 2 (if lead.toNat = 0xf0 then 0x90 else 0x80)
      (if lead.toNat = 0xf4 then 0x8f else 0xbf) (lead.toNat - 0xf0)).Expects number ↔
      number.isValidChar ∧ 0x10000 ≤ number ∧ number / 64 ^ 3 + 0xf0 = lead.toNat := by
  simp only [State.Expects, apply_ite UInt8.toNat, UInt8.reduceToNat, Nat.isValidChar]
  split <;> split <;> omega

/-- The first octet of a longer sequence makes the reader expect the number of the
character. -/
theorem start_sequence (valid : number.isValidChar) (several : 0x80 ≤ number) :
    ∃ lead missing low high value, sequence number = lead :: trail number (missing + 1) ∧
      start lead = (.inside missing low high value, []) ∧
      (State.inside missing low high value).Expects number := by
  have limit : number < 0x110000 := by
    unfold Nat.isValidChar at valid
    omega
  rw [sequence_eq valid, if_neg (by omega)]
  by_cases two : number < 0x800
  · have lead : (UInt8.ofNat (number / 64 + 0xc0)).toNat = number / 64 + 0xc0 :=
      toNat_ofNat (by omega)
    have started := start_eq (UInt8.ofNat (number / 64 + 0xc0))
    rw [if_neg (by omega), if_neg (by omega), if_pos (by omega)] at started
    have expects := (expects_two (by omega) (by omega)).mpr ⟨several, two, lead.symm⟩
    rw [if_pos two]
    exact ⟨_, _, _, _, _, rfl, started, expects⟩
  rw [if_neg two]
  by_cases three : number < 0x10000
  · have lead : (UInt8.ofNat (number / 64 ^ 2 + 0xe0)).toNat = number / 64 ^ 2 + 0xe0 :=
      toNat_ofNat (by omega)
    have started := start_eq (UInt8.ofNat (number / 64 ^ 2 + 0xe0))
    rw [if_neg (by omega), if_neg (by omega), if_neg (by omega), if_pos (by omega)] at started
    have expects := (expects_three (by omega) (by omega)).mpr
      ⟨valid, by omega, three, lead.symm⟩
    rw [if_pos three]
    exact ⟨_, _, _, _, _, rfl, started, expects⟩
  · have lead : (UInt8.ofNat (number / 64 ^ 3 + 0xf0)).toNat = number / 64 ^ 3 + 0xf0 :=
      toNat_ofNat (by omega)
    have started := start_eq (UInt8.ofNat (number / 64 ^ 3 + 0xf0))
    rw [if_neg (by omega), if_neg (by omega), if_neg (by omega), if_neg (by omega),
      if_pos (by omega)] at started
    have expects := (expects_four (by omega) (by omega)).mpr ⟨valid, by omega, lead.symm⟩
    rw [if_neg three]
    exact ⟨_, _, _, _, _, rfl, started, expects⟩

/-- What the reader expects after a first octet is the number of a character whose
sequence begins with it. -/
theorem sequence_of_start (started : start lead = (.inside missing low high value, []))
    (expects : (State.inside missing low high value).Expects number) :
    number.isValidChar ∧ sequence number = lead :: trail number (missing + 1) := by
  rw [start_eq] at started
  by_cases less : lead.toNat < 0xc2
  · simp only [if_pos less] at started
    split at started <;> cases started
  simp only [if_neg less, if_neg (by omega : ¬ lead.toNat < 0x80)] at started
  by_cases two : lead.toNat < 0xe0
  · rw [if_pos two] at started
    cases started
    obtain ⟨several, small, same⟩ := (expects_two (by omega) two).mp expects
    have valid : number.isValidChar := .inl (by omega)
    rw [sequence_eq valid, if_neg (by omega), if_pos small, same, UInt8.ofNat_toNat]
    exact ⟨valid, rfl⟩
  rw [if_neg two] at started
  by_cases three : lead.toNat < 0xf0
  · rw [if_pos three] at started
    cases started
    obtain ⟨valid, large, small, same⟩ := (expects_three (by omega) three).mp expects
    rw [sequence_eq valid, if_neg (by omega), if_neg (by omega), if_pos small, same,
      UInt8.ofNat_toNat]
    exact ⟨valid, rfl⟩
  rw [if_neg three] at started
  by_cases four : lead.toNat < 0xf5
  · rw [if_pos four] at started
    cases started
    obtain ⟨valid, large, same⟩ := (expects_four (by omega) four).mp expects
    rw [sequence_eq valid, if_neg (by omega), if_neg (by omega), if_neg (by omega), same,
      UInt8.ofNat_toNat]
    exact ⟨valid, rfl⟩
  · rw [if_neg four] at started
    cases started

/-! What is read from octets. -/

/-- What a reader that stands somewhere makes of the octets to come. -/
def State.readAll (state : State) : Bytes → List Char
  | [] => flush state
  | byte :: rest => (read state byte).2 ++ (read state byte).1.readAll rest

theorem Reader.finish_foldl_feed (reader : Reader) (bytes : Bytes) :
    (bytes.foldl feed reader).finish = reader.read.reverse ++ reader.state.readAll bytes := by
  induction bytes generalizing reader with
  | nil => rfl
  | cons byte rest ih => simp [ih, feed, State.readAll]

theorem decode_eq (bytes : Bytes) : decode bytes = State.between.readAll bytes :=
  Reader.finish_foldl_feed Reader.initial bytes

/-- An octet of a trail tells the reader six more bits of the number. -/
theorem read_trail (expects : (State.inside missing low high value).Expects number) :
    read (.inside missing low high value) (UInt8.ofNat (number / 64 ^ missing % 64 + 0x80)) =
      match missing with
      | 0 => (.between, [Char.ofNat number])
      | missing + 1 => (.inside missing 0x80 0xbf (number / 64 ^ (missing + 1)), []) := by
  obtain ⟨rfl, least, most⟩ := expects
  have octet : (UInt8.ofNat (number / 64 ^ missing % 64 + 0x80)).toNat =
      number / 64 ^ missing % 64 + 0x80 := toNat_ofNat (by omega)
  have bits : number / 64 ^ (missing + 1) * 64 + number / 64 ^ missing % 64 =
      number / 64 ^ missing := by
    rw [div_pow_succ]
    omega
  simp only [read, UInt8.le_iff_toNat_le, octet, least, most, and_self, if_true,
    Nat.add_sub_cancel, bits]
  cases missing with
  | zero => simp
  | succ missing => rfl

theorem expects_inside (number missing : Nat) :
    (State.inside missing 0x80 0xbf (number / 64 ^ (missing + 1))).Expects number := by
  simp only [State.Expects, UInt8.reduceToNat, true_and]
  omega

/-- A reader that is given the whole trail of a number it expects reads the
character. -/
theorem readAll_trail (expects : (State.inside missing low high value).Expects number)
    (rest : Bytes) :
    (State.inside missing low high value).readAll (trail number (missing + 1) ++ rest) =
      Char.ofNat number :: State.between.readAll rest := by
  induction missing generalizing low high value with
  | zero =>
      rw [trail, List.cons_append, State.readAll, read_trail expects]
      rfl
  | succ missing ih =>
      rw [trail, List.cons_append, State.readAll, read_trail expects, ih (expects_inside _ _)]
      rfl

theorem readAll_sequence (char : Char) (rest : Bytes) :
    State.between.readAll (String.utf8EncodeChar char ++ rest) =
      char :: State.between.readAll rest := by
  have valid : char.toNat.isValidChar := char.valid
  rw [← sequence_toNat]
  by_cases one : char.toNat < 0x80
  · have number : (UInt8.ofNat char.toNat).toNat = char.toNat := toNat_ofNat (by omega)
    rw [sequence_eq valid, if_pos one, List.singleton_append, State.readAll]
    simp [read, start_eq, number, one, Char.ofNat_toNat]
  · obtain ⟨lead, missing, low, high, value, sequence, started, expects⟩ :=
      start_sequence valid (by omega)
    rw [sequence, List.cons_append, State.readAll]
    simp only [read, started, List.nil_append, readAll_trail expects, Char.ofNat_toNat]

/-! What a reader has read of a sequence. -/

/-- The octets that a reader inside a sequence took before it got there: each number
that it still expects is that of a character whose sequence begins with them. -/
def State.Follows (part : Bytes) : State → Prop
  | .between => False
  | .inside missing low high value => ∀ number,
      (State.inside missing low high value).Expects number →
        number.isValidChar ∧ sequence number = part ++ trail number (missing + 1)

theorem follows_start (started : start lead = (.inside missing low high value, [])) :
    (State.inside missing low high value).Follows [lead] :=
  fun _ expects => sequence_of_start started expects

theorem State.Narrow.read {state : State} (narrow : state.Narrow) (byte : UInt8) :
    (Utf8.read state byte).1.Narrow := by
  cases state with
  | between => exact narrow_start byte
  | inside missing low high value =>
      simp only [Utf8.read]
      split
      · cases missing <;> simp [State.Narrow]
      · exact narrow_start byte

namespace State.Follows

/-- Of a number that is expected, the next octet may be read. -/
theorem trail (follows : (State.inside (missing + 1) low high value).Follows part)
    (expects : (State.inside (missing + 1) low high value).Expects number) :
    (State.inside missing 0x80 0xbf (number / 64 ^ (missing + 1))).Follows
      (part ++ [UInt8.ofNat (number / 64 ^ (missing + 1) % 64 + 0x80)]) := by
  rintro other ⟨bits, -, -⟩
  obtain ⟨rfl, range⟩ := expects
  have higher : other / 64 ^ (missing + 2) = number / 64 ^ (missing + 2) := by
    rw [div_pow_succ, bits, ← div_pow_succ]
  obtain ⟨valid, same⟩ := follows other ⟨higher, by rwa [bits]⟩
  rw [same, Utf8.trail, bits, List.append_assoc, List.singleton_append]
  exact ⟨valid, rfl⟩

/-- An octet in the range that a reader expects goes on with the sequence of some
character. -/
theorem begins (follows : (State.inside missing low high value).Follows part)
    (narrow : (State.inside missing low high value).Narrow) (least : low ≤ byte)
    (most : byte ≤ high) : ∃ char, part ++ [byte] <+: String.utf8EncodeChar char := by
  rw [UInt8.le_iff_toNat_le] at least most
  obtain ⟨bottom, -, top⟩ := narrow
  -- The least number that goes on with this octet.
  have bits : (value * 64 + (byte.toNat - 0x80)) * 64 ^ missing / 64 ^ missing =
      value * 64 + (byte.toNat - 0x80) := Nat.mul_div_cancel _ (Nat.pow_pos (by decide))
  generalize (value * 64 + (byte.toNat - 0x80)) * 64 ^ missing = number at bits
  have digit : number / 64 ^ missing % 64 + 0x80 = byte.toNat := by omega
  have higher : number / 64 ^ (missing + 1) = value := by
    rw [div_pow_succ]
    omega
  obtain ⟨-, same⟩ := follows number ⟨higher, by omega, by omega⟩
  refine ⟨Char.ofNat number, Utf8.trail number missing, ?_⟩
  rw [← sequence, same, Utf8.trail, digit, UInt8.ofNat_toNat, List.append_assoc,
    List.singleton_append]

/-- A reader that is given part of the trail of a number it expects follows that part. -/
theorem readAll {taken left : Bytes} (follows : (State.inside missing low high value).Follows part)
    (narrow : (State.inside missing low high value).Narrow)
    (expects : (State.inside missing low high value).Expects number)
    (cut : Utf8.trail number (missing + 1) = taken ++ left) (more : left ≠ []) :
    ∃ state : State, state.Follows (part ++ taken) ∧ state.Narrow ∧
      ∀ rest, (State.inside missing low high value).readAll (taken ++ rest) =
        state.readAll rest := by
  induction taken generalizing missing low high value part with
  | nil => exact ⟨_, by rwa [List.append_nil], narrow, fun _ => rfl⟩
  | cons byte taken ih =>
      rw [Utf8.trail, List.cons_append] at cut
      obtain ⟨rfl, later⟩ := List.cons.inj cut
      cases missing with
      | zero =>
          rw [Utf8.trail] at later
          exact absurd (List.append_eq_nil_iff.mp later.symm).2 more
      | succ missing =>
          have still := narrow.read (UInt8.ofNat (number / 64 ^ (missing + 1) % 64 + 0x80))
          rw [read_trail expects] at still
          obtain ⟨state, after, narrow, reads⟩ := ih (follows.trail expects) still
            (expects_inside number missing) later
          refine ⟨state, by simpa using after, narrow, fun rest => ?_⟩
          rw [List.cons_append, State.readAll, read_trail expects]
          exact reads rest

end State.Follows

/-- A reader that was given the beginning of a sequence, and not all of it, has read
nothing yet and follows that beginning. -/
theorem exists_follows {char : Char} {left : Bytes}
    (cut : String.utf8EncodeChar char = part ++ left) (some : part ≠ []) (more : left ≠ []) :
    ∃ state : State, state.Follows part ∧ state.Narrow ∧
      ∀ rest, State.between.readAll (part ++ rest) = state.readAll rest := by
  have valid : char.toNat.isValidChar := char.valid
  obtain ⟨lead, taken, rfl⟩ := List.exists_cons_of_ne_nil some
  rw [← sequence_toNat] at cut
  by_cases one : char.toNat < 0x80
  · rw [sequence_eq valid, if_pos one, List.cons_append] at cut
    exact absurd (List.append_eq_nil_iff.mp (List.cons.inj cut).2.symm).2 more
  · obtain ⟨first, missing, low, high, value, whole, started, expects⟩ :=
      start_sequence valid (by omega)
    rw [whole, List.cons_append] at cut
    obtain ⟨rfl, later⟩ := List.cons.inj cut
    have narrow := narrow_start first
    rw [started] at narrow
    obtain ⟨state, follows, narrow, reads⟩ :=
      (follows_start started).readAll narrow expects later more
    refine ⟨state, follows, narrow, fun rest => ?_⟩
    rw [List.cons_append, State.readAll, read, started]
    exact reads rest

end Handoff.Text.Utf8
