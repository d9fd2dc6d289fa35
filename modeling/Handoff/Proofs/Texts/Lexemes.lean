import Handoff.Json.Value

namespace Handoff.Json

/-! Atoms, and how they are read back.

An atom is a word, a count or a plain string.  A reader that stands in front of one
takes exactly its characters, whatever may stand behind a value: where a count ends is
only known from what follows it. -/

/-- Space between the parts of a text. -/
structure Gap where
  chars : List Char
  blank : ∀ char ∈ chars, isSpace char = true

namespace Gap

def none : Gap where
  chars := []
  blank _ member := by cases member

def of (chars : List Char) (blank : chars.all isSpace = true) : Gap :=
  ⟨chars, List.all_eq_true.mp blank⟩

end Gap

/-- A character that stands for itself inside a string. -/
def isPlain (char : Char) : Bool :=
  0x20 ≤ char.toNat && char ≠ '"' && char ≠ '\\'

/-- A string without escapes. -/
structure Plain where
  chars : List Char
  plain : ∀ char ∈ chars, isPlain char = true

namespace Plain

def of (chars : List Char) (plain : chars.all isPlain = true) : Plain :=
  ⟨chars, List.all_eq_true.mp plain⟩

def text (plain : Plain) : String :=
  String.ofList plain.chars

/-- How a plain string is written. -/
def quoted (plain : Plain) : List Char :=
  '"' :: (plain.chars ++ ['"'])

end Plain

inductive Atom where
  | null
  | flag (value : Bool)
  | natural (value : Nat) (fits : value ≤ Count.limit)
  | text (plain : Plain)

namespace Atom

/-- How an atom is written. -/
def chars : Atom → List Char
  | .null => ['n', 'u', 'l', 'l']
  | .flag true => ['t', 'r', 'u', 'e']
  | .flag false => ['f', 'a', 'l', 's', 'e']
  | .natural value _ => Nat.toDigits 10 value
  | .text plain => plain.quoted

/-- What is read of an atom.  A reader that is not strict does not look at counts. -/
def scalar (strict : Bool) : Atom → Scalar
  | .null => .null
  | .flag _ => .flag
  | .natural value _ => .number (if strict then .natural value else .other)
  | .text plain => .text plain.chars

end Atom

/-- What may stand behind a value. -/
def Closes (rest : List Char) : Prop :=
  ∀ char, rest.head? = some char → isSpace char = true ∨ char = ',' ∨ char = '\x7d'

section Space

variable {rest : List Char}

theorem Closes.gap (closes : Closes rest) (gap : Gap) : Closes (gap.chars ++ rest) := by
  obtain ⟨chars, blank⟩ := gap
  cases chars with
  | nil => exact closes
  | cons first chars =>
      intro char same
      cases same
      exact .inl (blank _ (List.mem_cons_self ..))

theorem skipSpace_gap (gap : Gap) (rest : List Char) :
    skipSpace (gap.chars ++ rest) = skipSpace rest :=
  List.dropWhile_append_of_pos gap.blank

theorem skipSpace_cons {char : Char} (solid : isSpace char = false) (rest : List Char) :
    skipSpace (char :: rest) = char :: rest :=
  List.dropWhile_cons_of_neg (by simp [solid])

/-- The few characters that may stand behind a value. -/
theorem Closes.first {char : Char} (closes : Closes (char :: rest)) :
    char = ' ' ∨ char = '\n' ∨ char = '\t' ∨ char = '\r' ∨ char = ',' ∨ char = '\x7d' := by
  obtain space | other := closes char rfl
  · simp only [isSpace, Bool.or_eq_true, decide_eq_true_eq, or_assoc] at space
    obtain space | space | space | space := space <;> simp [space]
  · exact .inr (.inr (.inr (.inr other)))

theorem Closes.not_digit {char : Char} (closes : Closes (char :: rest)) : char.isDigit = false := by
  obtain rfl | rfl | rfl | rfl | rfl | rfl := closes.first <;> rfl

end Space

/-! Words and strings. -/

theorem word_append (expected rest : List Char) : word expected (expected ++ rest) = .ok ((), rest) := by
  induction expected with
  | nil => rfl
  | cons char expected ih => simpa [word] using ih

theorem step_plain {char : Char} (strict : Bool) (plain : isPlain char = true) :
    Place.step strict .plain char = .ok (.plain, [char]) := by
  simp only [isPlain, ne_eq, Bool.and_eq_true, decide_eq_true_eq] at plain
  obtain ⟨⟨printed, -⟩, simple⟩ := plain
  rw [Place.step, if_neg simple, if_neg (Nat.not_lt.mpr printed)]

theorem stringFrom_plain (strict : Bool) {chars : List Char}
    (plain : ∀ char ∈ chars, isPlain char = true) (read rest : List Char) :
    stringFrom strict .plain read (chars ++ '"' :: rest) = .ok (read.reverse ++ chars, rest) := by
  induction chars generalizing read with
  | nil => simp [stringFrom]
  | cons char chars ih =>
      have first := plain char (List.mem_cons_self ..)
      have unquoted : char ≠ '"' := by
        rintro rfl
        cases first
      have later := ih (fun other member => plain other (List.mem_cons_of_mem _ member)) (char :: read)
      rw [List.cons_append, stringFrom, step_plain strict first]
      · simpa using later
      · exact fun _ same => absurd same unquoted

theorem string_plain (strict : Bool) (text : Plain) (rest : List Char) :
    string strict (text.chars ++ '"' :: rest) = .ok (text.chars, rest) := by
  rw [string, stringFrom_plain strict text.plain]
  rfl

/-! Counts. -/

theorem le_ofDigitChars (chars : List Char) (value : Nat) :
    value ≤ Nat.ofDigitChars 10 chars value := by
  induction chars generalizing value with
  | nil => exact Nat.le_refl _
  | cons char chars ih =>
      rw [Nat.ofDigitChars_cons]
      have later := ih (10 * value + (char.toNat - '0'.toNat))
      omega

/-- Digits whose value fits a word are read to their end. -/
theorem significand_ofDigitChars {chars : List Char} {value : Nat}
    (fits : Nat.ofDigitChars 10 chars value ≤ Count.limit) :
    significand value chars = (Nat.ofDigitChars 10 chars value, 0) := by
  induction chars generalizing value with
  | nil => rfl
  | cons char chars ih =>
      have next : value * 10 + digit char = 10 * value + (char.toNat - '0'.toNat) := by
        rw [digit, Nat.mul_comm]
      rw [Nat.ofDigitChars_cons, ← next] at fits ⊢
      have below := Nat.le_trans (le_ofDigitChars chars _) fits
      rw [significand, if_neg (Nat.not_lt.mpr below)]
      exact ih fits

theorem significand_toDigits {value : Nat} (fits : value ≤ Count.limit) :
    significand 0 (Nat.toDigits 10 value) = (value, 0) := by
  have same : Nat.ofDigitChars 10 (Nat.toDigits 10 value) 0 = value :=
    Nat.ofDigitChars_toDigits (by decide) (by decide)
  rw [significand_ofDigitChars (by rw [same]; exact fits), same]

/-- A count begins with a zero only if it is zero. -/
theorem head_toDigits {value : Nat} (positive : 0 < value) :
    (Nat.toDigits 10 value).head? ≠ some '0' := by
  induction value using Nat.strongRecOn with
  | ind value ih =>
      by_cases small : value < 10
      · rw [Nat.toDigits_of_lt_base small]
        intro same
        have zero := Nat.digitChar_eq_zero.mp (Option.some.inj same)
        omega
      · have parts : 10 * (value / 10) + value % 10 = value := by omega
        have split := @Nat.toDigits_append_toDigits 10 (value / 10) (value % 10) (by decide)
          (by omega) (by omega)
        rw [parts] at split
        have first := ih (value / 10) (by omega) (by omega)
        cases digits : Nat.toDigits 10 (value / 10) with
        | nil => exact absurd digits Nat.toDigits_ne_nil
        | cons digit more =>
            rw [digits] at split first
            rw [← split]
            exact first

theorem isDigit_of_mem {value : Nat} {char : Char} (member : char ∈ Nat.toDigits 10 value) :
    char.isDigit = true :=
  Nat.isDigit_of_mem_toDigits (by decide) (by decide) member

theorem toDigits_eq_cons (value : Nat) :
    ∃ first more, Nat.toDigits 10 value = first :: more ∧ first.isDigit = true := by
  cases digits : Nat.toDigits 10 value with
  | nil => exact absurd digits Nat.toDigits_ne_nil
  | cons first more =>
      have member : first ∈ Nat.toDigits 10 value := by rw [digits]; exact List.mem_cons_self ..
      exact ⟨first, more, rfl, isDigit_of_mem member⟩

section Behind

variable {rest : List Char}

theorem takeWhile_toDigits (value : Nat) (closes : Closes rest) :
    (Nat.toDigits 10 value ++ rest).takeWhile Char.isDigit = Nat.toDigits 10 value := by
  rw [List.takeWhile_append_of_pos fun char member => isDigit_of_mem member]
  cases rest with
  | nil => simp
  | cons char rest => simp [closes.not_digit]

theorem dropWhile_toDigits (value : Nat) (closes : Closes rest) :
    (Nat.toDigits 10 value ++ rest).dropWhile Char.isDigit = rest := by
  rw [List.dropWhile_append_of_pos fun char member => isDigit_of_mem member]
  cases rest with
  | nil => rfl
  | cons char rest => simp [closes.not_digit]

/-- No digit follows a zero in front. -/
theorem no_leading_zero {value : Nat} (closes : Closes rest) {first : Char} {more : List Char}
    (digits : Nat.toDigits 10 value = first :: more) :
    (first = '0' && (more ++ rest).head?.any Char.isDigit) = false := by
  by_cases zero : first = '0'
  · have none : value = 0 := by
      refine Nat.eq_zero_of_not_pos fun positive => head_toDigits positive ?_
      rw [digits, zero]
      rfl
    subst none
    have alone : more = [] := by cases digits; rfl
    cases rest with
    | nil => simp [alone]
    | cons char rest => simp [alone, closes.not_digit]
  · simp [zero]

/-- A count ends where something stands that may stand behind a value. -/
theorem numberTail_closes (closes : Closes rest) (value : Nat) :
    numberTail true value 0 rest = .ok (.natural value, rest) := by
  cases rest with
  | nil => rfl
  | cons char rest => obtain rfl | rfl | rfl | rfl | rfl | rfl := closes.first <;> rfl

theorem number_toDigits {value : Nat} (closes : Closes rest) (fits : value ≤ Count.limit) :
    number true (Nat.toDigits 10 value ++ rest) = .ok (.natural value, rest) := by
  have taken := takeWhile_toDigits value closes
  have left := dropWhile_toDigits value closes
  have read := significand_toDigits fits
  obtain ⟨first, more, digits, digit⟩ := toDigits_eq_cons value
  rw [digits] at taken left read ⊢
  rw [List.cons_append] at taken left ⊢
  simp only [number, digit, no_leading_zero closes digits, taken, left, read]
  exact numberTail_closes closes value

theorem skipDigits_toDigits (value : Nat) (closes : Closes rest) :
    skipDigits (Nat.toDigits 10 value ++ rest) = .ok rest := by
  obtain ⟨first, more, digits, digit⟩ := toDigits_eq_cons value
  rw [skipDigits, dropWhile_toDigits value closes, digits]
  simp [digit]

theorem skipNumber_toDigits (value : Nat) (closes : Closes rest) :
    skipNumber (Nat.toDigits 10 value ++ rest) = .ok (.other, rest) := by
  have zero : ((Nat.toDigits 10 value ++ rest).head? = some '0' &&
      ((Nat.toDigits 10 value ++ rest).drop 1).head?.any Char.isDigit) = false := by
    obtain ⟨first, more, digits, -⟩ := toDigits_eq_cons value
    simpa [digits] using no_leading_zero closes digits
  rw [skipNumber, zero, skipDigits_toDigits value closes]
  cases rest with
  | nil => rfl
  | cons char rest => obtain rfl | rfl | rfl | rfl | rfl | rfl := closes.first <;> rfl

end Behind

/-- A digit is none of the characters with which other values begin. -/
theorem apart_of_digit {char : Char} (digit : char.isDigit = true) :
    char ≠ 'n' ∧ char ≠ 't' ∧ char ≠ 'f' ∧ char ≠ '"' ∧ char ≠ '-' ∧ char ≠ '[' ∧ char ≠ '\x7b' := by
  refine ⟨?_, ?_, ?_, ?_, ?_, ?_, ?_⟩ <;>
    · rintro rfl
      cases digit

theorem isSpace_of_digit {char : Char} (digit : char.isDigit = true) : isSpace char = false := by
  simp only [isSpace, Bool.or_eq_false_iff, decide_eq_false_iff_not]
  refine ⟨⟨⟨?_, ?_⟩, ?_⟩, ?_⟩ <;>
    · rintro rfl
      cases digit

theorem scalar_digit (strict : Bool) {char : Char} (digit : char.isDigit = true) (rest : List Char) :
    scalar strict (char :: rest) =
      (if strict then number true (char :: rest) else skipNumber (char :: rest)).map
        fun found => (.number found.1, found.2) := by
  obtain ⟨noNull, noTrue, noFalse, noText, noMinus, -, -⟩ := apart_of_digit digit
  rw [scalar]
  · cases strict <;> simp [digit] <;> rfl
  all_goals
    intro same
    contradiction

/-- What is read of an atom is what was written. -/
theorem scalar_chars (strict : Bool) (atom : Atom) {rest : List Char} (closes : Closes rest) :
    scalar strict (atom.chars ++ rest) = .ok (atom.scalar strict, rest) := by
  cases atom with
  | null =>
      change scalar strict ('n' :: (['u', 'l', 'l'] ++ rest)) = _
      rw [scalar, word_append]
      rfl
  | flag value =>
      cases value with
      | true =>
          change scalar strict ('t' :: (['r', 'u', 'e'] ++ rest)) = _
          rw [scalar, word_append]
          rfl
      | false =>
          change scalar strict ('f' :: (['a', 'l', 's', 'e'] ++ rest)) = _
          rw [scalar, word_append]
          rfl
  | natural value fits =>
      have read : (if strict then number true (Nat.toDigits 10 value ++ rest)
          else skipNumber (Nat.toDigits 10 value ++ rest)) =
            .ok (if strict then .natural value else .other, rest) := by
        cases strict with
        | true => exact number_toDigits closes fits
        | false => exact skipNumber_toDigits value closes
      change scalar strict (Nat.toDigits 10 value ++ rest) = _
      obtain ⟨first, more, digits, digit⟩ := toDigits_eq_cons value
      rw [digits, List.cons_append] at read ⊢
      rw [scalar_digit strict digit, read]
      rfl
  | text plain =>
      change scalar strict ('"' :: ((plain.chars ++ ['"']) ++ rest)) = _
      rw [scalar, List.append_assoc]
      change (string strict (plain.chars ++ '"' :: rest) >>= _) = _
      rw [string_plain]
      rfl

/-- An atom begins with none of the characters that are skipped or that open a list or
an object. -/
theorem Atom.first (atom : Atom) : ∃ char more, atom.chars = char :: more ∧
    isSpace char = false ∧ char ≠ '[' ∧ char ≠ '\x7b' := by
  cases atom with
  | null => exact ⟨_, _, rfl, by decide⟩
  | flag value => cases value <;> exact ⟨_, _, rfl, by decide⟩
  | text plain => exact ⟨_, _, rfl, by decide⟩
  | natural value fits =>
      obtain ⟨first, more, digits, digit⟩ := toDigits_eq_cons value
      obtain ⟨-, -, -, -, -, noList, noObject⟩ := apart_of_digit digit
      exact ⟨first, more, digits, isSpace_of_digit digit, noList, noObject⟩

end Handoff.Json
