import Handoff.Count

namespace Handoff.Json

/-! The smallest parts of a JSON text.

Every reader takes the characters from where it stands and gives back what is
left.  A text can be at fault in three ways, and the first fault on the way from
left to right is the one that is reported. -/

inductive Fault where
  /-- Well formed, but not of the shape that is asked for. -/
  | mismatch
  | malformed
  | truncated
deriving DecidableEq, Repr

def Fault.category : Fault → String
  | .mismatch => "Data"
  | .malformed => "Syntax"
  | .truncated => "Eof"

/-- What a reader found, and the characters left. -/
abbrev Found (α : Type) := α × List Char

def isSpace (char : Char) : Bool :=
  char = ' ' || char = '\n' || char = '\t' || char = '\r'

def skipSpace (chars : List Char) : List Char :=
  chars.dropWhile isSpace

/-- Reads the rest of a word whose first letter was read. -/
def word : List Char → List Char → Except Fault (Found Unit)
  | [], rest => .ok ((), rest)
  | _ :: _, [] => .error .truncated
  | expected :: word', char :: rest =>
      if char = expected then word word' rest else .error .malformed

/-! Strings. -/

def hexDigit? (char : Char) : Option Nat :=
  if '0' ≤ char ∧ char ≤ '9' then some (char.toNat - '0'.toNat)
  else if 'a' ≤ char ∧ char ≤ 'f' then some (char.toNat - 'a'.toNat + 10)
  else if 'A' ≤ char ∧ char ≤ 'F' then some (char.toNat - 'A'.toNat + 10)
  else none

inductive Place where
  | plain
  /-- Behind a backslash. -/
  | escape
  /-- Inside a code of four digits, `width` octets of which were read.  `high`
  is the first half of a surrogate pair, if one came before. -/
  | code (width : Nat) (value high : Option Nat)
  | half (high : Nat)
  | halfEscape (high : Nat)

def isHighHalf (code : Nat) : Bool :=
  0xd800 ≤ code && code ≤ 0xdbff

def isLowHalf (code : Nat) : Bool :=
  0xdc00 ≤ code && code ≤ 0xdfff

/-- The character of a surrogate pair. -/
def joinHalves (high low : Nat) : Char :=
  Char.ofNat ((high - 0xd800) * 0x400 + (low - 0xdc00) + 0x10000)

/-- What four digits stand for.  A reader that is not strict skips the string
and does not ask. -/
def Place.decode (strict : Bool) (code : Nat) : Option Nat → Except Fault (Place × List Char)
  | none =>
      if !strict then .ok (.plain, [])
      else if isLowHalf code then .error .malformed
      else if isHighHalf code then .ok (.half code, [])
      else .ok (.plain, [Char.ofNat code])
  | some high =>
      if isLowHalf code then .ok (.plain, [joinHalves high code]) else .error .malformed

/-- Reads one character of a string other than the closing quote. -/
def Place.step (strict : Bool) : Place → Char → Except Fault (Place × List Char)
  | .plain, char =>
      if char = '\\' then .ok (.escape, [])
      else if char.toNat < 0x20 then .error .malformed
      else .ok (.plain, [char])
  | .escape, char =>
      match char with
      | '"' => .ok (.plain, ['"'])
      | '\\' => .ok (.plain, ['\\'])
      | '/' => .ok (.plain, ['/'])
      | 'b' => .ok (.plain, ['\x08'])
      | 'f' => .ok (.plain, ['\x0c'])
      | 'n' => .ok (.plain, ['\n'])
      | 'r' => .ok (.plain, ['\r'])
      | 't' => .ok (.plain, ['\t'])
      | 'u' => .ok (.code 0 (some 0) none, [])
      | _ => .error .malformed
  | .code width value high, char =>
      let value := do return (← value) * 16 + (← hexDigit? char)
      let width := width + char.utf8Size
      if width < 4 then .ok (.code width value high, [])
      else match value with
        | some found => Place.decode strict found high
        | none => .error .malformed
  | .half high, char =>
      if char = '\\' then .ok (.halfEscape high, []) else .error .malformed
  | .halfEscape high, char =>
      if char = 'u' then .ok (.code 0 (some 0) (some high), []) else .error .malformed

/-- Reads a string up to its closing quote.  `read` holds its characters so far,
latest first. -/
def stringFrom (strict : Bool) : Place → (read : List Char) → List Char → Except Fault (Found (List Char))
  | _, _, [] => .error .truncated
  | place, read, char :: rest =>
      match place, char with
      | .plain, '"' => .ok (read.reverse, rest)
      | _, _ =>
          match place.step strict char with
          | .ok (place, chars) => stringFrom strict place (chars.reverse ++ read) rest
          | .error fault => .error fault

def string (strict : Bool) (chars : List Char) : Except Fault (Found (List Char)) :=
  stringFrom strict .plain [] chars

/-! Numbers. -/

inductive Number where
  /-- An integer without a sign that fits a 64-bit word. -/
  | natural (value : Nat)
  | other
deriving DecidableEq, Repr

def digit (char : Char) : Nat :=
  char.toNat - '0'.toNat

/-- The value of digits that follow a number, taken as far as a 64-bit word
holds it, and how many digits were left out. -/
def significand (value : Nat) : List Char → Nat × Nat
  | [] => (value, 0)
  | char :: rest =>
      let next := value * 10 + digit char
      if next > Count.limit then (value, rest.length + 1) else significand next rest

/-- The multiple of a power of two nearest to a number, with 53 binary digits. -/
def nearestDouble (number : Nat) : Nat :=
  let unit := 1 <<< (number.log2 + 1 - 53)
  let quotient := number / unit
  let rest := number % unit
  let up := 2 * rest > unit || (2 * rest = unit && quotient % 2 = 1)
  (if up then quotient + 1 else quotient) * unit

def isTooLarge (significand : Nat) (exponent : Int) : Bool :=
  significand ≠ 0 && exponent ≥ 0 &&
    (exponent > 308 ||
      nearestDouble significand * nearestDouble (Nat.pow 10 exponent.toNat) ≥ ((1 <<< 54) - 1) <<< 970)

/-- A number that is not a plain integer, unless it is too large. -/
def fraction (significand : Nat) (exponent : Int) (rest : List Char) : Except Fault (Found Number) :=
  if isTooLarge significand exponent then .error .malformed else .ok (.other, rest)

def exponent (significand : Nat) (shift : Int) (chars : List Char) : Except Fault (Found Number) :=
  let (negative, chars) := match chars with
    | '+' :: rest => (false, rest)
    | '-' :: rest => (true, rest)
    | _ => (false, chars)
  match chars with
  | [] => .error .truncated
  | char :: _ =>
      if !char.isDigit then .error .malformed
      else
        let value : Int := (chars.takeWhile Char.isDigit).foldl (fun value char => value * 10 + digit char) 0
        fraction significand (if negative then shift - value else shift + value)
          (chars.dropWhile Char.isDigit)

def numberTail (positive : Bool) (value leftOut : Nat) (chars : List Char) : Except Fault (Found Number) :=
  match chars with
  | '.' :: rest =>
      let digits := rest.takeWhile Char.isDigit
      let after := rest.dropWhile Char.isDigit
      if digits.isEmpty then .error (if rest.isEmpty then .truncated else .malformed)
      else
        let (value, unread) := significand value digits
        let shift : Int := leftOut - (digits.length - unread : Nat)
        match after with
        | 'e' :: rest | 'E' :: rest => exponent value shift rest
        | _ => fraction value shift after
  | 'e' :: rest | 'E' :: rest => exponent value leftOut rest
  | _ =>
      if leftOut > 0 then fraction value leftOut chars
      else .ok (if positive then .natural value else .other, chars)

def number (positive : Bool) (chars : List Char) : Except Fault (Found Number) :=
  match chars with
  | [] => .error .truncated
  | first :: rest =>
      if !first.isDigit then .error .malformed
      else if first = '0' && rest.head?.any Char.isDigit then .error .malformed
      else
        let (value, leftOut) := significand 0 (chars.takeWhile Char.isDigit)
        numberTail positive value leftOut (chars.dropWhile Char.isDigit)

/-- Skips digits, of which there must be one. -/
def skipDigits (chars : List Char) : Except Fault (List Char) :=
  if chars.head?.any Char.isDigit then .ok (chars.dropWhile Char.isDigit) else .error .malformed

/-- Skips a number from its first digit on.  Its size does not matter, and a
number that breaks off is malformed. -/
def skipNumber (chars : List Char) : Except Fault (Found Number) := do
  if chars.head? = some '0' && (chars.drop 1).head?.any Char.isDigit then
    throw .malformed
  let rest ← skipDigits chars
  let rest ← match rest with
    | '.' :: rest => skipDigits rest
    | _ => pure rest
  let rest ← match rest with
    | 'e' :: '+' :: rest | 'e' :: '-' :: rest | 'E' :: '+' :: rest | 'E' :: '-' :: rest
    | 'e' :: rest | 'E' :: rest => skipDigits rest
    | _ => pure rest
  return (.other, rest)

end Handoff.Json
