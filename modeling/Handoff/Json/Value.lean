import Handoff.Json.Lexeme

namespace Handoff.Json

/-! Values of a JSON text. -/

inductive Scalar where
  | null
  | flag
  | number (number : Number)
  | text (chars : List Char)

/-- Reads a scalar; there must be no space in front of it. -/
def scalar (strict : Bool) : List Char → Except Fault (Found Scalar)
  | [] => .error .truncated
  | 'n' :: rest => do
      let (_, rest) ← word ['u', 'l', 'l'] rest
      return (.null, rest)
  | 't' :: rest => do
      let (_, rest) ← word ['r', 'u', 'e'] rest
      return (.flag, rest)
  | 'f' :: rest => do
      let (_, rest) ← word ['a', 'l', 's', 'e'] rest
      return (.flag, rest)
  | '"' :: rest => do
      let (chars, rest) ← string strict rest
      return (.text chars, rest)
  | '-' :: rest => do
      let (value, rest) ← if strict then number false rest else skipNumber rest
      return (.number value, rest)
  | char :: rest => do
      if !char.isDigit then throw .malformed
      let (value, rest) ← if strict then number true (char :: rest) else skipNumber (char :: rest)
      return (.number value, rest)

def asked (select : Scalar → Option α) (chars : List Char) : Except Fault (Found α) :=
  match skipSpace chars with
  | '[' :: _ | '\x7b' :: _ => .error .mismatch
  | chars => do
      let (value, rest) ← scalar true chars
      match select value with
      | some value => return (value, rest)
      | none => throw .mismatch

def count : List Char → Except Fault (Found Nat) :=
  asked fun
    | .number (.natural value) => some value
    | _ => none

def optionalCount : List Char → Except Fault (Found (Option Nat)) :=
  asked fun
    | .number (.natural value) => some (some value)
    | .null => some none
    | _ => none

def text : List Char → Except Fault (Found String) :=
  asked fun
    | .text chars => some (String.ofList chars)
    | _ => none

def null : List Char → Except Fault (Found Unit) :=
  asked fun
    | .null => some ()
    | _ => none

/-! Lists and objects.  An opening bracket was read before. -/

/-- Goes to the next item of a list: true in front of it, false behind the
closing bracket. -/
def nextItem (first : Bool) (chars : List Char) : Except Fault (Found Bool) :=
  match skipSpace chars with
  | [] => .error .truncated
  | ']' :: rest => .ok (false, rest)
  | char :: rest =>
      if first then .ok (true, char :: rest)
      else if char ≠ ',' then .error .malformed
      else match skipSpace rest with
        | [] => .error .truncated
        | ']' :: _ => .error .malformed
        | rest => .ok (true, rest)

/-- Goes to the next member of an object and reads its name; nothing stands for
the closing bracket. -/
def nextMember (strict first : Bool) (chars : List Char) : Except Fault (Found (Option String)) :=
  match skipSpace chars with
  | [] => .error .truncated
  | '\x7d' :: rest => .ok (none, rest)
  | char :: rest => do
      let rest ←
        if first then pure (char :: rest)
        else if char = ',' then pure (skipSpace rest)
        else throw .malformed
      match rest with
      | [] => throw .truncated
      | '"' :: rest =>
          let (name, rest) ← string strict rest
          return (some (String.ofList name), rest)
      | _ => throw .malformed

def colon (chars : List Char) : Except Fault (List Char) :=
  match skipSpace chars with
  | [] => .error .truncated
  | ':' :: rest => .ok rest
  | _ => .error .malformed

/-- Reads all items of a list; `fuel` bounds their number. -/
def items (read : List Char → Except Fault (Found α)) : (fuel : Nat) → (first : Bool) → List Char → Except Fault (Found (List α))
  | 0, _, _ => .error .truncated
  | fuel + 1, first, chars => do
      let (more, rest) ← nextItem first chars
      if more then
        let (value, rest) ← read rest
        let (values, rest) ← items read fuel false rest
        return (value :: values, rest)
      else
        return ([], rest)

/-- Reads all members of an object into a state.  `read` is called behind the
name of each member. -/
def members (strict : Bool) (read : σ → String → List Char → Except Fault (Found σ)) :
    (fuel : Nat) → (first : Bool) → σ → List Char → Except Fault (Found σ)
  | 0, _, _, _ => .error .truncated
  | fuel + 1, first, state, chars => do
      let (name?, rest) ← nextMember strict first chars
      match name? with
      | none => return (state, rest)
      | some name =>
          let (state, rest) ← read state name rest
          members strict read fuel false state rest

def Scalar.count? : Scalar → Option Nat
  | .number (.natural value) => some value
  | _ => none

/-- Reads any value and keeps nothing of it but a count.  At most `depth` lists
and objects may stand inside one another. -/
def value (strict : Bool) : (depth : Nat) → List Char → Except Fault (Found (Option Nat))
  | depth, chars =>
      match depth, skipSpace chars with
      | 0, '[' :: _ | 0, '\x7b' :: _ => .error .malformed
      | depth + 1, '[' :: rest => do
          let (_, rest) ← items (value strict depth) (rest.length + 1) true rest
          return (none, rest)
      | depth + 1, '\x7b' :: rest => do
          let ((), rest) ← members strict
            (fun _ _ rest => do
              let (_, rest) ← value strict depth (← colon rest)
              return ((), rest))
            (rest.length + 1) true () rest
          return (none, rest)
      | _, chars => do
          let (found, rest) ← scalar strict chars
          return (found.count?, rest)

def maxDepth : Nat := 127

def skip (chars : List Char) : Except Fault (Found Unit) := do
  let (_, rest) ← value false chars.length chars
  return ((), rest)

/-- Reads a whole text, behind which only space may follow. -/
def whole (read : List Char → Except Fault (Found α)) (text : String) : Except Fault α := do
  let (value, rest) ← read text.toList
  if (skipSpace rest).isEmpty then return value else throw .malformed

end Handoff.Json
