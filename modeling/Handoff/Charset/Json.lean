import Handoff.Charset
import Handoff.Json.Value

namespace Handoff.Charset

/-! Charsets in JSON: the registered name, as a string or as the one member of
an object whose value is null. -/

/-- Finds a charset by its registered name, spelled exactly. -/
def ofExactName (name : String) : Except Json.Fault Charset :=
  match [latin1, utf8, ascii].find? fun charset => charset.name = name with
  | some charset => .ok charset
  | none => .error .mismatch

def read (chars : List Char) : Except Json.Fault (Json.Found Charset) :=
  match Json.skipSpace chars with
  | [] => .error .truncated
  | '"' :: rest => do
      let (name, rest) ← Json.string true rest
      return (← ofExactName (String.ofList name), rest)
  | '\x7b' :: rest => do
      let (name, rest) ← Json.text rest
      let charset ← ofExactName name
      let (_, rest) ← Json.null (← Json.colon rest)
      match Json.skipSpace rest with
      | [] => throw .truncated
      | '\x7d' :: rest => return (charset, rest)
      | _ => throw .malformed
  | _ => .error .malformed

def ofJson (text : String) : Except Json.Fault Charset :=
  Json.whole read text

def toJson (charset : Charset) : String :=
  "\"" ++ charset.name ++ "\""

end Handoff.Charset
