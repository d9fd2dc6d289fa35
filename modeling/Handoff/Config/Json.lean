import Handoff.Capacity.Json
import Handoff.Config

namespace Handoff.Config

/-! Configurations in JSON.

An object has the members `pending_ceiling` and `text_capacity`, each at most
once; a list has their values in order.  What is missing takes its usual value,
and other members are ignored. -/

/-- What was read of a configuration. -/
structure Partial where
  pendingCeiling : Option (Option Nat)
  textCapacity : Option Capacity

namespace Partial

def empty : Partial := ⟨none, none⟩

def complete (read : Partial) : Config :=
  ⟨read.pendingCeiling.getD usual.pendingCeiling, read.textCapacity.getD usual.textCapacity⟩

def read (read : Partial) (name : String) (chars : List Char) : Except Json.Fault (Json.Found Partial) :=
  match name with
  | "pending_ceiling" => do
      if read.pendingCeiling.isSome then throw .mismatch
      let (ceiling, rest) ← Json.optionalCount (← Json.colon chars)
      return ({ read with pendingCeiling := some ceiling }, rest)
  | "text_capacity" => do
      if read.textCapacity.isSome then throw .mismatch
      let (capacity, rest) ← Capacity.read (Json.maxDepth - 2) (← Json.colon chars)
      return ({ read with textCapacity := some capacity }, rest)
  | _ => do
      let (_, rest) ← Json.skip (← Json.colon chars)
      return (read, rest)

end Partial

def readItems (chars : List Char) : Except Json.Fault (Json.Found Config) := do
  let (more, rest) ← Json.nextItem true chars
  if !more then return (Partial.empty.complete, rest)
  let (ceiling, rest) ← Json.optionalCount rest
  let (more, rest) ← Json.nextItem false rest
  if !more then return (Partial.complete ⟨some ceiling, none⟩, rest)
  let (capacity, rest) ← Capacity.read (Json.maxDepth - 2) rest
  match Json.skipSpace rest with
  | [] => throw .truncated
  | ']' :: rest => return (Partial.complete ⟨some ceiling, some capacity⟩, rest)
  | _ => throw .malformed

def read (chars : List Char) : Except Json.Fault (Json.Found Config) :=
  match Json.skipSpace chars with
  | '\x7b' :: rest => do
      let (read, rest) ← Json.members true Partial.read (rest.length + 1) true .empty rest
      return (read.complete, rest)
  | '[' :: rest => readItems rest
  | chars => Json.asked (fun _ => none) chars

def ofJson (text : String) : Except Json.Fault Config :=
  Json.whole read text

def toJson (config : Config) : String :=
  let ceiling := match config.pendingCeiling with
    | none => "null"
    | some limit => toString limit
  "\x7b\"pending_ceiling\":" ++ ceiling ++ ",\"text_capacity\":" ++ config.textCapacity.toJson
    ++ "\x7d"

end Handoff.Config
