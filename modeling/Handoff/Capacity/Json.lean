import Handoff.Capacity
import Handoff.Json.Value

namespace Handoff.Capacity

/-! Capacities in JSON.

An object names its mode in the member `mode`, which may stand anywhere in it,
and has one member for each number of that mode; other members are ignored.  A
list has the mode and the numbers in order. -/

inductive Mode where
  | fixed
  | growable
deriving DecidableEq

def Mode.ofName : String → Except Json.Fault Mode
  | "fixed" => .ok .fixed
  | "growable" => .ok .growable
  | _ => .error .mismatch

structure Members where
  mode : Option Mode
  /-- The other members, and those of their values that are counts. -/
  others : List (String × Option Nat)

namespace Members

def none : Members := ⟨.none, []⟩

def read (depth : Nat) (members : Members) (name : String) (chars : List Char) :
    Except Json.Fault (Json.Found Members) := do
  if name = "mode" then
    if members.mode.isSome then throw .mismatch
    let (mode, rest) ← Json.text (← Json.colon chars)
    return ({ members with mode := some (← Mode.ofName mode) }, rest)
  else
    let (count, rest) ← Json.value true depth (← Json.colon chars)
    return ({ members with others := members.others ++ [(name, count)] }, rest)

/-- The count of a member that must occur once. -/
def field (members : Members) (name : String) : Except Json.Fault Nat :=
  match members.others.filter fun member => member.1 = name with
  | [(_, some count)] => .ok count
  | _ => .error .mismatch

def capacity (members : Members) : Except Json.Fault Capacity :=
  match members.mode with
  | some .fixed => return .fixed (← members.field "max")
  | some .growable => return .growable (← members.field "increment") (← members.field "ceiling")
  | .none => throw .mismatch

end Members

def ofItems (mode : Mode) (counts : List (Option Nat)) : Except Json.Fault Capacity :=
  match mode, counts with
  | .fixed, [some maximum] => .ok (.fixed maximum)
  | .growable, [some increment, some ceiling] => .ok (.growable increment ceiling)
  | _, _ => .error .mismatch

/-- Reads a capacity, inside which `depth` more levels are allowed. -/
def read (depth : Nat) (chars : List Char) : Except Json.Fault (Json.Found Capacity) :=
  match Json.skipSpace chars with
  | '\x7b' :: rest => do
      let (members, rest) ← Json.members true (Members.read depth) (rest.length + 1) true .none rest
      return (← members.capacity, rest)
  | '[' :: rest => do
      let (more, rest) ← Json.nextItem true rest
      if !more then throw .mismatch
      let (name, rest) ← Json.text rest
      let mode ← Mode.ofName name
      let (counts, rest) ← Json.items (Json.value true depth) (rest.length + 1) false rest
      return (← ofItems mode counts, rest)
  | chars => Json.asked (fun _ => .none) chars

def ofJson (text : String) : Except Json.Fault Capacity :=
  Json.whole (read (Json.maxDepth - 1)) text

def toJson : Capacity → String
  | .fixed maximum => "\x7b\"mode\":\"fixed\",\"max\":" ++ toString maximum ++ "\x7d"
  | .growable increment ceiling =>
      "\x7b\"mode\":\"growable\",\"increment\":" ++ toString increment
        ++ ",\"ceiling\":" ++ toString ceiling ++ "\x7d"

end Handoff.Capacity
