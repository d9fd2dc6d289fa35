import Handoff.Bytes

namespace Handoff.Text.Utf8

/-! Lossy reading of UTF-8.

The reader goes over the octets once.  Inside a sequence it knows which octets
may come next; the range depends on the first octet, so that no sequence ever
denotes a surrogate, a value above U+10FFFF or a value with a shorter form.  An
octet outside that range ends the sequence: what was read of it counts as one
maximal invalid part and yields one replacement character, and the octet is
then read anew. -/

/-- The character that stands for an invalid part. -/
def replacement : Char := '\ufffd'

/-- Where the reader stands: between two sequences, or inside one with at least
one octet missing. -/
inductive State where
  | between
  /-- `missing` octets are to come after the next one, which must lie between
  `low` and `high`; `value` holds the bits read so far. -/
  | inside (missing : Nat) (low high : UInt8) (value : Nat)
deriving DecidableEq

/-- Reads the first octet of a sequence. -/
def start (byte : UInt8) : State × List Char :=
  let bits := byte.toNat
  if byte < 0x80 then (.between, [Char.ofNat bits])
  else if byte < 0xc2 then (.between, [replacement])
  else if byte < 0xe0 then (.inside 0 0x80 0xbf (bits - 0xc0), [])
  else if byte = 0xe0 then (.inside 1 0xa0 0xbf 0, [])
  else if byte = 0xed then (.inside 1 0x80 0x9f 13, [])
  else if byte < 0xf0 then (.inside 1 0x80 0xbf (bits - 0xe0), [])
  else if byte = 0xf0 then (.inside 2 0x90 0xbf 0, [])
  else if byte < 0xf4 then (.inside 2 0x80 0xbf (bits - 0xf0), [])
  else if byte = 0xf4 then (.inside 2 0x80 0x8f 4, [])
  else (.between, [replacement])

/-- Reads one octet: the state after it and the characters it completes. -/
def read : State → UInt8 → State × List Char
  | .between, byte => start byte
  | .inside missing low high value, byte =>
      if low ≤ byte ∧ byte ≤ high then
        let value := value * 64 + (byte.toNat - 0x80)
        match missing with
        | 0 => (.between, [Char.ofNat value])
        | missing + 1 => (.inside missing 0x80 0xbf value, [])
      else
        let (after, chars) := start byte
        (after, replacement :: chars)

/-- What the end of the octets adds. -/
def flush : State → List Char
  | .between => []
  | .inside _ _ _ _ => [replacement]

/-- The reader together with what it has read, latest character first. -/
structure Reader where
  state : State
  read : List Char

namespace Reader

def initial : Reader := ⟨.between, []⟩

def feed (reader : Reader) (byte : UInt8) : Reader :=
  let (state, chars) := Utf8.read reader.state byte
  ⟨state, chars.reverse ++ reader.read⟩

def finish (reader : Reader) : List Char :=
  reader.read.reverse ++ flush reader.state

end Reader

def decode (bytes : Bytes) : List Char :=
  (bytes.foldl Reader.feed Reader.initial).finish

end Handoff.Text.Utf8
