import Handoff.Bytes
import Handoff.Text.Blank
import Handoff.Text.Utf8

namespace Handoff

inductive Charset where
  | latin1
  | utf8
  | ascii
deriving DecidableEq, Repr

namespace Charset

/-- Text is ISO-8859-1 unless something else is said. -/
instance : Inhabited Charset := ⟨.latin1⟩

def name : Charset → String
  | .latin1 => "ISO-8859-1"
  | .utf8 => "UTF-8"
  | .ascii => "US-ASCII"

/-- Finds a charset by one of its names.  Blanks around the name and the case
of ASCII letters do not matter. -/
def ofName? (name : String) : Option Charset :=
  match String.ofList ((Text.trimBlank name.toList).map Char.toLower) with
  | "iso-8859-1" | "latin1" | "iso8859-1" => some .latin1
  | "utf-8" | "utf8" => some .utf8
  | "us-ascii" | "ascii" => some .ascii
  | _ => none

/-- In ISO-8859-1 an octet is the character with its number. -/
def latin1Char (byte : UInt8) : Char :=
  Char.ofNat byte.toNat

/-- In US-ASCII only the lower half of the octets are characters. -/
def asciiChar (byte : UInt8) : Char :=
  if byte < 0x80 then Char.ofNat byte.toNat else Text.Utf8.replacement

def decodeChars : Charset → Bytes → List Char
  | .latin1, bytes => bytes.map latin1Char
  | .utf8, bytes => Text.Utf8.decode bytes
  | .ascii, bytes => bytes.map asciiChar

def decode (charset : Charset) (bytes : Bytes) : String :=
  String.ofList (charset.decodeChars bytes)

end Charset

end Handoff
