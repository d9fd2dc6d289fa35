import Handoff.Text.Hidden

namespace Handoff.Text.Quoted

/-! Quoted texts.

A quoted text stands between double quotes.  Quotes and backslashes in it have a
backslash in front; tabs, line ends and NUL have letters of their own; every
other hidden character is given by its number. -/

/-- The lower-case hexadecimal digits of a number. -/
def hex (number : Nat) : List Char :=
  Nat.toDigits 16 number

def encodeChar : Char → List Char
  | '\x00' => ['\\', '0']
  | '\t' => ['\\', 't']
  | '\r' => ['\\', 'r']
  | '\n' => ['\\', 'n']
  | '\\' => ['\\', '\\']
  | '"' => ['\\', '"']
  | char =>
      if isHidden char then ['\\', 'u', '\x7b'] ++ hex char.toNat ++ ['\x7d']
      else [char]

def encode (text : String) : String :=
  String.ofList ('"' :: text.toList.flatMap encodeChar ++ ['"'])

end Handoff.Text.Quoted
