namespace Handoff

/-- A run of octets, first octet first. -/
abbrev Bytes := List UInt8

namespace Bytes

def ofText (text : String) : Bytes :=
  text.toUTF8.toList

end Bytes

end Handoff
