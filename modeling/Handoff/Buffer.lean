import Handoff.Capacity
import Handoff.Charset
import Handoff.Notice

namespace Handoff

/-! A byte buffer with bounded growth.

A buffer is written first and read afterwards.  While it is being read, appends
are refused; clearing or draining it returns it to writing.  Storage is only
counted: `storage` is the number of octets set aside, and it never shrinks.

Storage is taken as granted: whatever number of octets a capacity allows is set
aside.  An allocator has a limit of its own, `2 ^ 63 - 1` octets on a machine with
words of 64 bits, and panics above it; that panic is not modelled. -/

structure Buffer where
  capacity : Capacity
  /-- Octets of storage set aside so far. -/
  storage : Nat
  content : Bytes
  /-- How many octets of the content were read. -/
  cursor : Nat
  reading : Bool

namespace Buffer

def new (capacity : Capacity) : Buffer :=
  ⟨capacity, 0, [], 0, false⟩

/-- A buffer with storage for `required` octets from the start.  Only the capacity
refuses; that there is storage of the size it allows is taken as granted. -/
def withStorage (capacity : Capacity) (required : Nat) : Except Error Buffer := do
  let storage ← capacity.storageFor required
  return { new capacity with storage }

instance : Inhabited Buffer := ⟨new default⟩

def length (buffer : Buffer) : Nat :=
  buffer.content.length

def isEmpty (buffer : Buffer) : Bool :=
  buffer.content.isEmpty

/-- Where the next octet is written, or read. -/
def position (buffer : Buffer) : Nat :=
  if buffer.reading then buffer.cursor else buffer.length

/-- Free storage while writing, unread octets while reading. -/
def remaining (buffer : Buffer) : Nat :=
  if buffer.reading then buffer.length - buffer.cursor
  else buffer.storage - buffer.length

/-- What a reader would see: everything past the cursor while reading, all
content while writing. -/
def readable (buffer : Buffer) : Bytes :=
  if buffer.reading then buffer.content.drop buffer.cursor else buffer.content

/-- Sets aside storage for `required` octets, unless there is enough of it.  Only the
capacity refuses; that there is storage of the size it allows is taken as granted. -/
def reserve (buffer : Buffer) (required : Nat) : Except Error Buffer :=
  if required > buffer.storage then do
    let storage ← buffer.capacity.storageFor required
    return { buffer with storage }
  else
    return buffer

/-- Adds octets at the end.  A buffer that cannot take all of them takes none. -/
def append (buffer : Buffer) (bytes : Bytes) : Except Error Buffer :=
  if buffer.reading then .error .readOnly
  else do
    let buffer ← buffer.reserve (buffer.length + bytes.length)
    return { buffer with content := buffer.content ++ bytes }

/-- The notice that storage grew between two moments. -/
def growth (before after : Buffer) : List Notice :=
  if before.storage = after.storage then []
  else [.bufferGrown before.storage after.storage]

/-- Begins to read at the start; a buffer that is being read stays as it is. -/
def flip (buffer : Buffer) : Buffer :=
  if buffer.reading then buffer else { buffer with cursor := 0, reading := true }

def rewind (buffer : Buffer) : Buffer :=
  { buffer with cursor := 0 }

/-- Drops the content and returns to writing.  Storage is kept. -/
def clear (buffer : Buffer) : Buffer :=
  { buffer with content := [], cursor := 0, reading := false }

/-- Reads up to `count` octets, flipping first if that was not done. -/
def read (buffer : Buffer) (count : Nat) : Bytes × Buffer :=
  let buffer := buffer.flip
  let bytes := buffer.readable.take count
  (bytes, { buffer with cursor := buffer.cursor + bytes.length })

def text? (buffer : Buffer) (charset : Charset) : Option String :=
  if buffer.readable.isEmpty then none else some (charset.decode buffer.readable)

end Buffer

end Handoff
