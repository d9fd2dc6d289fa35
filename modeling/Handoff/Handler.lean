import Handoff.Buffer
import Handoff.Outcome

namespace Handoff

/-! Handlers.

A completion handler is told how a promise ended.  A chunk handler is given the
chunks of a stream, and may be told that the stream ended.  Some handlers are the
client's: they are known by a number the client chose, and calling one gives
control to the client.  The others belong to the library. -/

structure Hearing where
  resolved : Bool
  failed : Bool
  cancelled : Bool
deriving DecidableEq, Repr

namespace Hearing

def all : Hearing := ⟨true, true, true⟩

def hears (hearing : Hearing) : Outcome → Bool
  | .resolved _ => hearing.resolved
  | .failed _ => hearing.failed
  | .cancelled _ => hearing.cancelled

/-- A handler that listens to each kind of ending at most once stops listening
to the kind it was told. -/
def after (hearing : Hearing) : Outcome → Hearing
  | .resolved _ => { hearing with resolved := false }
  | .failed _ => { hearing with failed := false }
  | .cancelled _ => { hearing with cancelled := false }

end Hearing

inductive CompletionHandler where
  | client (handler : Nat) (hearing : Hearing)
  | logging (name : String)
  /-- Applies a function of the client to the value and settles a derived
  promise, whose sink it holds. -/
  | mapping (function : Nat) (derived : Nat)
  /-- Ends a stream that was not finished. -/
  | aborting (accumulator : Nat)
  /-- Passes a failure or a cancellation on to a promise, whose sink it shares. -/
  | passing (promise : Nat)
  /-- Ends a channel, with an error unless the promise was resolved. -/
  | forwarding (channel : Nat)

/-- Collects chunks in a buffer and resolves a promise with their text. -/
structure Collector where
  buffer : Buffer
  charset : Charset
  /-- The promise whose sink the collector shares. -/
  promise : Nat
  /-- Set once a chunk did not fit. -/
  overflowed : Bool

namespace Collector

def new (charset : Charset) (capacity : Capacity) (promise : Nat) : Collector :=
  ⟨Buffer.new capacity, charset, promise, false⟩

def take (collector : Collector) (bytes : Bytes) : Collector :=
  if collector.overflowed then collector
  else match collector.buffer.append bytes with
    | .ok buffer => { collector with buffer }
    | .error _ => { collector with overflowed := true }

def text (collector : Collector) : String :=
  (collector.buffer.flip.text? collector.charset).getD ""

def close (collector : Collector) : Collector :=
  { collector with buffer := collector.buffer.flip }

end Collector

inductive ChunkHandler where
  | client (handler : Nat)
  | logging (name : String)
  | collecting (collector : Collector)
  | forwarding (channel : Nat)

namespace ChunkHandler

instance : Inhabited ChunkHandler := ⟨.client 0⟩

/-- The handler as it is once it was given a chunk. -/
def take : ChunkHandler → Bytes → ChunkHandler
  | .collecting collector, bytes => .collecting (collector.take bytes)
  | handler, _ => handler

def close : ChunkHandler → ChunkHandler
  | .collecting collector => .collecting collector.close
  | handler => handler

end ChunkHandler

end Handoff
