import Handoff.Count
import Handoff.Handler

namespace Handoff

/-! Accumulators.

An accumulator keeps the chunks of a stream in a queue until a handler is
attached.  A drain then takes the handler, runs the queue dry and puts the
handler back; while a drain has the handler, later chunks only join the queue.
The end of the stream joins the queue too, behind every chunk. -/

inductive Ending where
  /-- The handler may be told. -/
  | finished
  /-- The handler is let go without a word. -/
  | aborted
deriving DecidableEq, Repr

inductive Item where
  | chunk (bytes : Bytes)
  | ending (ending : Ending)
deriving DecidableEq, Repr

inductive Stage where
  | unattached
  | parked (handler : ChunkHandler)
  /-- A drain has the handler. -/
  | draining
  | released

structure Accumulator where
  queue : List Item
  /-- Octets of the chunks in the queue. -/
  queuedBytes : Nat
  stage : Stage
  closed : Bool
  /-- Whether the handler wants to be told of the end; its last answer counts. -/
  wantsEnd : Bool
  /-- Most octets kept before a handler is attached. -/
  ceiling : Option Nat

namespace Accumulator

def new (ceiling : Option Nat) : Accumulator :=
  ⟨[], 0, .unattached, false, true, ceiling⟩

instance : Inhabited Accumulator := ⟨new none⟩

def isAttached (accumulator : Accumulator) : Bool :=
  match accumulator.stage with
  | .unattached => false
  | _ => true

def queued (accumulator : Accumulator) : List Bytes :=
  accumulator.queue.filterMap fun item =>
    match item with
    | .chunk bytes => some bytes
    | .ending _ => none

def bufferedChunks (accumulator : Accumulator) : Nat :=
  accumulator.queued.length

/-- The size of the queue if a chunk joined it. -/
def requested (accumulator : Accumulator) (bytes : Bytes) : Nat :=
  Count.cappedAdd accumulator.queuedBytes bytes.length

/-- Why a chunk cannot be accepted, if it cannot: the stream was closed, or no
handler is attached and the chunk would not fit under the ceiling. -/
def refusal? (accumulator : Accumulator) (bytes : Bytes) : Option Error :=
  if accumulator.closed then some .streamClosed
  else if accumulator.isAttached then none
  else match accumulator.ceiling with
    | none => none
    | some limit =>
        if accumulator.requested bytes > limit then
          some (.capacityExceeded (accumulator.requested bytes) limit)
        else none

def enqueue (accumulator : Accumulator) (bytes : Bytes) : Accumulator :=
  { accumulator with
    queue := accumulator.queue ++ [.chunk bytes]
    queuedBytes := accumulator.queuedBytes + bytes.length }

def close (accumulator : Accumulator) (ending : Ending) : Accumulator :=
  { accumulator with
    queue := accumulator.queue ++ [.ending ending]
    closed := true }

def park (accumulator : Accumulator) (handler : ChunkHandler) : Accumulator :=
  { accumulator with stage := .parked handler }

def dequeue (accumulator : Accumulator) (bytes : Bytes) (rest : List Item) : Accumulator :=
  { accumulator with
    queue := rest
    queuedBytes := accumulator.queuedBytes - bytes.length }

/-- Lets the handler go for good; nothing stays queued. -/
def release (accumulator : Accumulator) : Accumulator :=
  { accumulator with queue := [], queuedBytes := 0, stage := .released }

/-- What a handler that panicked leaves behind. -/
def collapse (accumulator : Accumulator) : Accumulator :=
  { accumulator.release with closed := true }

def inspect (accumulator : Accumulator) : String :=
  let ceiling := match accumulator.ceiling with
    | none => "None"
    | some limit => "Some(" ++ toString limit ++ ")"
  "ChunkAccumulator \x7b attached: " ++ toString accumulator.isAttached
    ++ ", closed: " ++ toString accumulator.closed
    ++ ", queued_bytes: " ++ toString accumulator.queuedBytes
    ++ ", ceiling: " ++ ceiling ++ " \x7d"

end Accumulator

end Handoff
