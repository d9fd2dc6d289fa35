import Handoff.Status

namespace Handoff

inductive Level where
  | trace
  | debug
  | warn
  | error
deriving DecidableEq, Repr

def Level.name : Level → String
  | .trace => "TRACE"
  | .debug => "DEBUG"
  | .warn => "WARN"
  | .error => "ERROR"

inductive Field where
  | text (value : String)
  | number (value : Nat)
  | flag (value : Bool)
deriving DecidableEq, Repr

/-- Everything the library writes to the log. -/
inductive Notice where
  | bufferGrown (old new : Nat)
  | duplicateRejected (attempted : Status)
  | promiseSettled (status : Status) (handlers : Nat)
  | sinkDropped
  | chunkBuffered (length buffered : Nat)
  | handlerAttached (buffered : Nat)
  | handlerReleased
  | handlerPanicked
  | completed (handler value : String)
  | failed (handler error : String)
  | cancelled (handler : String) (force : Bool)
  | chunk (handler : String) (length : Nat)
  | endOfStream (handler : String)
deriving DecidableEq, Repr

namespace Notice

def level : Notice → Level
  | .bufferGrown _ _ => .trace
  | .duplicateRejected _ => .trace
  | .promiseSettled _ _ => .trace
  | .sinkDropped => .debug
  | .chunkBuffered _ _ => .trace
  | .handlerAttached _ => .debug
  | .handlerReleased => .trace
  | .handlerPanicked => .debug
  | .completed _ _ => .debug
  | .failed _ _ => .error
  | .cancelled _ _ => .warn
  | .chunk _ _ => .debug
  | .endOfStream _ => .debug

def message : Notice → String
  | .bufferGrown _ _ => "buffer grown"
  | .duplicateRejected _ => "duplicate completion rejected"
  | .promiseSettled _ _ => "promise settled"
  | .sinkDropped => "sink dropped before completion, promise cancelled"
  | .chunkBuffered _ _ => "chunk buffered"
  | .handlerAttached _ => "chunk handler attached, replaying"
  | .handlerReleased => "chunk handler released"
  | .handlerPanicked => "chunk handler panicked, stream closed"
  | .completed _ _ => "completed"
  | .failed _ _ => "failed"
  | .cancelled _ _ => "cancelled"
  | .chunk _ _ => "chunk"
  | .endOfStream _ => "end of stream"

def fields : Notice → List (String × Field)
  | .bufferGrown old new => [("from", .number old), ("to", .number new)]
  | .duplicateRejected attempted => [("attempted", .text attempted.name)]
  | .promiseSettled status handlers =>
      [("state", .text status.name), ("handlers", .number handlers)]
  | .sinkDropped => []
  | .chunkBuffered length buffered =>
      [("len", .number length), ("buffered", .number buffered)]
  | .handlerAttached buffered => [("buffered", .number buffered)]
  | .handlerReleased => []
  | .handlerPanicked => []
  | .completed handler value => [("handler", .text handler), ("value", .text value)]
  | .failed handler error => [("handler", .text handler), ("error", .text error)]
  | .cancelled handler force => [("handler", .text handler), ("force", .flag force)]
  | .chunk handler length => [("handler", .text handler), ("len", .number length)]
  | .endOfStream handler => [("handler", .text handler)]

end Notice

end Handoff
