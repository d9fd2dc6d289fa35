import Handoff.Channel
import Handoff.Notice
import Handoff.Status

namespace Handoff.Script

/-! What a script writes down. -/

structure Summary where
  future : Option Status
  /-- Attached, closed, and the chunks and octets queued, if it has an
  accumulator. -/
  accumulator : Option (Bool × Bool × Nat × Nat)

inductive Result where
  | ok
  | nothing
  | refused (error : Error)
  | panicked (message : String)
  | noHandle
  | nameTaken
  | unknownStep
  | badCharset
  | badLimits
  | wouldBlock
  | flag (value : Bool)
  | text (value : String)
  | texts (values : List String)
  | outcome (result : Except Error String)
  | state (status : Status)
  | poll (poll : Poll)
  | polls (polls : List Poll)
  /-- The answers of a chunk handler; the end of the stream has none. -/
  | answers (answers : List (Option Bool))
  | summary (summary : Summary)

inductive Event where
  | log (notice : Notice)
  | completed (tag value : String)
  | failed (tag text : String)
  | cancelled (tag : String) (force : Bool)
  | mapped (name value : String)
  | chunk (tag : String) (bytes : Bytes)
  | ended (tag : String)
  | dropped (tag : String)
  | step (tag : String) (index : Nat) (result : Result)
  | panicked (message : String)

structure Answer where
  result : Result
  summary : Summary
  events : List Event

/-- What there is to say in the end: the events of dropping everything, and the
outcome of every future by name. -/
structure Closing where
  events : List Event
  futures : List (String × Option (Except Error String))

end Handoff.Script
