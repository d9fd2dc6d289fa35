import Handoff.Journal
import Handoff.World

namespace Handoff

/-! The machine that runs the library together with its client.

Control is with the client, or with the library.  The library works on a task,
and a stack of frames says what comes after it.  Whenever the library calls code
of the client, a frame for that call goes on the stack and control passes to the
client, who may then call the library again before it answers.  So a run is an
alternation of moves, and every interleaving of nested calls is one of them.

A panic of the client takes frames off the stack until it reaches a call of the
client.  A frame that holds something lets go of it on the way; if the client
panics again in the meantime, everything stops. -/

inductive Reply where
  | done
  | result (result : Except Error Unit)
  /-- The answer of a chunk handler. -/
  | flag (wantsEnd : Bool)
  /-- The answer of a mapping function. -/
  | value (value : String)
  | made (index : Nat)
  | polled (poll : Poll)

namespace Reply

def ok : Reply := .result (.ok ())

def refused (error : Error) : Reply := .result (.error error)

end Reply

inductive Task where
  | settle (promise : Nat) (outcome : Outcome)
  | dispatch (promise : Nat) (outcome : Outcome) (waiting : List Registration)
  | tell (handler : CompletionHandler) (outcome : Outcome)
  | register (promise : Nat) (handler : CompletionHandler)
  | forget (handlers : List CompletionHandler)
  /-- Lets go of one share of a sink. -/
  | release (promise : Nat)
  | deliver (accumulator : Nat) (bytes : Bytes)
  | attach (accumulator : Nat) (handler : ChunkHandler)
  | finish (accumulator : Nat) (ending : Ending)
  | drain (accumulator : Nat)
  /-- Goes on with a drain that has the handler. -/
  | next (accumulator : Nat) (handler : ChunkHandler)
  | feed (handler : ChunkHandler) (bytes : Bytes)
  | feedEnd (handler : ChunkHandler)
  | discard (handler : ChunkHandler)
  | abandon (body : Nat)

/-- What the library does after the task above it. -/
inductive Frame where
  | client (invocation : Invocation)
  /-- Replies in place of the task above. -/
  | replying (reply : Reply)
  | forgetting (handlers : List CompletionHandler)
  | dispatching (promise : Nat) (outcome : Outcome) (waiting : List Registration)
  /-- Settles a derived promise with the value replied. -/
  | resolving (derived : Nat)
  /-- Notes that a sink was dropped, if that settled its promise. -/
  | dropping
  | releasing (promise : Nat)
  /-- Keeps what a chunk handler answered and goes on with the drain. -/
  | fed (accumulator : Nat) (handler : ChunkHandler)
  /-- Lets go of a chunk handler that was told of the end. -/
  | fedEnd (accumulator : Nat) (handler : ChunkHandler)
  | released
  /-- Resolves a promise if the stream could be closed. -/
  | finishing (promise : Nat) (value : String)
  /-- Settles a promise whatever the task above replied. -/
  | settling (promise : Nat) (outcome : Outcome)
  /-- Lets go of a sender when a call on it is over. -/
  | leaving (body : Nat)
  | texting (body derived : Nat)
  | streaming (body channel : Nat)
  | returning (index : Nat) (handler : ChunkHandler)
  | rethrowing (message : String)

inductive Sight where
  | start
  | called
  | replied (reply : Reply)
  | panicked (message : String)

inductive Control where
  | client (sight : Sight)
  | task (task : Task)
  | reply (reply : Reply)
  | panic (message : String)
  /-- A panic met another panic. -/
  | stopped

structure Machine where
  world : World
  /-- Innermost frame first. -/
  stack : List Frame
  control : Control
  /-- Latest entry first. -/
  journal : List Entry

namespace Machine

def initial : Machine :=
  ⟨default, [], .client .start, []⟩

instance : Inhabited Machine := ⟨initial⟩

def withWorld (machine : Machine) (world : World) : Machine :=
  { machine with world }

def note (machine : Machine) (entry : Entry) : Machine :=
  { machine with journal := entry :: machine.journal }

def log (machine : Machine) (notice : Notice) : Machine :=
  machine.note (.notice notice)

def push (machine : Machine) (frame : Frame) : Machine :=
  { machine with stack := frame :: machine.stack }

def turn (machine : Machine) (task : Task) : Machine :=
  { machine with control := .task task }

def reply (machine : Machine) (reply : Reply) : Machine :=
  { machine with control := .reply reply }

def invoke (machine : Machine) (invocation : Invocation) : Machine :=
  { (machine.note (.invoked invocation)).push (.client invocation) with control := .client .called }

def setPromise (machine : Machine) (index : Nat) (promise : Promise) : Machine :=
  machine.withWorld (machine.world.setPromise index promise)

def setAccumulator (machine : Machine) (index : Nat) (accumulator : Accumulator) : Machine :=
  machine.withWorld (machine.world.setAccumulator index accumulator)

def setBody (machine : Machine) (index : Nat) (body : Body) : Machine :=
  machine.withWorld (machine.world.setBody index body)

def setChannel (machine : Machine) (index : Nat) (channel : Channel) : Machine :=
  machine.withWorld (machine.world.setChannel index channel)

def setHandler (machine : Machine) (index : Nat) (handler : Option ChunkHandler) : Machine :=
  machine.withWorld (machine.world.setHandler index handler)

/-- Makes the cause that stands for an error of the library. -/
def raise (machine : Machine) (error : Error) : Cause × Machine :=
  (.raised machine.world.causes error,
    machine.withWorld { machine.world with causes := machine.world.causes + 1 })

end Machine

end Handoff
