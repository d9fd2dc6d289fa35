import Handoff.Handler

namespace Handoff

/-! Promises.

A promise is settled at most once.  Until then it keeps the handlers that were
registered, in order; settling hands them out together with nothing left behind.
A promise is settled through its sink, which may be shared. -/

structure Registration where
  number : Nat
  handler : CompletionHandler

inductive Promise.State where
  | pending (waiting : List Registration)
  | settled (outcome : Outcome)

structure Promise where
  state : Promise.State
  /-- How many hold the sink. -/
  shares : Nat
  /-- Whether the client is one of them. -/
  owned : Bool

namespace Promise

instance : Inhabited Promise := ⟨⟨.pending [], 0, false⟩⟩

def forClient : Promise :=
  ⟨.pending [], 1, true⟩

/-- A pending promise whose sink has `shares` holders inside the library. -/
def inside (shares : Nat) : Promise :=
  ⟨.pending [], shares, false⟩

def done (outcome : Outcome) : Promise :=
  ⟨.settled outcome, 0, false⟩

def outcome? (promise : Promise) : Option Outcome :=
  match promise.state with
  | .pending _ => none
  | .settled outcome => some outcome

def status (promise : Promise) : Status :=
  match promise.outcome? with
  | none => .pending
  | some outcome => outcome.status

def isDone (promise : Promise) : Bool :=
  promise.outcome?.isSome

def waiting (promise : Promise) : List Registration :=
  match promise.state with
  | .pending waiting => waiting
  | .settled _ => []

/-- What a look at the promise gives, without waiting. -/
def result? (promise : Promise) : Option (Except Error String) :=
  promise.outcome?.map Outcome.result

def settle (promise : Promise) (outcome : Outcome) : Promise :=
  { promise with state := .settled outcome }

def enqueue (promise : Promise) (registration : Registration) : Promise :=
  match promise.state with
  | .pending waiting => { promise with state := .pending (waiting ++ [registration]) }
  | .settled _ => promise

def addShare (promise : Promise) : Promise :=
  { promise with shares := promise.shares + 1 }

def removeShare (promise : Promise) : Promise :=
  { promise with shares := promise.shares - 1 }

def inspectSink (promise : Promise) : String :=
  "CompletionSink \x7b state: " ++ promise.status.name ++ " \x7d"

def inspectFuture (promise : Promise) : String :=
  "CompletionFuture \x7b state: " ++ promise.status.name ++ " \x7d"

end Promise

def Hearing.inspect (hearing : Hearing) : String :=
  "Callbacks \x7b completed: " ++ toString hearing.resolved ++ ", failed: "
    ++ toString hearing.failed ++ ", cancelled: " ++ toString hearing.cancelled ++ " \x7d"

end Handoff
