namespace Handoff

/-- The state of a promise that everyone may see. -/
inductive Status where
  | pending
  | resolved
  | failed
  | cancelled
deriving DecidableEq, Repr

namespace Status

instance : Inhabited Status := ⟨.pending⟩

def isTerminal (status : Status) : Bool :=
  status != .pending

def name : Status → String
  | .pending => "Pending"
  | .resolved => "Resolved"
  | .failed => "Failed"
  | .cancelled => "Cancelled"

def all : List Status :=
  [.pending, .resolved, .failed, .cancelled]

end Status

end Handoff
