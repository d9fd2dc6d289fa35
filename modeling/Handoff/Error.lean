namespace Handoff

/-! Errors and failure causes.

An error may carry the cause a producer gave for a failure, and a cause may in
turn be an error, so the two types are mutual.  Every cause has an instance
number: two causes are the same cause only when they are the same instance,
whatever they say. -/

mutual

inductive Error where
  | capacityExceeded (requested limit : Nat)
  | readOnly
  | invalidCapacity
  | alreadyCompleted
  | timedOut
  | cancelled (force : Bool)
  | producerFailed (cause : Cause)
  | alreadyAttached
  | streamClosed

/-- The reason a producer gives for a failure: a text, a text that names a
deeper reason, or an error of this library. -/
inductive Cause where
  | stated (instanceId : Nat) (text : String)
  | because (instanceId : Nat) (text : String) (deeper : Cause)
  | raised (instanceId : Nat) (error : Error)

end

instance : Inhabited Error := ⟨.readOnly⟩

instance : Inhabited Cause := ⟨.stated 0 ""⟩

/-- The number that tells one cause instance from another. -/
def Cause.instanceId : Cause → Nat
  | .stated instanceId _ => instanceId
  | .because instanceId _ _ => instanceId
  | .raised instanceId _ => instanceId

def Cause.asError? : Cause → Option Error
  | .raised _ error => some error
  | _ => none

namespace Error

def kind : Error → String
  | .capacityExceeded _ _ => "CapacityExceeded"
  | .readOnly => "ReadOnly"
  | .invalidCapacity => "InvalidCapacity"
  | .alreadyCompleted => "AlreadyCompleted"
  | .timedOut => "TimedOut"
  | .cancelled _ => "Cancelled"
  | .producerFailed _ => "UpstreamFailure"
  | .alreadyAttached => "AlreadyAttached"
  | .streamClosed => "StreamClosed"

/-- The numeric code of the kind of error: buffers have codes from -100
downwards, promises from -200, streams from -300. -/
def code : Error → Int
  | .capacityExceeded _ _ => -100
  | .readOnly => -101
  | .invalidCapacity => -102
  | .alreadyCompleted => -200
  | .timedOut => -201
  | .cancelled _ => -202
  | .producerFailed _ => -203
  | .alreadyAttached => -300
  | .streamClosed => -301

def cause? : Error → Option Cause
  | .producerFailed cause => some cause
  | _ => none

/-- A rejection refuses an operation that came too late to matter, so that a
producer may ignore it. -/
def isRejection : Error → Bool
  | .alreadyCompleted => true
  | .alreadyAttached => true
  | _ => false

/-- Errors are equal when their kinds and fields agree.  Failures of a
producer are equal when they carry the same cause instance. -/
def same : Error → Error → Bool
  | .capacityExceeded requested limit, .capacityExceeded requested' limit' =>
      requested == requested' && limit == limit'
  | .cancelled force, .cancelled force' => force == force'
  | .producerFailed cause, .producerFailed cause' =>
      cause.instanceId == cause'.instanceId
  | left, right => left.code == right.code

instance : BEq Error := ⟨same⟩

end Error

mutual

def Error.message : Error → String
  | .capacityExceeded requested limit =>
      s!"Capacity exceeded: {requested} bytes requested, limit is {limit}"
  | .readOnly => "Buffer is read-only"
  | .invalidCapacity => "Invalid capacity configuration"
  | .alreadyCompleted => "Promise already completed"
  | .timedOut => "Timed out waiting for completion"
  | .cancelled force => s!"Promise cancelled (force: {force})"
  | .producerFailed cause => "Upstream failure: " ++ cause.message
  | .alreadyAttached => "Chunk handler already attached"
  | .streamClosed => "Stream already closed"

def Cause.message : Cause → String
  | .stated _ text => text
  | .because _ text _ => text
  | .raised _ error => error.message

end

mutual

/-- The form of an error that shows its fields. -/
def Error.inspect : Error → String
  | .capacityExceeded requested limit =>
      "CapacityExceeded \x7b requested: " ++ toString requested
        ++ ", limit: " ++ toString limit ++ " \x7d"
  | .cancelled force => "Cancelled \x7b force: " ++ toString force ++ " \x7d"
  | .producerFailed cause => "UpstreamFailure(" ++ cause.inspect ++ ")"
  | .readOnly => "ReadOnly"
  | .invalidCapacity => "InvalidCapacity"
  | .alreadyCompleted => "AlreadyCompleted"
  | .timedOut => "TimedOut"
  | .alreadyAttached => "AlreadyAttached"
  | .streamClosed => "StreamClosed"

def Cause.inspect : Cause → String
  | .stated _ text => "Cause:" ++ text
  | .because _ text _ => "Cause:" ++ text
  | .raised _ error => error.inspect

end

/-! The reasons behind an error are found by asking each error for its source,
again and again. -/

def Error.source? : Error → Option Cause
  | .producerFailed cause => some cause
  | _ => none

def Cause.source? : Cause → Option Cause
  | .stated _ _ => none
  | .because _ _ deeper => some deeper
  | .raised _ error => error.source?

mutual

/-- All sources behind an error, nearest first. -/
def Error.chain : Error → List Cause
  | .producerFailed cause => cause :: cause.chain
  | .capacityExceeded _ _ | .readOnly | .invalidCapacity | .alreadyCompleted
  | .timedOut | .cancelled _ | .alreadyAttached | .streamClosed => []

def Cause.chain : Cause → List Cause
  | .stated _ _ => []
  | .because _ _ deeper => deeper :: deeper.chain
  | .raised _ error => error.chain

end

end Handoff
