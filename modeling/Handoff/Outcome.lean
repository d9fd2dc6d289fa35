import Handoff.Error
import Handoff.Status

namespace Handoff

inductive Outcome where
  | resolved (value : String)
  | failed (cause : Cause)
  | cancelled (force : Bool)

namespace Outcome

instance : Inhabited Outcome := ⟨.cancelled false⟩

def status : Outcome → Status
  | .resolved _ => .resolved
  | .failed _ => .failed
  | .cancelled _ => .cancelled

/-- What someone who waits for the promise gets. -/
def result : Outcome → Except Error String
  | .resolved value => .ok value
  | .failed cause => .error (.producerFailed cause)
  | .cancelled force => .error (.cancelled force)

end Outcome

end Handoff
