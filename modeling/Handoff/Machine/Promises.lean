import Handoff.Machine
import Handoff.Text.Quoted

namespace Handoff.Machine

/-! The tasks that settle promises and call their handlers. -/

def noticeOf (name : String) : Outcome → Notice
  | .resolved value => .completed name (Text.Quoted.encode value)
  | .failed cause => .failed name cause.message
  | .cancelled force => .cancelled name force

/-- Settles a promise that is pending and calls the handlers that waited.  A
promise that was settled before stays as it is. -/
def settle (machine : Machine) (index : Nat) (outcome : Outcome) : Machine :=
  let promise := machine.world.promise index
  match promise.state with
  | .settled _ =>
      (machine.log (.duplicateRejected outcome.status)).reply (.refused .alreadyCompleted)
  | .pending waiting =>
      (((machine.setPromise index (promise.settle outcome)).note (.settled index outcome)).log
        (.promiseSettled outcome.status waiting.length)).turn (.dispatch index outcome waiting)

/-- Calls the first handler; the others wait on the stack. -/
def dispatch (machine : Machine) (index : Nat) (outcome : Outcome) :
    List Registration → Machine
  | [] => machine.reply .ok
  | registration :: waiting =>
      (((machine.note (.told index registration.number outcome)).push
        (.dispatching index outcome waiting)).push
          (.forgetting [registration.handler])).turn (.tell registration.handler outcome)

def tell (machine : Machine) (handler : CompletionHandler) (outcome : Outcome) : Machine :=
  match handler with
  | .client handler hearing =>
      if hearing.hears outcome then machine.invoke (.told handler outcome)
      else machine.reply .done
  | .logging name => (machine.log (noticeOf name outcome)).reply .done
  | .mapping function derived =>
      match outcome with
      | .resolved value => (machine.push (.resolving derived)).invoke (.mapping function value)
      | _ => machine.turn (.settle derived outcome)
  | .aborting accumulator =>
      match outcome with
      | .resolved _ => machine.reply .done
      | _ => machine.turn (.finish accumulator .aborted)
  | .passing promise =>
      match outcome with
      | .resolved _ => machine.reply .done
      | _ => machine.turn (.settle promise outcome)
  | .forwarding index =>
      let channel := machine.world.channel index
      let channel := match outcome.result with
        | .ok _ => channel
        | .error error => channel.send (.error error)
      (machine.setChannel index channel.close).reply .done

/-- Registers a handler: it waits for the promise to settle, or is called at
once. -/
def register (machine : Machine) (index : Nat) (handler : CompletionHandler) : Machine :=
  let number := machine.world.registrations
  let promise := machine.world.promise index
  let machine := (machine.withWorld { machine.world with registrations := number + 1 }).note
    (.registered index number)
  match promise.state with
  | .pending _ => (machine.setPromise index (promise.enqueue ⟨number, handler⟩)).reply .done
  | .settled outcome =>
      ((machine.note (.told index number outcome)).push (.forgetting [handler])).turn
        (.tell handler outcome)

/-- Lets go of handlers in order.  A handler that holds a sink lets go of it. -/
def forget (machine : Machine) : List CompletionHandler → Machine
  | [] => machine.reply .done
  | handler :: rest =>
      let machine := if rest.isEmpty then machine else machine.push (.forgetting rest)
      match handler with
      | .mapping _ derived => machine.turn (.release derived)
      | .passing promise => machine.turn (.release promise)
      | .forwarding index =>
          (machine.setChannel index (machine.world.channel index).leave).reply .done
      | .client _ _ | .logging _ | .aborting _ => machine.reply .done

/-- Lets go of a share of a sink.  When the last one is gone before the promise
was settled, the promise is cancelled. -/
def release (machine : Machine) (index : Nat) : Machine :=
  let promise := (machine.world.promise index).removeShare
  let machine := machine.setPromise index promise
  if promise.shares = 0 && !promise.isDone then
    (machine.push .dropping).turn (.settle index (.cancelled false))
  else machine.reply .done

end Handoff.Machine
