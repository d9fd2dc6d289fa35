import Handoff.Machine.Promises
import Handoff.Machine.Streams

namespace Handoff.Machine

/-! One step of the library. -/

/-- Lets go of a sender: a body that was not settled is aborted first, then the
sink goes. -/
def abandon (machine : Machine) (index : Nat) : Machine :=
  let body := machine.world.body index
  if (machine.world.promise body.promise).isDone then machine.turn (.release body.promise)
  else (machine.push (.releasing body.promise)).turn (.finish body.accumulator .aborted)

def perform (machine : Machine) : Task → Machine
  | .settle promise outcome => machine.settle promise outcome
  | .dispatch promise outcome waiting => machine.dispatch promise outcome waiting
  | .tell handler outcome => machine.tell handler outcome
  | .register promise handler => machine.register promise handler
  | .forget handlers => machine.forget handlers
  | .release promise => machine.release promise
  | .deliver accumulator bytes => machine.deliver accumulator bytes
  | .attach accumulator handler => machine.attach accumulator handler
  | .finish accumulator ending => machine.finish accumulator ending
  | .drain accumulator => machine.drain accumulator
  | .next accumulator handler => machine.next accumulator handler
  | .feed handler bytes => machine.feed handler bytes
  | .feedEnd handler => machine.feedEnd handler
  | .discard handler => machine.discard handler
  | .abandon body => machine.abandon body

/-- Lets go of the sender that a call held; the last holder abandons it. -/
def leave (machine : Machine) (index : Nat) (after : Frame) (otherwise : Control) : Machine :=
  let body := (machine.world.body index).removeSender
  let machine := machine.setBody index body
  if body.senders = 0 then (machine.push after).turn (.abandon index)
  else { machine with control := otherwise }

/-- Goes on with a frame, taken off the stack, after the task above it replied. -/
def resume (machine : Machine) (reply : Reply) : Frame → Machine
  | .client invocation =>
      { machine.push (.client invocation) with control := .client (.replied reply) }
  | .replying reply => machine.reply reply
  | .forgetting handlers => machine.turn (.forget handlers)
  | .dispatching promise outcome waiting => machine.turn (.dispatch promise outcome waiting)
  | .resolving derived =>
      match reply with
      | .value value => machine.turn (.settle derived (.resolved value))
      | _ => machine.reply .done
  | .dropping =>
      match reply with
      | .result (.ok _) => (machine.log .sinkDropped).reply .done
      | _ => machine.reply .done
  | .releasing promise => machine.turn (.release promise)
  | .fed index handler =>
      let wantsEnd := match reply with
        | .flag wantsEnd => wantsEnd
        | _ => true
      let accumulator := machine.world.accumulator index
      ((machine.setAccumulator index { accumulator with wantsEnd }).note
        (.answered index wantsEnd)).turn (.next index handler)
  | .fedEnd accumulator handler => machine.letGo accumulator handler
  | .released => (machine.log .handlerReleased).reply .done
  | .finishing promise value =>
      match reply with
      | .result (.error error) => machine.reply (.refused error)
      | _ => machine.turn (.settle promise (.resolved value))
  | .settling promise outcome => machine.turn (.settle promise outcome)
  | .leaving body => machine.leave body (.replying reply) (.reply reply)
  | .texting body derived =>
      match reply with
      | .result (.error error) =>
          (machine.push (.replying (.refused error))).turn (.release derived)
      | _ =>
          (machine.push (.replying (.made derived))).turn
            (.register (machine.world.body body).promise (.passing derived))
  | .streaming body channel =>
      match reply with
      | .result (.error error) =>
          (machine.setChannel channel (machine.world.channel channel).leave.abandon).reply
            (.refused error)
      | _ =>
          (machine.push (.replying (.made channel))).turn
            (.register (machine.world.body body).promise (.forwarding channel))
  | .returning index handler => (machine.setHandler index (some handler)).reply reply
  | .rethrowing message => { machine with control := .panic message }

/-- Takes a panic through a frame, taken off the stack. -/
def unwind (machine : Machine) (message : String) : Frame → Machine
  | .client invocation =>
      { machine.push (.client invocation) with control := .client (.panicked message) }
  | .forgetting handlers =>
      (machine.push (.rethrowing message)).turn (.forget handlers)
  | .dispatching _ _ waiting =>
      (machine.push (.rethrowing message)).turn (.forget (waiting.map Registration.handler))
  | .fed index handler | .fedEnd index handler =>
      ((machine.collapse index).push (.rethrowing message)).turn (.discard handler)
  | .releasing promise => (machine.push (.rethrowing message)).turn (.release promise)
  | .leaving body => machine.leave body (.rethrowing message) (.panic message)
  | .texting _ derived => (machine.push (.rethrowing message)).turn (.release derived)
  | .streaming _ channel =>
      machine.setChannel channel (machine.world.channel channel).leave.abandon
  | .returning index handler => machine.setHandler index (some handler)
  | .rethrowing _ => { machine with control := .stopped }
  | .replying _ | .resolving _ | .dropping | .released | .finishing _ _ | .settling _ _ => machine

/-- One step of the library; nothing happens while control is with the client. -/
def tick (machine : Machine) : Machine :=
  match machine.control with
  | .client _ | .stopped => machine
  | .task task => machine.perform task
  | .reply reply =>
      match machine.stack with
      | [] => { machine with control := .client (.replied reply) }
      | frame :: stack => { machine with stack }.resume reply frame
  | .panic message =>
      match machine.stack with
      | [] => { machine with control := .client (.panicked message) }
      | frame :: stack => { machine with stack }.unwind message frame

end Handoff.Machine
