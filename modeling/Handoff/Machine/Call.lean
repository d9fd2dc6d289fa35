import Handoff.Error.Description
import Handoff.Machine.Tick

namespace Handoff

/-! What the client may ask of the library.

The client refers to objects by number.  It may use every future, accumulator
and body there is, but only those sinks, senders, chunk handlers and streams
that are in its hands. -/

inductive NewHandler where
  | client (handler : Nat)
  | logging (name : String)
  /-- A collector that shares the sink of a promise. -/
  | collecting (charset : Charset) (capacity : Capacity) (promise : Nat)

inductive Call where
  | newPromise
  | newSettled (outcome : Outcome)
  /-- Settles a promise through its sink. -/
  | settle (promise : Nat) (outcome : Outcome)
  /-- Cancels a promise through its future. -/
  | cancel (promise : Nat) (force : Bool)
  | dropSink (promise : Nat)
  | listen (promise handler : Nat) (hearing : Hearing)
  | log (promise : Nat) (name : String)
  | map (promise function : Nat)
  | newAccumulator (ceiling : Option Nat)
  | newHandler (handler : NewHandler)
  | deliver (accumulator : Nat) (bytes : Bytes)
  | attach (accumulator handler : Nat)
  | finish (accumulator : Nat) (ending : Ending)
  | newBody (config : Config)
  | send (body : Nat) (bytes : Bytes)
  | complete (body : Nat) (value : String)
  | fail (body : Nat) (outcome : Outcome)
  | dropSender (body : Nat)
  | text (body : Nat) (charset : Charset)
  | chunks (body : Nat)
  | poll (channel : Nat)
  | dropStream (channel : Nat)
  | tell (handler : CompletionHandler) (outcome : Outcome)
  | feed (handler : Nat) (bytes : Bytes)
  | feedEnd (handler : Nat)
  | discard (handler : Nat)

/-- The client's own handlers and those it can get hold of outside a promise. -/
def CompletionHandler.isFree : CompletionHandler → Bool
  | .client _ _ | .logging _ => true
  | _ => false

namespace World

/-- Decides whether the client has what a call needs. -/
def admits (world : World) : Call → Bool
  | .newPromise | .newSettled _ | .newAccumulator _ | .newBody _ => true
  | .settle promise _ | .dropSink promise => (world.promise promise).owned
  | .cancel promise _ | .listen promise _ _ | .log promise _ | .map promise _ =>
      promise < world.promises.size
  | .newHandler (.collecting _ _ promise) => (world.promise promise).owned
  | .newHandler (.client _) | .newHandler (.logging _) => true
  | .deliver accumulator _ | .finish accumulator _ => accumulator < world.accumulators.size
  | .attach accumulator handler =>
      accumulator < world.accumulators.size && (world.handler? handler).isSome
  | .send body _ | .complete body _ | .dropSender body => (world.body body).owned
  | .fail body outcome => (world.body body).owned && outcome.status != .resolved
  | .text body _ | .chunks body => body < world.bodies.size
  | .poll channel | .dropStream channel => (world.channel channel).listening
  | .tell handler _ => handler.isFree
  | .feed handler _ | .feedEnd handler | .discard handler => (world.handler? handler).isSome

end World

namespace Machine

/-- Holds the sender of a body while a call on it runs. -/
def hold (machine : Machine) (index : Nat) : Machine :=
  (machine.setBody index (machine.world.body index).addSender).push (.leaving index)

def newHandler (machine : Machine) (handler : NewHandler) : Machine :=
  let index := machine.world.handlers.size
  let machine := match handler with
    | .client handler => machine.withWorld (machine.world.addHandler (.client handler))
    | .logging name => machine.withWorld (machine.world.addHandler (.logging name))
    | .collecting charset capacity promise =>
        (machine.withWorld (machine.world.addHandler
          (.collecting (Collector.new charset capacity promise)))).setPromise promise
            (machine.world.promise promise).addShare
  machine.reply (.made index)

def map (machine : Machine) (promise function : Nat) : Machine :=
  let derived := machine.world.promises.size
  ((machine.withWorld (machine.world.addPromise (Promise.inside 1))).push
    (.replying (.made derived))).turn (.register promise (.mapping function derived))

/-- Makes a body with its accumulator and its promise.  The accumulator is
aborted when the promise ends otherwise than by a value. -/
def newBody (machine : Machine) (config : Config) : Machine :=
  let index := machine.world.bodies.size
  let accumulator := machine.world.accumulators.size
  let promise := machine.world.promises.size
  let world := machine.world.addAccumulator (Accumulator.new config.pendingCeiling)
  let world := world.addPromise (Promise.inside 1)
  let world := world.addBody ⟨accumulator, promise, config, 1, true⟩
  ((machine.withWorld world).push (.replying (.made index))).turn
    (.register promise (.aborting accumulator))

/-- Hands a body over as text.  Two hold the sink of the derived promise: the
collector, and the handler that passes failures on. -/
def text (machine : Machine) (index : Nat) (charset : Charset) : Machine :=
  let body := machine.world.body index
  let derived := machine.world.promises.size
  ((machine.withWorld (machine.world.addPromise (Promise.inside 2))).push
    (.texting index derived)).turn
      (.attach body.accumulator
        (.collecting (Collector.new charset body.config.textCapacity derived)))

def chunks (machine : Machine) (index : Nat) : Machine :=
  let body := machine.world.body index
  let channel := machine.world.channels.size
  ((machine.withWorld (machine.world.addChannel Channel.new)).push
    (.streaming index channel)).turn (.attach body.accumulator (.forwarding channel))

def takeHandler (machine : Machine) (index : Nat) : ChunkHandler × Machine :=
  ((machine.world.handler? index).getD default, machine.setHandler index none)

def begin (machine : Machine) : Call → Machine
  | .newPromise =>
      (machine.withWorld (machine.world.addPromise Promise.forClient)).reply
        (.made machine.world.promises.size)
  | .newSettled outcome =>
      (machine.withWorld (machine.world.addPromise (Promise.done outcome))).reply
        (.made machine.world.promises.size)
  | .settle promise outcome => machine.turn (.settle promise outcome)
  | .cancel promise force => machine.turn (.settle promise (.cancelled force))
  | .dropSink promise =>
      (machine.setPromise promise { machine.world.promise promise with owned := false }).turn
        (.release promise)
  | .listen promise handler hearing => machine.turn (.register promise (.client handler hearing))
  | .log promise name => machine.turn (.register promise (.logging name))
  | .map promise function => machine.map promise function
  | .newAccumulator ceiling =>
      (machine.withWorld (machine.world.addAccumulator (Accumulator.new ceiling))).reply
        (.made machine.world.accumulators.size)
  | .newHandler handler => machine.newHandler handler
  | .deliver accumulator bytes => machine.turn (.deliver accumulator bytes)
  | .attach accumulator handler =>
      let (handler, machine) := machine.takeHandler handler
      machine.turn (.attach accumulator handler)
  | .finish accumulator ending => machine.turn (.finish accumulator ending)
  | .newBody config => machine.newBody config
  | .send body bytes =>
      (machine.hold body).turn (.deliver (machine.world.body body).accumulator bytes)
  | .complete index value =>
      let body := machine.world.body index
      ((machine.hold index).push (.finishing body.promise value)).turn
        (.finish body.accumulator .finished)
  | .fail index outcome =>
      let body := machine.world.body index
      ((machine.hold index).push (.settling body.promise outcome)).turn
        (.finish body.accumulator .aborted)
  | .dropSender index =>
      (machine.setBody index { machine.world.body index with owned := false }).leave index
        (.replying .done) (.reply .done)
  | .text body charset => machine.text body charset
  | .chunks body => machine.chunks body
  | .poll index =>
      let (poll, channel) := (machine.world.channel index).poll
      ((machine.setChannel index channel).note (.polled index poll)).reply (.polled poll)
  | .dropStream index =>
      (machine.setChannel index (machine.world.channel index).abandon).reply .done
  | .tell handler outcome => machine.turn (.tell handler outcome)
  | .feed index bytes =>
      let (handler, machine) := machine.takeHandler index
      (machine.push (.returning index (handler.take bytes))).turn (.feed handler bytes)
  | .feedEnd index =>
      let (handler, machine) := machine.takeHandler index
      ((machine.push (.returning index handler.close)).push (.replying .done)).turn
        (.feedEnd handler)
  | .discard index =>
      let (handler, machine) := machine.takeHandler index
      machine.turn (.discard handler)

/-- Numbers the cause instances of a description. -/
def describe (machine : Machine) (description : Cause.Description) : Cause × Machine :=
  let (cause, instances) := description.build.run ⟨machine.world.causes, []⟩
  (cause, machine.withWorld { machine.world with causes := instances.made })

end Machine

end Handoff
