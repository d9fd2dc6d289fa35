import Handoff.Machine

namespace Handoff.Machine

/-! The tasks that move chunks from an accumulator to its handler. -/

/-- Accepts a chunk, or refuses it without any effect. -/
def deliver (machine : Machine) (index : Nat) (bytes : Bytes) : Machine :=
  let accumulator := machine.world.accumulator index
  match accumulator.refusal? bytes with
  | some error => machine.reply (.refused error)
  | none =>
      let machine :=
        if accumulator.isAttached then machine
        else machine.log (.chunkBuffered bytes.length (accumulator.requested bytes))
      (((machine.setAccumulator index (accumulator.enqueue bytes)).note
        (.accepted index bytes)).push (.replying .ok)).turn (.drain index)

/-- Attaches the one handler; a second one is let go. -/
def attach (machine : Machine) (index : Nat) (handler : ChunkHandler) : Machine :=
  let accumulator := machine.world.accumulator index
  if accumulator.isAttached then
    (machine.push (.replying (.refused .alreadyAttached))).turn (.discard handler)
  else
    (((machine.setAccumulator index (accumulator.park handler)).log
      (.handlerAttached accumulator.queue.length)).push (.replying .ok)).turn (.drain index)

/-- Ends the stream, unless it was closed before. -/
def finish (machine : Machine) (index : Nat) (ending : Ending) : Machine :=
  let accumulator := machine.world.accumulator index
  if accumulator.closed then machine.reply (.refused .streamClosed)
  else
    (((machine.setAccumulator index (accumulator.close ending)).note
      (.closed index ending)).push (.replying .ok)).turn (.drain index)

/-- Takes a parked handler to run the queue dry. -/
def drain (machine : Machine) (index : Nat) : Machine :=
  let accumulator := machine.world.accumulator index
  match accumulator.stage with
  | .parked handler =>
      (machine.setAccumulator index { accumulator with stage := .draining }).turn
        (.next index handler)
  | .unattached | .draining | .released => machine.reply .done

def letGo (machine : Machine) (index : Nat) (handler : ChunkHandler) : Machine :=
  let accumulator := machine.world.accumulator index
  (((machine.setAccumulator index accumulator.release).note (.released index)).push
    .released).turn (.discard handler)

/-- Takes the first item out of the queue, or parks the handler again. -/
def next (machine : Machine) (index : Nat) (handler : ChunkHandler) : Machine :=
  let accumulator := machine.world.accumulator index
  match accumulator.queue with
  | [] => (machine.setAccumulator index (accumulator.park handler)).reply .done
  | .chunk bytes :: rest =>
      (((machine.setAccumulator index (accumulator.dequeue bytes rest)).note
        (.handed index bytes)).push (.fed index (handler.take bytes))).turn (.feed handler bytes)
  | .ending ending :: rest =>
      let machine := machine.setAccumulator index { accumulator with queue := rest }
      if ending = .finished && accumulator.wantsEnd then
        ((machine.note (.ended index)).push (.fedEnd index handler.close)).turn (.feedEnd handler)
      else machine.letGo index handler

def feed (machine : Machine) (handler : ChunkHandler) (bytes : Bytes) : Machine :=
  match handler with
  | .client handler => machine.invoke (.chunk handler bytes)
  | .logging name => (machine.log (.chunk name bytes.length)).reply (.flag true)
  | .collecting collector =>
      if collector.overflowed then machine.reply (.flag false)
      else match collector.buffer.append bytes with
        | .ok buffer =>
            ((collector.buffer.growth buffer).foldl log machine).reply (.flag true)
        | .error error =>
            let (cause, machine) := machine.raise error
            (machine.push (.replying (.flag false))).turn (.settle collector.promise (.failed cause))
  | .forwarding index =>
      (machine.setChannel index ((machine.world.channel index).send (.ok bytes))).reply (.flag true)

def feedEnd (machine : Machine) (handler : ChunkHandler) : Machine :=
  match handler with
  | .client handler => machine.invoke (.ending handler)
  | .logging name => (machine.log (.endOfStream name)).reply .done
  | .collecting collector => machine.turn (.settle collector.promise (.resolved collector.text))
  | .forwarding index => (machine.setChannel index (machine.world.channel index).close).reply .done

def discard (machine : Machine) (handler : ChunkHandler) : Machine :=
  match handler with
  | .client handler => (machine.note (.dropped handler)).reply .done
  | .logging _ => machine.reply .done
  | .collecting collector => machine.turn (.release collector.promise)
  | .forwarding index => (machine.setChannel index (machine.world.channel index).leave).reply .done

/-- Closes the stream of a handler that panicked. -/
def collapse (machine : Machine) (index : Nat) : Machine :=
  ((machine.setAccumulator index (machine.world.accumulator index).collapse).note
    (.collapsed index)).log .handlerPanicked

end Handoff.Machine
