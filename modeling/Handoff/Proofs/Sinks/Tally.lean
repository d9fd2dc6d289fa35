import Handoff.Proofs.Zones.Zone
import Handoff.Proofs.Streams.Strand
import Handoff.Proofs.Promises.Cord

namespace Handoff

/-! Who shares the sink of a derived promise.

A derived promise is settled by the handlers that share its sink, or because they
are all gone.  A share is worth a token, and every handler that may still be called
or let go carries its token through the machine: from the task that registers it to
the promise it waits for, from there to the dispatch, and so on until the sink is
released.  The tokens are counted where they should be, and nowhere else. -/

namespace Count

@[simp] theorem total_nil : total [] = 0 := rfl

@[simp] theorem total_cons (count : Nat) (counts : List Nat) :
    total (count :: counts) = count + total counts := rfl

@[simp] theorem total_append (counts more : List Nat) :
    total (counts ++ more) = total counts + total more := by
  induction counts with
  | nil => exact (Nat.zero_add _).symm
  | cons count counts ih => rw [List.cons_append, total_cons, total_cons, ih, Nat.add_assoc]

end Count

/-- A derived promise and where its sink may be shared: by handlers that wait for
the source, and by the handler of a stream. -/
structure Link where
  derived : Nat
  source : Nat
  stream : Option Nat
  /-- The body that is handed over through the link, if it is one. -/
  body : Option Nat

/-- The objects of a link were made. -/
structure Link.Made (link : Link) (world : World) : Prop where
  derived : link.derived < world.promises.size
  source : link.source < world.promises.size
  stream : ∀ index, link.stream = some index → index < world.accumulators.size

def CompletionHandler.tokens (link : Link) : CompletionHandler → Nat
  | .mapping _ promise | .passing promise => if promise = link.derived then 1 else 0
  | .client _ _ | .logging _ | .aborting _ | .forwarding _ => 0

def ChunkHandler.tokens (link : Link) : ChunkHandler → Nat
  | .collecting collector => if collector.promise = link.derived then 1 else 0
  | .client _ | .logging _ | .forwarding _ => 0

def Registration.tokens (link : Link) (registration : Registration) : Nat :=
  registration.handler.tokens link

def Task.tokens (link : Link) : Task → Nat
  | .dispatch _ _ waiting => Count.total (waiting.map (Registration.tokens link))
  | .register promise handler => if promise = link.source then handler.tokens link else 0
  | .forget handlers => Count.total (handlers.map (CompletionHandler.tokens link))
  | .release promise => if promise = link.derived then 1 else 0
  | .attach accumulator handler | .next accumulator handler =>
      if link.stream = some accumulator then handler.tokens link else 0
  | .discard handler => handler.tokens link
  | _ => 0

def Control.tokens (link : Link) : Control → Nat
  | .task work => work.tokens link
  | _ => 0

def Frame.tokens (link : Link) : Frame → Nat
  | .forgetting handlers => Count.total (handlers.map (CompletionHandler.tokens link))
  | .dispatching _ _ waiting => Count.total (waiting.map (Registration.tokens link))
  | .fed accumulator handler | .fedEnd accumulator handler =>
      if link.stream = some accumulator then handler.tokens link else 0
  | .texting body promise => if promise = link.derived ∧ link.body = some body then 1 else 0
  | _ => 0

/-- The tokens of the handlers that wait for a promise. -/
def Promise.tokens (link : Link) (promise : Promise) : Nat :=
  Count.total (promise.waiting.map (Registration.tokens link))

def Stage.tokens (link : Link) : Stage → Nat
  | .parked handler => handler.tokens link
  | .unattached | .draining | .released => 0

namespace Machine

/-- The tokens on the stack. -/
def stacked (machine : Machine) (link : Link) : Nat :=
  Count.total (machine.stack.map (Frame.tokens link))

/-- The tokens with the source. -/
def awaiting (machine : Machine) (link : Link) : Nat :=
  (machine.world.promise link.source).tokens link

/-- The tokens with the stream. -/
def streaming (machine : Machine) (link : Link) : Nat :=
  match link.stream with
  | none => 0
  | some accumulator => (machine.world.accumulator accumulator).stage.tokens link

/-- The tokens that control does not hold. -/
def rest (machine : Machine) (link : Link) : Nat :=
  machine.stacked link + machine.awaiting link + machine.streaming link

def tokens (machine : Machine) (link : Link) : Nat :=
  machine.control.tokens link + machine.rest link

section Parts

variable (machine : Machine) (link : Link)

@[simp] theorem tokens_turn (task : Task) :
    (machine.turn task).tokens link = task.tokens link + machine.rest link := rfl

@[simp] theorem tokens_reply (reply : Reply) :
    (machine.reply reply).tokens link = machine.rest link := Nat.zero_add _

@[simp] theorem rest_note (entry : Entry) : (machine.note entry).rest link = machine.rest link := rfl

@[simp] theorem rest_log (notice : Notice) : (machine.log notice).rest link = machine.rest link :=
  rfl

@[simp] theorem rest_logs (notices : List Notice) :
    (notices.foldl log machine).rest link = machine.rest link := by
  induction notices generalizing machine with
  | nil => rfl
  | cons notice later ih => exact ih (machine.log notice)

@[simp] theorem rest_push (frame : Frame) :
    (machine.push frame).rest link = frame.tokens link + machine.rest link := by
  change (frame.tokens link + machine.stacked link) + machine.awaiting link +
    machine.streaming link = _
  simp only [rest]
  omega

@[simp] theorem tokens_invoke (invocation : Invocation) :
    (machine.invoke invocation).tokens link = machine.rest link := by
  change 0 + ((machine.note (.invoked invocation)).push (.client invocation)).rest link = _
  simp [Frame.tokens]

@[simp] theorem rest_setBody (index : Nat) (body : Body) :
    (machine.setBody index body).rest link = machine.rest link := rfl

@[simp] theorem rest_setChannel (index : Nat) (channel : Channel) :
    (machine.setChannel index channel).rest link = machine.rest link := rfl

@[simp] theorem rest_setHandler (index : Nat) (handler : Option ChunkHandler) :
    (machine.setHandler index handler).rest link = machine.rest link := rfl

@[simp] theorem rest_countRegistrations (registrations : Nat) :
    (machine.withWorld { machine.world with registrations }).rest link = machine.rest link := rfl

@[simp] theorem rest_countCauses (causes : Nat) :
    (machine.withWorld { machine.world with causes }).rest link = machine.rest link := rfl

theorem rest_setPromise (index : Nat) (promise : Promise) {less more : Nat}
    (kept : index = link.source → (machine.world.promise index).tokens link + less ≤
      promise.tokens link + more)
    (apart : index ≠ link.source → less ≤ more) :
    machine.rest link + less ≤ (machine.setPromise index promise).rest link + more := by
  have waiting : machine.awaiting link + less ≤
      (machine.setPromise index promise).awaiting link + more := by
    rw [awaiting, awaiting, promise_setPromise]
    split
    case isTrue same =>
        rw [same]
        exact kept same.symm
    case isFalse other =>
        have less := apart (Ne.symm other)
        omega
  have stacked : (machine.setPromise index promise).stacked link = machine.stacked link := rfl
  have streaming : (machine.setPromise index promise).streaming link = machine.streaming link := rfl
  simp only [rest, stacked, streaming]
  omega

theorem rest_setAccumulator (index : Nat) (accumulator : Accumulator) {less more : Nat}
    (kept : link.stream = some index →
      (machine.world.accumulator index).stage.tokens link + less ≤
        accumulator.stage.tokens link + more)
    (apart : link.stream ≠ some index → less ≤ more) :
    machine.rest link + less ≤ (machine.setAccumulator index accumulator).rest link + more := by
  have streaming : machine.streaming link + less ≤
      (machine.setAccumulator index accumulator).streaming link + more := by
    by_cases own : link.stream = some index
    · simp only [Machine.streaming, own, accumulator_setAccumulator, if_pos]
      exact kept own
    · have less := apart own
      have same : (machine.setAccumulator index accumulator).streaming link =
          machine.streaming link := by
        cases stream : link.stream with
        | none => simp [Machine.streaming, stream]
        | some other =>
            have other : other ≠ index := fun same => own (same ▸ stream)
            simp [Machine.streaming, stream, accumulator_setAccumulator, other]
      omega
  have stacked : (machine.setAccumulator index accumulator).stacked link = machine.stacked link := rfl
  have awaiting : (machine.setAccumulator index accumulator).awaiting link =
      machine.awaiting link := rfl
  simp only [rest, stacked, awaiting]
  omega

end Parts

end Machine

end Handoff
