import Handoff.Proofs.Sinks.Tally

namespace Handoff

/-! Stakes in a sink.

Whoever will let go of a share of a sink has a stake in it: a handler that holds the
sink, wherever the handler is, and a task or a frame that is about to let go.  Stakes
are counted over the whole machine, the client apart. -/

namespace Count

theorem total_replicate (count : Nat) : total (List.replicate count 0) = 0 := by
  induction count with
  | zero => rfl
  | succ count ih => rw [List.replicate_succ, total_cons, ih]

theorem total_set {α : Type} (weight : α → Nat) {rows : List α} {index : Nat} (value : α)
    (made : index < rows.length) :
    total ((rows.set index value).map weight) + weight rows[index] =
      total (rows.map weight) + weight value := by
  induction rows generalizing index with
  | nil => cases made
  | cons row rows ih =>
      cases index with
      | zero =>
          simp only [List.set_cons_zero, List.map_cons, total_cons, List.getElem_cons_zero]
          omega
      | succ index =>
          have later := ih (Nat.lt_of_succ_lt_succ made)
          simp only [List.set_cons_succ, List.map_cons, total_cons, List.getElem_cons_succ]
          omega

end Count

namespace Store

variable {α : Type} (weight : α → Nat)

/-- What the rows of a table weigh together. -/
def weigh (store : Store α) : Nat :=
  Count.total (store.rows.map weight)

theorem weigh_add (store : Store α) (value : α) :
    (store.add value).weigh weight = store.weigh weight + weight value := by
  simp [weigh, add]

theorem weigh_set [Inhabited α] (store : Store α) (index : Nat) (value : α)
    (light : weight default = 0) :
    (store.set index value).weigh weight + weight (store.get index) =
      store.weigh weight + weight value := by
  by_cases made : index < store.size
  · have inside : index < store.rows.length := made
    have row : store.get index = store.rows[index] := by
      rw [get, List.getElem?_eq_getElem inside, Option.getD_some]
    rw [row, set, if_pos made]
    exact Count.total_set weight value made
  · rw [store.get_of_size_le (Nat.le_of_not_lt made), light, set, if_neg made]
    simp [weigh, light, Count.total_replicate]

end Store

def CompletionHandler.stakes (sink : Nat) : CompletionHandler → Nat
  | .mapping _ promise | .passing promise => if promise = sink then 1 else 0
  | .client _ _ | .logging _ | .aborting _ | .forwarding _ => 0

def ChunkHandler.stakes (sink : Nat) : ChunkHandler → Nat
  | .collecting collector => if collector.promise = sink then 1 else 0
  | .client _ | .logging _ | .forwarding _ => 0

def Registration.stakes (sink : Nat) (registration : Registration) : Nat :=
  registration.handler.stakes sink

def Task.stakes (sink : Nat) : Task → Nat
  | .dispatch _ _ waiting => Count.total (waiting.map (Registration.stakes sink))
  | .register _ handler => handler.stakes sink
  | .forget handlers => Count.total (handlers.map (CompletionHandler.stakes sink))
  | .release promise => if promise = sink then 1 else 0
  | .attach _ handler | .next _ handler | .discard handler => handler.stakes sink
  | _ => 0

def Control.stakes (sink : Nat) : Control → Nat
  | .task work => work.stakes sink
  | _ => 0

def Frame.stakes (sink : Nat) : Frame → Nat
  | .forgetting handlers => Count.total (handlers.map (CompletionHandler.stakes sink))
  | .dispatching _ _ waiting => Count.total (waiting.map (Registration.stakes sink))
  | .fed _ handler | .fedEnd _ handler | .returning _ handler => handler.stakes sink
  | .texting _ promise | .releasing promise => if promise = sink then 1 else 0
  | _ => 0

def Promise.stakes (sink : Nat) (promise : Promise) : Nat :=
  Count.total (promise.waiting.map (Registration.stakes sink))

def Accumulator.stakes (sink : Nat) (accumulator : Accumulator) : Nat :=
  match accumulator.stage with
  | .parked handler => handler.stakes sink
  | .unattached | .draining | .released => 0

/-- The stakes of a chunk handler in the client's hands. -/
def ChunkHandler.stakes? (sink : Nat) : Option ChunkHandler → Nat
  | none => 0
  | some handler => handler.stakes sink

theorem ChunkHandler.stakes_take {sink : Nat} (handler : ChunkHandler) (bytes : Bytes) :
    (handler.take bytes).stakes sink = handler.stakes sink := by
  cases handler with
  | collecting collector =>
      have same : (collector.take bytes).promise = collector.promise := by
        unfold Collector.take
        repeat' split
        all_goals rfl
      simp [take, stakes, same]
  | _ => rfl

theorem ChunkHandler.stakes_close {sink : Nat} (handler : ChunkHandler) :
    handler.close.stakes sink = handler.stakes sink := by
  cases handler <;> rfl

namespace Machine

/-- The stakes in the tables. -/
def tabled (machine : Machine) (sink : Nat) : Nat :=
  machine.world.promises.weigh (Promise.stakes sink) +
    machine.world.accumulators.weigh (Accumulator.stakes sink) +
      machine.world.handlers.weigh (ChunkHandler.stakes? sink)

/-- The stakes that control does not have. -/
def reserve (machine : Machine) (sink : Nat) : Nat :=
  Count.total (machine.stack.map (Frame.stakes sink)) + machine.tabled sink

def stakes (machine : Machine) (sink : Nat) : Nat :=
  machine.control.stakes sink + machine.reserve sink

section Parts

variable (machine : Machine) (sink : Nat)

@[simp] theorem stakes_turn (task : Task) :
    (machine.turn task).stakes sink = task.stakes sink + machine.reserve sink := rfl

@[simp] theorem stakes_reply (reply : Reply) :
    (machine.reply reply).stakes sink = machine.reserve sink := Nat.zero_add _

@[simp] theorem reserve_note (entry : Entry) :
    (machine.note entry).reserve sink = machine.reserve sink := rfl

@[simp] theorem reserve_log (notice : Notice) :
    (machine.log notice).reserve sink = machine.reserve sink := rfl

@[simp] theorem reserve_logs (notices : List Notice) :
    (notices.foldl log machine).reserve sink = machine.reserve sink := by
  induction notices generalizing machine with
  | nil => rfl
  | cons notice later ih => exact ih (machine.log notice)

@[simp] theorem reserve_push (frame : Frame) :
    (machine.push frame).reserve sink = frame.stakes sink + machine.reserve sink :=
  Nat.add_assoc _ _ _

@[simp] theorem stakes_invoke (invocation : Invocation) :
    (machine.invoke invocation).stakes sink = machine.reserve sink := by
  change 0 + ((machine.note (.invoked invocation)).push (.client invocation)).reserve sink = _
  simp [Frame.stakes]

@[simp] theorem reserve_setBody (index : Nat) (body : Body) :
    (machine.setBody index body).reserve sink = machine.reserve sink := rfl

@[simp] theorem reserve_setChannel (index : Nat) (channel : Channel) :
    (machine.setChannel index channel).reserve sink = machine.reserve sink := rfl

@[simp] theorem reserve_countRegistrations (registrations : Nat) :
    (machine.withWorld { machine.world with registrations }).reserve sink = machine.reserve sink :=
  rfl

theorem reserve_setPromise (index : Nat) (promise : Promise) :
    (machine.setPromise index promise).reserve sink + (machine.world.promise index).stakes sink =
      machine.reserve sink + promise.stakes sink := by
  have weighs := machine.world.promises.weigh_set (Promise.stakes sink) index promise rfl
  simp only [reserve, tabled, setPromise, withWorld, World.setPromise, World.promise]
  omega

theorem reserve_setAccumulator (index : Nat) (accumulator : Accumulator) :
    (machine.setAccumulator index accumulator).reserve sink +
        (machine.world.accumulator index).stakes sink =
      machine.reserve sink + accumulator.stakes sink := by
  have weighs := machine.world.accumulators.weigh_set (Accumulator.stakes sink) index accumulator rfl
  simp only [reserve, tabled, setAccumulator, withWorld, World.setAccumulator, World.accumulator]
  omega

theorem reserve_setHandler (index : Nat) (handler : Option ChunkHandler) :
    (machine.setHandler index handler).reserve sink +
        ChunkHandler.stakes? sink (machine.world.handler? index) =
      machine.reserve sink + ChunkHandler.stakes? sink handler := by
  have weighs := machine.world.handlers.weigh_set (ChunkHandler.stakes? sink) index handler rfl
  simp only [reserve, tabled, setHandler, withWorld, World.setHandler, World.handler?]
  omega

theorem reserve_addPromise (promise : Promise) :
    (machine.withWorld (machine.world.addPromise promise)).reserve sink =
      machine.reserve sink + promise.stakes sink := by
  have weighs := machine.world.promises.weigh_add (Promise.stakes sink) promise
  simp only [reserve, tabled, withWorld, World.addPromise]
  omega

theorem reserve_addAccumulator (accumulator : Accumulator) :
    (machine.withWorld (machine.world.addAccumulator accumulator)).reserve sink =
      machine.reserve sink + accumulator.stakes sink := by
  have weighs := machine.world.accumulators.weigh_add (Accumulator.stakes sink) accumulator
  simp only [reserve, tabled, withWorld, World.addAccumulator]
  omega

theorem reserve_addHandler (handler : ChunkHandler) :
    (machine.withWorld (machine.world.addHandler handler)).reserve sink =
      machine.reserve sink + handler.stakes sink := by
  have weighs := machine.world.handlers.weigh_add (ChunkHandler.stakes? sink) (some handler)
  have same : ChunkHandler.stakes? sink (some handler) = handler.stakes sink := rfl
  simp only [reserve, tabled, withWorld, World.addHandler]
  omega

end Parts

end Machine

end Handoff
