import Handoff.Proofs.Bodies.Births
import Handoff.Proofs.Sinks.Stakes

namespace Handoff

namespace Machine

/-! Every stake is backed by a share.

Each step hands on the stakes of the task or the frame it begins with and makes none.
A stake that ends takes its share with it, and a new one comes with a new share. -/

/-- The shares of a promise, and whether the client has one. -/
def backing (machine : Machine) (sink : Nat) : Nat × Bool :=
  ((machine.world.promise sink).shares, (machine.world.promise sink).owned)

/-- The shares of a sink are as before, and no more stakes than a load and the reserve. -/
structure Spends (sink load : Nat) (machine after : Machine) : Prop where
  backing : after.backing sink = machine.backing sink
  load : after.stakes sink ≤ load + machine.reserve sink

variable {sink : Nat} {machine : Machine}

theorem backing_setPromise (index : Nat) (promise : Promise)
    (kept : index = sink → promise.shares = (machine.world.promise index).shares ∧
      promise.owned = (machine.world.promise index).owned) :
    (machine.setPromise index promise).backing sink = machine.backing sink := by
  simp only [backing, promise_setPromise]
  split
  case isTrue same =>
      obtain ⟨shares, owned⟩ := kept same.symm
      rw [shares, owned, same]
  case isFalse => rfl

theorem backing_logs (machine : Machine) (notices : List Notice) :
    (notices.foldl log machine).backing sink = machine.backing sink := by
  induction notices generalizing machine with
  | nil => rfl
  | cons notice later ih => exact ih (machine.log notice)

theorem spends_settle (index : Nat) (outcome : Outcome) :
    Spends sink 0 machine (machine.settle index outcome) := by
  simp only [settle]
  split
  case h_1 => exact ⟨rfl, by simp⟩
  case h_2 waiting pending =>
      refine ⟨backing_setPromise _ _ fun _ => ⟨rfl, rfl⟩, ?_⟩
      have written := machine.reserve_setPromise sink index
        ((machine.world.promise index).settle outcome)
      have gone : ((machine.world.promise index).settle outcome).stakes sink = 0 := rfl
      have waited : (machine.world.promise index).stakes sink =
          Count.total (waiting.map (Registration.stakes sink)) := by
        simp [Promise.stakes, Promise.waiting, pending]
      simp only [stakes_turn, reserve_log, reserve_note, Task.stakes]
      omega

theorem spends_dispatch (index : Nat) (outcome : Outcome) (waiting : List Registration) :
    Spends sink ((Task.dispatch index outcome waiting).stakes sink) machine
      (machine.dispatch index outcome waiting) := by
  cases waiting with
  | nil => exact ⟨rfl, by simp [dispatch, Task.stakes]⟩
  | cons registration waiting =>
      refine ⟨rfl, ?_⟩
      simp only [dispatch, Task.stakes, Frame.stakes, stakes_turn, reserve_push, reserve_note,
        List.map_cons, Count.total_cons, List.map_nil, Count.total_nil, Registration.stakes]
      omega

theorem spends_tell (handler : CompletionHandler) (outcome : Outcome) :
    Spends sink 0 machine (machine.tell handler outcome) := by
  cases handler with
  | client handler hearing =>
      simp only [tell]
      split
      · exact ⟨rfl, by simp⟩
      · exact ⟨rfl, by simp⟩
  | logging name => exact ⟨rfl, by simp [tell]⟩
  | mapping function derived =>
      cases outcome with
      | resolved value => exact ⟨rfl, by simp [tell, Frame.stakes]⟩
      | _ => exact ⟨rfl, by simp [tell, Task.stakes]⟩
  | forwarding channel => exact ⟨rfl, by simp [tell]⟩
  | _ => cases outcome <;> exact ⟨rfl, by simp [tell, Task.stakes]⟩

theorem spends_register (index : Nat) (handler : CompletionHandler) :
    Spends sink (handler.stakes sink) machine (machine.register index handler) := by
  simp only [register]
  split
  case h_1 waiting pending =>
      let registration : Registration := ⟨machine.world.registrations, handler⟩
      have written := machine.reserve_setPromise sink index
        ((machine.world.promise index).enqueue registration)
      have joined : ((machine.world.promise index).enqueue registration).stakes sink =
          (machine.world.promise index).stakes sink + handler.stakes sink := by
        simp [Promise.stakes, Promise.enqueue, Promise.waiting, pending, Registration.stakes,
          registration]
      refine ⟨backing_setPromise _ _ fun _ => ?_, ?_⟩
      · simp only [Promise.enqueue, pending]
        exact ⟨rfl, rfl⟩
      · rw [stakes_reply]
        change (machine.setPromise index
          ((machine.world.promise index).enqueue registration)).reserve sink ≤ _
        omega
  case h_2 outcome settled =>
      refine ⟨rfl, ?_⟩
      simp [Task.stakes, Frame.stakes]

theorem spends_forget (handlers : List CompletionHandler) :
    Spends sink ((Task.forget handlers).stakes sink) machine (machine.forget handlers) := by
  cases handlers with
  | nil => exact ⟨rfl, by simp [forget, Task.stakes]⟩
  | cons handler later =>
      have held : (if later.isEmpty then machine else machine.push (.forgetting later)).reserve sink =
          Count.total (later.map (CompletionHandler.stakes sink)) + machine.reserve sink := by
        cases later with
        | nil => simp
        | cons first others => exact machine.reserve_push sink (.forgetting (first :: others))
      have backing : (if later.isEmpty then machine
          else machine.push (.forgetting later)).backing sink = machine.backing sink := by
        split <;> rfl
      cases handler with
      | mapping function derived =>
          refine ⟨backing, ?_⟩
          simp only [forget, Task.stakes, stakes_turn, held, List.map_cons, Count.total_cons,
            CompletionHandler.stakes]
          omega
      | passing promise =>
          refine ⟨backing, ?_⟩
          simp only [forget, Task.stakes, stakes_turn, held, List.map_cons, Count.total_cons,
            CompletionHandler.stakes]
          omega
      | _ =>
          refine ⟨backing, ?_⟩
          simp only [forget, Task.stakes, stakes_reply, reserve_setChannel, held, List.map_cons,
            Count.total_cons, CompletionHandler.stakes]
          omega

theorem reserve_sameWaiting (index : Nat) {promise : Promise}
    (same : promise.waiting = (machine.world.promise index).waiting) :
    (machine.setPromise index promise).reserve sink = machine.reserve sink := by
  have written := machine.reserve_setPromise sink index promise
  have stakes : promise.stakes sink = (machine.world.promise index).stakes sink := by
    rw [Promise.stakes, same, ← Promise.stakes]
  omega

theorem stakes_release (machine : Machine) (sink index : Nat) :
    (machine.release index).stakes sink = machine.reserve sink := by
  have left : (machine.setPromise index (machine.world.promise index).removeShare).reserve sink =
      machine.reserve sink := reserve_sameWaiting index rfl
  simp only [release]
  split <;> simp [Task.stakes, Frame.stakes, left]

theorem backing_release (machine : Machine) (sink index : Nat) :
    (machine.release index).backing sink =
      (machine.setPromise index (machine.world.promise index).removeShare).backing sink := by
  simp only [release]
  split <;> rfl

/-! Streams. -/

theorem reserve_sameStage (index : Nat) {accumulator : Accumulator}
    (same : accumulator.stage = (machine.world.accumulator index).stage) :
    (machine.setAccumulator index accumulator).reserve sink = machine.reserve sink := by
  have written := machine.reserve_setAccumulator sink index accumulator
  have stakes : accumulator.stakes sink = (machine.world.accumulator index).stakes sink := by
    rw [Accumulator.stakes, same, ← Accumulator.stakes]
  omega

/-- A row loses its handler, or has none. -/
theorem reserve_emptyStage (index : Nat) {accumulator : Accumulator}
    (empty : accumulator.stakes sink = 0) :
    (machine.setAccumulator index accumulator).reserve sink ≤ machine.reserve sink := by
  have written := machine.reserve_setAccumulator sink index accumulator
  omega

theorem reserve_park (index : Nat) (handler : ChunkHandler) :
    (machine.setAccumulator index ((machine.world.accumulator index).park handler)).reserve sink ≤
      handler.stakes sink + machine.reserve sink := by
  have written := machine.reserve_setAccumulator sink index
    ((machine.world.accumulator index).park handler)
  have parked : ((machine.world.accumulator index).park handler).stakes sink =
      handler.stakes sink := rfl
  omega

theorem spends_deliver (index : Nat) (bytes : Bytes) :
    Spends sink 0 machine (machine.deliver index bytes) := by
  simp only [deliver]
  split
  · exact ⟨rfl, by simp⟩
  · refine ⟨by split <;> rfl, ?_⟩
    have kept : (machine.setAccumulator index
        ((machine.world.accumulator index).enqueue bytes)).reserve sink = machine.reserve sink :=
      reserve_sameStage index rfl
    simp only [stakes_turn, reserve_push, reserve_note, Task.stakes, Frame.stakes]
    split
    · omega
    · simp only [Nat.zero_add]
      exact Nat.le_of_eq kept

theorem spends_attach (index : Nat) (handler : ChunkHandler) :
    Spends sink (handler.stakes sink) machine (machine.attach index handler) := by
  simp only [attach]
  split
  case isTrue attached => exact ⟨rfl, by simp [Task.stakes, Frame.stakes]⟩
  case isFalse unattached =>
      exact ⟨rfl, by simpa [Task.stakes, Frame.stakes] using reserve_park index handler⟩

theorem spends_finish (index : Nat) (ending : Ending) :
    Spends sink 0 machine (machine.finish index ending) := by
  simp only [finish]
  split
  · exact ⟨rfl, by simp⟩
  · refine ⟨rfl, ?_⟩
    have kept : (machine.setAccumulator index
        ((machine.world.accumulator index).close ending)).reserve sink = machine.reserve sink :=
      reserve_sameStage index rfl
    simp [Task.stakes, Frame.stakes, kept]

theorem spends_drain (index : Nat) : Spends sink 0 machine (machine.drain index) := by
  simp only [drain]
  split
  case h_1 handler parked =>
      refine ⟨rfl, ?_⟩
      have written := machine.reserve_setAccumulator sink index
        { machine.world.accumulator index with stage := .draining }
      have stakes : (machine.world.accumulator index).stakes sink = handler.stakes sink := by
        rw [Accumulator.stakes, parked]
      have taken : Accumulator.stakes sink
          { machine.world.accumulator index with stage := .draining } = 0 := rfl
      rw [taken, stakes, Nat.add_zero] at written
      rw [stakes_turn, ← written, Nat.zero_add, Nat.add_comm]
      exact Nat.le_refl _
  all_goals exact ⟨rfl, by simp⟩

theorem spends_letGo (index : Nat) (handler : ChunkHandler) :
    Spends sink (handler.stakes sink) machine (machine.letGo index handler) := by
  refine ⟨rfl, ?_⟩
  have released : (machine.setAccumulator index
      (machine.world.accumulator index).release).reserve sink ≤ machine.reserve sink :=
    reserve_emptyStage index rfl
  simpa [letGo, Task.stakes, Frame.stakes] using released

theorem spends_next (index : Nat) (handler : ChunkHandler) :
    Spends sink (handler.stakes sink) machine (machine.next index handler) := by
  simp only [next]
  split
  case h_1 => exact ⟨rfl, by simpa using reserve_park index handler⟩
  case h_2 bytes later first =>
      refine ⟨rfl, ?_⟩
      have kept : (machine.setAccumulator index
          ((machine.world.accumulator index).dequeue bytes later)).reserve sink =
            machine.reserve sink := reserve_sameStage index rfl
      simp [Task.stakes, Frame.stakes, ChunkHandler.stakes_take, kept]
  case h_3 ending later first =>
      have kept : (machine.setAccumulator index
          { machine.world.accumulator index with queue := later }).reserve sink =
            machine.reserve sink := reserve_sameStage index rfl
      split
      · refine ⟨rfl, ?_⟩
        simp [Task.stakes, Frame.stakes, ChunkHandler.stakes_close, kept]
      · have spends := @spends_letGo sink (machine.setAccumulator index
          { machine.world.accumulator index with queue := later }) index handler
        exact ⟨spends.backing, kept ▸ spends.load⟩

theorem spends_feed (handler : ChunkHandler) (bytes : Bytes) :
    Spends sink 0 machine (machine.feed handler bytes) := by
  cases handler with
  | client handler => exact ⟨rfl, by simp [feed]⟩
  | logging name => exact ⟨rfl, by simp [feed]⟩
  | forwarding channel => exact ⟨rfl, by simp [feed]⟩
  | collecting collector =>
      simp only [feed]
      split
      · exact ⟨rfl, by simp⟩
      · split
        · exact ⟨backing_logs _ _, by simp⟩
        · refine ⟨rfl, ?_⟩
          rw [stakes_turn, reserve_push]
          exact Nat.le_of_eq (Nat.zero_add _)

theorem spends_feedEnd (handler : ChunkHandler) :
    Spends sink 0 machine (machine.feedEnd handler) := by
  cases handler <;> exact ⟨rfl, by simp [feedEnd, Task.stakes]⟩

theorem spends_discard (handler : ChunkHandler) :
    Spends sink (handler.stakes sink) machine (machine.discard handler) := by
  cases handler <;> exact ⟨rfl, by simp [discard, Task.stakes, ChunkHandler.stakes]⟩

theorem spends_abandon {index : Nat} (apart : (machine.world.body index).promise ≠ sink) :
    Spends sink 0 machine (machine.abandon index) := by
  simp only [abandon]
  split <;> exact ⟨rfl, by simp [Task.stakes, Frame.stakes, apart]⟩

/-- A task that does not let go of the sink hands on its stakes. -/
theorem spends_perform {task : Task} (unreleased : task ≠ .release sink)
    (apart : ∀ body, task = .abandon body → (machine.world.body body).promise ≠ sink) :
    Spends sink (task.stakes sink) machine (machine.perform task) := by
  cases task with
  | settle index outcome => exact spends_settle index outcome
  | dispatch index outcome waiting => exact spends_dispatch index outcome waiting
  | tell handler outcome => exact spends_tell handler outcome
  | register index handler => exact spends_register index handler
  | forget handlers => exact spends_forget handlers
  | release index =>
      have other : index ≠ sink := fun same => unreleased (same ▸ rfl)
      refine ⟨?_, ?_⟩
      · exact (machine.backing_release sink index).trans
          (backing_setPromise _ _ fun same => absurd same other)
      · exact (machine.stakes_release sink index).symm ▸ Nat.le_add_left _ _
  | deliver index bytes => exact spends_deliver index bytes
  | attach index handler => exact spends_attach index handler
  | finish index ending => exact spends_finish index ending
  | drain index => exact spends_drain index
  | next index handler => exact spends_next index handler
  | feed handler bytes => exact spends_feed handler bytes
  | feedEnd handler => exact spends_feedEnd handler
  | discard handler => exact spends_discard handler
  | abandon index => exact spends_abandon (apart index rfl)

/-! Frames. -/

theorem spends_leave (index : Nat) {after : Frame} {otherwise : Control}
    (light : after.stakes sink = 0) (free : otherwise.stakes sink = 0) :
    Spends sink 0 machine (machine.leave index after otherwise) := by
  simp only [leave]
  split
  · exact ⟨rfl, by simp [Task.stakes, light]⟩
  · refine ⟨rfl, ?_⟩
    rw [stakes, free]
    exact Nat.le_refl _

/-- What was left with the client comes back. -/
theorem reserve_return (index : Nat) (handler : ChunkHandler) :
    (machine.setHandler index (some handler)).reserve sink ≤
      handler.stakes sink + machine.reserve sink := by
  have written := machine.reserve_setHandler sink index (some handler)
  have kept : ChunkHandler.stakes? sink (some handler) = handler.stakes sink := rfl
  omega

theorem spends_resume (reply : Reply) (frame : Frame) :
    Spends sink (frame.stakes sink) machine (machine.resume reply frame) := by
  cases frame with
  | client invocation =>
      refine ⟨rfl, ?_⟩
      change 0 + (machine.push (.client invocation)).reserve sink ≤ _
      simp [Frame.stakes]
  | replying other => exact ⟨rfl, by simp [resume, Frame.stakes]⟩
  | forgetting handlers => exact ⟨rfl, Nat.le_refl _⟩
  | dispatching promise outcome waiting => exact ⟨rfl, Nat.le_refl _⟩
  | resolving derived => cases reply <;> exact ⟨rfl, by simp [resume, Frame.stakes, Task.stakes]⟩
  | dropping =>
      simp only [resume]
      split <;> exact ⟨rfl, by simp [Frame.stakes]⟩
  | releasing promise => exact ⟨rfl, Nat.le_refl _⟩
  | fed index handler =>
      have kept (wantsEnd : Bool) : (machine.setAccumulator index
          { machine.world.accumulator index with wantsEnd }).reserve sink = machine.reserve sink :=
        reserve_sameStage index rfl
      cases reply <;> exact ⟨rfl, Nat.add_le_add_left (Nat.le_of_eq (kept _)) _⟩
  | fedEnd index handler => exact spends_letGo index handler
  | released => exact ⟨rfl, by simp [resume, Frame.stakes]⟩
  | finishing promise value =>
      simp only [resume]
      split <;> exact ⟨rfl, by simp [Frame.stakes, Task.stakes]⟩
  | settling promise outcome => exact ⟨rfl, by simp [resume, Frame.stakes, Task.stakes]⟩
  | leaving body => exact spends_leave body rfl rfl
  | texting body derived =>
      simp only [resume]
      split <;> exact ⟨rfl, by simp [Frame.stakes, Task.stakes, CompletionHandler.stakes]⟩
  | streaming body channel =>
      simp only [resume]
      split
      · exact ⟨rfl, by simp [Frame.stakes]⟩
      · exact ⟨rfl, by simp [Frame.stakes, Task.stakes, CompletionHandler.stakes]⟩
  | returning index handler =>
      refine ⟨rfl, ?_⟩
      rw [resume, stakes_reply]
      exact reserve_return index handler
  | rethrowing message => exact ⟨rfl, Nat.le_refl _⟩

theorem spends_collapse (index : Nat) (handler : ChunkHandler) (message : String) :
    Spends sink (handler.stakes sink) machine
      (((machine.collapse index).push (.rethrowing message)).turn (.discard handler)) := by
  refine ⟨rfl, ?_⟩
  have collapsed : (machine.setAccumulator index
      (machine.world.accumulator index).collapse).reserve sink ≤ machine.reserve sink :=
    reserve_emptyStage index rfl
  simpa [collapse, Task.stakes, Frame.stakes] using collapsed

theorem spends_unwind {message : String} (panicking : machine.control = .panic message)
    (frame : Frame) : Spends sink (frame.stakes sink) machine (machine.unwind message frame) := by
  have still : machine.stakes sink = machine.reserve sink := by
    rw [stakes, panicking]
    exact Nat.zero_add _
  cases frame with
  | client invocation =>
      refine ⟨rfl, ?_⟩
      change 0 + (machine.push (.client invocation)).reserve sink ≤ _
      simp [Frame.stakes]
  | forgetting handlers => exact ⟨rfl, by simp [unwind, Frame.stakes, Task.stakes]⟩
  | dispatching promise outcome waiting =>
      refine ⟨rfl, ?_⟩
      have same : (CompletionHandler.stakes sink ∘ Registration.handler) =
          Registration.stakes sink := rfl
      simp [unwind, Frame.stakes, Task.stakes, List.map_map, same]
  | fed index handler => exact spends_collapse index handler message
  | fedEnd index handler => exact spends_collapse index handler message
  | releasing promise => exact ⟨rfl, by simp [unwind, Frame.stakes, Task.stakes]⟩
  | leaving body => exact spends_leave body rfl rfl
  | texting body derived => exact ⟨rfl, by simp [unwind, Frame.stakes, Task.stakes]⟩
  | returning index handler =>
      refine ⟨rfl, ?_⟩
      have same : (machine.unwind message (.returning index handler)).stakes sink =
          machine.control.stakes sink + (machine.setHandler index (some handler)).reserve sink := rfl
      rw [same, panicking]
      exact Nat.le_trans (Nat.le_of_eq (Nat.zero_add _)) (reserve_return index handler)
  | rethrowing other => exact ⟨rfl, Nat.le_refl _⟩
  | _ =>
      refine ⟨rfl, ?_⟩
      exact Nat.le_trans (Nat.le_of_eq still) (Nat.le_add_left _ _)

/-! Calls. -/

theorem reserve_hold (machine : Machine) (sink index : Nat) :
    (machine.hold index).reserve sink = machine.reserve sink := by
  simp [hold, Frame.stakes]

theorem reserve_takeHandler (machine : Machine) (sink index : Nat) :
    (machine.takeHandler index).1.stakes sink + (machine.takeHandler index).2.reserve sink =
      machine.reserve sink := by
  have written := machine.reserve_setHandler sink index none
  have taken : (machine.takeHandler index).1.stakes sink =
      ChunkHandler.stakes? sink (machine.world.handler? index) := by
    simp only [takeHandler]
    cases machine.world.handler? index <;> rfl
  have left : (machine.takeHandler index).2 = machine.setHandler index none := rfl
  have none : ChunkHandler.stakes? sink none = 0 := rfl
  rw [taken, left]
  omega

/-! The law. -/

/-- There are no more stakes in a sink than shares of it, the client's among them. -/
def Backed (sink : Nat) (machine : Machine) : Prop :=
  machine.stakes sink + (machine.backing sink).2.toNat ≤ (machine.backing sink).1

variable {after : Machine}

theorem Spends.backed {load : Nat} (spends : Spends sink load machine after)
    (loaded : load + machine.reserve sink + (machine.backing sink).2.toNat ≤
      (machine.backing sink).1) : after.Backed sink := by
  rw [Backed, spends.backing]
  exact Nat.le_trans (Nat.add_le_add_right spends.load _) loaded

/-- Nobody has a stake in a sink before it is made. -/
theorem Backed.unmade (backed : machine.Backed sink) (unmade : machine.world.promises.size ≤ sink) :
    machine.stakes sink = 0 := by
  have row : machine.world.promise sink = default := machine.world.promises.get_of_size_le unmade
  have blank : machine.backing sink = (0, false) := by
    rw [backing, row]
    rfl
  rw [Backed, blank] at backed
  exact Nat.le_zero.mp (Nat.le_trans (Nat.le_add_right _ _) backed)

/-- A new promise comes with a share for each stake. -/
theorem Backed.grows (backed : machine.Backed sink) {promise : Promise} {load : Nat}
    (backing : after.backing sink =
      (machine.withWorld (machine.world.addPromise promise)).backing sink)
    (stakes : after.stakes sink ≤ load + machine.reserve sink)
    (own : machine.world.promises.size = sink → load + promise.owned.toNat ≤ promise.shares)
    (other : machine.world.promises.size ≠ sink → load = 0) : after.Backed sink := by
  have row : (machine.world.addPromise promise).promise sink =
      if sink = machine.world.promises.size then promise else machine.world.promise sink :=
    Store.get_add _ _ _
  have within : machine.reserve sink ≤ machine.stakes sink := Nat.le_add_left _ _
  by_cases made : machine.world.promises.size = sink
  · have free := backed.unmade (Nat.le_of_eq made)
    have enough := own made
    rw [if_pos made.symm] at row
    rw [Backed, backing]
    simp only [Machine.backing, withWorld, row]
    omega
  · have light := other made
    rw [if_neg (Ne.symm made)] at row
    rw [Backed, backing]
    simp only [Backed, Machine.backing, withWorld, row] at *
    omega

theorem Backed.release (backed : machine.Backed sink)
    (working : machine.control = .task (.release sink)) : (machine.release sink).Backed sink := by
  have before : machine.stakes sink = 1 + machine.reserve sink := by
    rw [stakes, working]
    exact congrArg (· + _) (if_pos rfl)
  have row : (machine.setPromise sink (machine.world.promise sink).removeShare).backing sink =
      ((machine.backing sink).1 - 1, (machine.backing sink).2) := by
    simp only [backing, promise_setPromise, if_true]
    rfl
  rw [Backed, before] at backed
  rw [Backed, stakes_release, backing_release, row]
  change machine.reserve sink + (machine.backing sink).2.toNat ≤ (machine.backing sink).1 - 1
  omega

/-- A step without a load that leaves the shares of the sink. -/
theorem Backed.light (backed : machine.Backed sink)
    (backing : after.backing sink = machine.backing sink)
    (stakes : after.stakes sink ≤ machine.reserve sink) : after.Backed sink := by
  have within : machine.reserve sink ≤ machine.stakes sink := Nat.le_add_left _ _
  rw [Backed, backing]
  exact Nat.le_trans (Nat.add_le_add_right (Nat.le_trans stakes within) _) backed

/-- A collector gets a share of its own. -/
theorem Backed.collecting (backed : machine.Backed sink) (charset : Charset) (capacity : Capacity)
    (promise : Nat) : (machine.newHandler (.collecting charset capacity promise)).Backed sink := by
  let collector : ChunkHandler := .collecting (.new charset capacity promise)
  let held := machine.withWorld (machine.world.addHandler collector)
  let shared := held.setPromise promise (machine.world.promise promise).addShare
  have stakes : (shared.reply (.made machine.world.handlers.size)).stakes sink =
      machine.reserve sink + if promise = sink then 1 else 0 := by
    have kept : shared.reserve sink = held.reserve sink := reserve_sameWaiting promise rfl
    rw [stakes_reply, kept]
    exact machine.reserve_addHandler sink collector
  have within : machine.reserve sink ≤ machine.stakes sink := Nat.le_add_left _ _
  change (shared.reply (.made machine.world.handlers.size)).Backed sink
  rw [Backed, stakes]
  by_cases same : promise = sink
  · have row : (shared.reply (.made machine.world.handlers.size)).backing sink =
        ((machine.backing sink).1 + 1, (machine.backing sink).2) := by
      simp only [shared, reply, same, backing, promise_setPromise, if_true]
      rfl
    rw [row, if_pos same]
    simp only [Backed] at backed
    simp only
    omega
  · have row : (shared.reply (.made machine.world.handlers.size)).backing sink =
        machine.backing sink := backing_setPromise _ _ fun own => absurd own same
    rw [row, if_neg same]
    simp only [Backed] at backed
    omega

/-- The client's share goes, and a stake takes its place. -/
theorem Backed.dropSink (backed : machine.Backed sink) (promise : Nat)
    (owned : (machine.world.promise promise).owned = true) :
    (machine.begin (.dropSink promise)).Backed sink := by
  have within : machine.reserve sink ≤ machine.stakes sink := Nat.le_add_left _ _
  have kept : (machine.setPromise promise
      { machine.world.promise promise with owned := false }).reserve sink = machine.reserve sink :=
    reserve_sameWaiting promise rfl
  have stakes : (machine.begin (.dropSink promise)).stakes sink =
      (if promise = sink then 1 else 0) + machine.reserve sink := by
    rw [Machine.begin, stakes_turn, kept]
    rfl
  by_cases same : promise = sink
  · subst same
    have row : (machine.begin (.dropSink promise)).backing promise =
        ((machine.backing promise).1, false) := by
      simp only [Machine.begin, turn, backing, promise_setPromise, if_true]
    have held : (machine.backing promise).2 = true := owned
    rw [Backed, held, Bool.toNat_true] at backed
    rw [Backed, stakes, row, if_pos rfl, Bool.toNat_false]
    omega
  · refine backed.light (backing_setPromise _ _ fun own => absurd own same) (Nat.le_of_eq ?_)
    rw [stakes, if_neg same, Nat.zero_add]

theorem Backed.begin {call : Call} (backed : machine.Backed sink)
    (admitted : machine.world.admits call = true) : (machine.begin call).Backed sink := by
  have added (promise : Promise) (empty : promise.stakes sink = 0) :
      (machine.withWorld (machine.world.addPromise promise)).reserve sink = machine.reserve sink := by
    rw [reserve_addPromise, empty, Nat.add_zero]
  cases call with
  | newPromise =>
      refine @Backed.grows _ _ _ backed .forClient 0 rfl (Nat.le_of_eq ?_) (fun _ => Nat.le_refl _)
        fun _ => rfl
      rw [Machine.begin, stakes_reply, added _ rfl, Nat.zero_add]
  | newSettled outcome =>
      refine @Backed.grows _ _ _ backed (.done outcome) 0 rfl (Nat.le_of_eq ?_)
        (fun _ => Nat.le_refl _) fun _ => rfl
      rw [Machine.begin, stakes_reply, added _ rfl, Nat.zero_add]
  | map promise function =>
      refine @Backed.grows _ _ _ backed (.inside 1)
        (if machine.world.promises.size = sink then 1 else 0) rfl ?_ (fun own => ?_) fun other => ?_
      · rw [Machine.begin, Machine.map, stakes_turn, reserve_push, added _ rfl]
        exact Nat.le_of_eq (congrArg (_ + ·) (Nat.zero_add _))
      · exact Nat.le_of_eq (if_pos own)
      · exact if_neg other
  | text body charset =>
      refine @Backed.grows _ _ _ backed (.inside 2)
        (if machine.world.promises.size = sink then 2 else 0) rfl ?_ (fun own => ?_) fun other => ?_
      · rw [Machine.begin, Machine.text, stakes_turn, reserve_push, added _ rfl]
        change (if machine.world.promises.size = sink then 1 else 0) +
          ((if machine.world.promises.size = sink then 1 else 0) + machine.reserve sink) ≤ _
        split <;> omega
      · exact Nat.le_of_eq (if_pos own)
      · exact if_neg other
  | newBody config =>
      refine @Backed.grows _ _ _ backed (.inside 1) 0 rfl ?_ (fun _ => Nat.zero_le _) fun _ => rfl
      let opened := machine.withWorld (machine.world.addAccumulator (.new config.pendingCeiling))
      have joined : (opened.withWorld (opened.world.addPromise (.inside 1))).reserve sink =
          machine.reserve sink :=
        (opened.reserve_addPromise sink (.inside 1)).trans
          (machine.reserve_addAccumulator sink (.new config.pendingCeiling))
      refine Nat.le_of_eq ?_
      rw [Machine.begin, Machine.newBody, stakes_turn, reserve_push, ← joined]
      exact congrArg (0 + ·) (Nat.zero_add _)
  | dropSink promise => exact backed.dropSink promise admitted
  | newHandler handler =>
      cases handler with
      | collecting charset capacity promise => exact backed.collecting charset capacity promise
      | client number =>
          exact backed.light rfl (by simp [Machine.begin, Machine.newHandler, reserve_addHandler,
            ChunkHandler.stakes])
      | logging name =>
          exact backed.light rfl (by simp [Machine.begin, Machine.newHandler, reserve_addHandler,
            ChunkHandler.stakes])
  | newAccumulator ceiling =>
      exact backed.light rfl (by simp [Machine.begin, reserve_addAccumulator, Accumulator.stakes,
        Accumulator.new])
  | send body bytes =>
      exact backed.light rfl (by simp [Machine.begin, reserve_hold, Task.stakes])
  | complete body value =>
      exact backed.light rfl (by simp [Machine.begin, reserve_hold, Task.stakes, Frame.stakes])
  | fail body outcome =>
      exact backed.light rfl (by simp [Machine.begin, reserve_hold, Task.stakes, Frame.stakes])
  | dropSender body =>
      have spends := @spends_leave sink
        (machine.setBody body { machine.world.body body with owned := false }) body
          (.replying .done) (.reply .done) rfl rfl
      exact backed.light spends.backing (Nat.le_trans spends.load (Nat.le_of_eq (Nat.zero_add _)))
  | chunks body =>
      refine backed.light rfl ?_
      rw [Machine.begin, Machine.chunks, stakes_turn, reserve_push]
      exact Nat.le_of_eq ((Nat.zero_add _).trans (Nat.zero_add _))
  | attach accumulator handler =>
      have taken := machine.reserve_takeHandler sink handler
      exact backed.light rfl (Nat.le_of_eq taken)
  | feed handler bytes =>
      refine backed.light rfl (Nat.le_of_eq ?_)
      rw [← machine.reserve_takeHandler sink handler, Machine.begin, stakes_turn, reserve_push]
      simp only [Task.stakes, Frame.stakes, ChunkHandler.stakes_take, Nat.zero_add]
  | feedEnd handler =>
      refine backed.light rfl (Nat.le_of_eq ?_)
      rw [← machine.reserve_takeHandler sink handler, Machine.begin, stakes_turn, reserve_push,
        reserve_push]
      simp only [Task.stakes, Frame.stakes, ChunkHandler.stakes_close, Nat.zero_add]
  | discard handler =>
      have taken := machine.reserve_takeHandler sink handler
      exact backed.light rfl (Nat.le_of_eq taken)
  | listen promise handler hearing => exact backed.light rfl (Nat.le_of_eq (Nat.zero_add _))
  | log promise name => exact backed.light rfl (Nat.le_of_eq (Nat.zero_add _))
  | poll channel => exact backed.light rfl (Nat.le_of_eq (Nat.zero_add _))
  | dropStream channel => exact backed.light rfl (Nat.le_of_eq (Nat.zero_add _))
  | _ => exact backed.light rfl (Nat.le_of_eq (Nat.zero_add _))

/-- No body is completed through the sink. -/
def Apart (sink : Nat) (machine : Machine) : Prop :=
  ∀ body < machine.world.bodies.size, (machine.world.body body).promise ≠ sink

theorem Backed.frame {below : Machine} {frame : Frame} (backed : (below.push frame).Backed sink)
    (spends : Spends sink (frame.stakes sink) below after) : after.Backed sink := by
  have within : (below.push frame).reserve sink ≤ (below.push frame).stakes sink :=
    Nat.le_add_left _ _
  rw [reserve_push] at within
  exact spends.backed (Nat.le_trans (Nat.add_le_add_right within _) backed)

theorem Backed.moved {before after : Machine} (backed : before.Backed sink)
    (reached : before.Reached) (apart : before.Apart sink) (moved : before.Moved after) :
    after.Backed sink := by
  cases moved with
  | rest => exact backed
  | @perform _ task working =>
      by_cases own : task = .release sink
      · subst own
        exact backed.release working
      · have spends : Spends sink (task.stakes sink) before (before.perform task) := by
          refine spends_perform own fun body same => ?_
          have scope := (reached.rooted.everywhere).control
          rw [working, same] at scope
          exact apart body scope.2
        refine spends.backed ?_
        rw [Backed, stakes, working] at backed
        exact backed
  | resume replied => exact backed.frame (spends_resume _ _)
  | unwind panicking => exact backed.frame (spends_unwind panicking _)
  | surface empty ceased => exact backed.light rfl (Nat.le_of_eq (Nat.zero_add _))
  | begin idle admitted => exact backed.begin admitted
  | describe description idle => exact backed
  | @answer below _ invocation _ idle accepted =>
      exact backed.frame ⟨rfl, Nat.le_refl _⟩
  | @panic below _ invocation _ idle =>
      exact backed.frame ⟨rfl, Nat.le_refl _⟩

/-- A body is completed through the same sink as long as it is. -/
theorem Apart.earlier {before after : Machine} (apart : after.Apart sink)
    (reached : before.Reached) (moved : before.Moved after) : before.Apart sink := by
  intro body made
  obtain ⟨site, rfl, guards⟩ := reached.guarded body made
  have later := guards.moved (reached.handled _) moved
  rw [guards.promise, ← later.promise]
  exact apart site.body later.body_made

/-- Every stake is backed by a share, and so is the client's hold on the sink. -/
theorem Reached.backed (reached : machine.Reached) : machine.Apart sink → machine.Backed sink := by
  obtain ⟨moves, rfl⟩ := reached
  have later (before : Machine) (reached : before.Reached)
      (backed : before.Apart sink → before.Backed sink) :
      (before.run moves).Apart sink → (before.run moves).Backed sink := by
    induction moves generalizing before with
    | nil => exact backed
    | cons move moves ih =>
        have moved := before.moved_act move
        refine ih _ (reached.run [move]) fun apart => ?_
        have earlier := apart.earlier reached moved
        exact (backed earlier).moved reached earlier moved
  exact later initial ⟨[], rfl⟩ fun _ => Nat.le_refl _

/-- A sink in the client's hands has a share. -/
theorem Reached.shares_of_owned (reached : machine.Reached)
    (owned : (machine.world.promise sink).owned = true) :
    0 < (machine.world.promise sink).shares := by
  have apart : machine.Apart sink := by
    rintro body made rfl
    obtain ⟨site, rfl, guards⟩ := reached.guarded body made
    rw [guards.promise, guards.unowned] at owned
    cases owned
  have backed := reached.backed apart
  have held : (machine.backing sink).2 = true := owned
  rw [Backed, held] at backed
  exact Nat.lt_of_lt_of_le (Nat.succ_pos _) backed

end Machine

end Handoff
