import Handoff.Proofs.Courses
import Handoff.Proofs.Promises.Laws
import Handoff.Script.Perform

namespace Handoff.Machine

/-! The dispatch of an outcome.

A settlement stores the outcome and calls the handlers that waited.  While one
of them runs, its client may register more handlers, which are called at once,
or try to settle the promise again, which is refused.  So the handlers that are
left to call are those that are left of the list, whatever a handler does. -/

variable {allow : Machine → Move → Prop} {machine : Machine}

/-- Every handler of a promise was called, or is one of those in `rest`. -/
structure Covers (index : Nat) (rest : List Nat) (machine : Machine) : Prop where
  lawful : (machine.cord index).Lawful
  numbered : (machine.cord index).Numbered
  covered : (machine.cord index).Covered rest

theorem Covers.moved {index : Nat} {rest : List Nat} {before after : Machine}
    (moved : before.Moved after) (covers : before.Covers index rest) : after.Covers index rest where
  lawful := covers.lawful.step (Cord.step_of_moved moved index)
  numbered := covers.numbered.step (Cord.step_of_moved moved index) covers.lawful
  covered := covers.covered.step (Cord.step_of_moved moved index) covers.lawful

theorem ends_covering {index : Nat} {rest : List Nat} {base : List Frame}
    (rises : Rises base machine) (covers : machine.Covers index rest) :
    Ends allow base (Covers index rest) machine :=
  ends_of_kept (fun _ move _ _ _ covers => covers.moved (moved_act _ move)) rises covers

/-- A dispatch that comes back with a reply has called every handler. -/
theorem ends_dispatch {index : Nat} {outcome : Outcome} (waiting : List Registration)
    (working : machine.control = .task (.dispatch index outcome waiting))
    (covers : machine.Covers index (waiting.map Registration.number)) :
    Ends allow machine.stack
      (fun after => ∀ reply, after.control = .reply reply → reply = .ok ∧ after.Covers index [])
      machine := by
  -- Whatever the handler called first does, its frame keeps the list of the others.
  induction waiting generalizing machine with
  | nil =>
      have ticked : machine.tick = machine.reply .ok := by simp [tick, working, perform, dispatch]
      have covers : machine.tick.Covers index [] := covers.moved (moved_tick machine)
      refine ends_tick (by simp [Over, working, Control.isOver]) (by simp [working]) ?_
      rw [ticked] at covers ⊢
      refine ends_of_over ⟨rfl, rfl⟩ fun reply replied => ⟨?_, covers⟩
      exact (Control.reply.inj replied).symm
  | cons registration waiting ih =>
      have ticked : machine.tick = (((machine.note (.told index registration.number outcome)).push
          (.dispatching index outcome waiting)).push (.forgetting [registration.handler])).turn
            (.tell registration.handler outcome) := by
        simp [tick, working, perform, dispatch]
      have rises : Rises (.dispatching index outcome waiting :: machine.stack) machine.tick := by
        simp [ticked]
      have covers : machine.tick.Covers index (waiting.map Registration.number) := by
        obtain ⟨lawful, numbered, settled, covered⟩ := covers.moved (moved_tick machine)
        refine ⟨lawful, numbered, settled, fun number member => ?_⟩
        obtain called | left := covered number member
        · exact .inl called
        · obtain rfl | later := List.mem_cons.mp left
          · exact .inl (by simp [ticked, Cord.called, Cord.look, Cord.leave, Cord.note])
          · exact .inr later
      refine ends_tick (by simp [Over, working, Control.isOver]) (by simp [working]) ?_
      refine ends_frame rises (ends_covering rises covers) ?_ ?_
      · intro below reply bottom replied covers
        rw [← bottom]
        exact ih rfl (covers.moved (.resume replied))
      · intro below message bottom panicking _
        have rises : Rises (.rethrowing message :: machine.stack)
            (below.unwind message (.dispatching index outcome waiting)) := by
          simp [unwind, bottom]
        refine (ends_rethrowing rises).weaken ?_
        rintro after - ⟨message, panicked⟩ reply replied
        rw [panicked] at replied
        cases replied

theorem tick_settle_done {index : Nat} {outcome : Outcome}
    (working : machine.control = .task (.settle index outcome))
    (done : (machine.world.promise index).isDone = true) :
    machine.tick =
      (machine.log (.duplicateRejected outcome.status)).reply (.refused .alreadyCompleted) := by
  obtain ⟨first, stored⟩ := Option.isSome_iff_exists.mp done
  have settled := Promise.outcome?_eq_some.mp stored
  simp [tick, working, perform, settle, settled]

theorem tick_settle_pending {index : Nat} {outcome : Outcome} {waiting : List Registration}
    (working : machine.control = .task (.settle index outcome))
    (pending : (machine.world.promise index).state = .pending waiting) :
    machine.tick.control = .task (.dispatch index outcome waiting) ∧
      machine.tick.stack = machine.stack ∧
      (machine.tick.world.promise index).state = .settled outcome ∧
      (machine.tick.cord index).called = (machine.cord index).called ∧
      machine.tick.registered index = machine.registered index := by
  have ticked : machine.tick = (((machine.setPromise index
      ((machine.world.promise index).settle outcome)).note (.settled index outcome)).log
        (.promiseSettled outcome.status waiting.length)).turn (.dispatch index outcome waiting) := by
    simp [tick, working, perform, settle, pending]
  have past : (machine.tick.cord index).past =
      (machine.cord index).past ++ [.settled index outcome] := by
    simp [ticked, Cord.look, Cord.note, Cord.become]
  have state : (machine.tick.cord index).promise.state = .settled outcome := by
    rw [ticked, cord_turn, cord_log, cord_note, cord_setPromise_own]
    simp [Cord.look, Cord.note, Cord.become, Promise.settle]
  have registered : History.registered (machine.tick.cord index).past =
      History.registered (machine.cord index).past := by
    simp [past]
  exact ⟨by simp [ticked], by simp [ticked], state, by simp [Cord.called, past], registered⟩

/-- When a promise is settled, the dispatch of its outcome to all that waited is the
only one, and nobody was called yet. -/
theorem cord_settle {index : Nat} {outcome : Outcome} {waiting : List Registration}
    (lawful : (machine.cord index).Lawful)
    (working : machine.control = .task (.settle index outcome))
    (pending : (machine.world.promise index).state = .pending waiting) :
    (machine.tick.cord index).dispatches = [(outcome, waiting)] ∧
      (machine.tick.cord index).held = [] ∧ History.told (machine.tick.cord index).past = [] ∧
      History.registered (machine.tick.cord index).past = waiting.map Registration.number := by
  obtain ⟨dispatching, stack, -, called, registered⟩ := tick_settle_pending working pending
  obtain ⟨none, silent, heard⟩ := lawful.pending waiting pending
  have held : (machine.tick.cord index).held = [] := by
    have before : (machine.cord index).held = [] := (List.append_eq_nil_iff.mp none).2
    simpa [cord, stack] using before
  have turn : (machine.tick.cord index).turn = some (outcome, waiting) := by
    simp [cord, dispatching]
  have nobody : (machine.cord index).called = [] := by simp [Cord.called, silent]
  exact ⟨by simp [Cord.dispatches, turn, held], held, List.map_eq_nil_iff.mp (called.trans nobody),
    registered.trans heard⟩

theorem Covers.perm {index : Nat} (covers : machine.Covers index []) :
    ((machine.told index).map Prod.fst).Perm (machine.registered index) := by
  have numbered := covers.numbered
  have called : (machine.cord index).called.Nodup :=
    (List.nodup_append.mp numbered.once).1
  refine (List.perm_ext_iff_of_nodup called numbered.distinct).mpr fun number => ⟨?_, ?_⟩
  · exact fun member => numbered.known number (List.mem_append_left _ member)
  · exact fun member => (covers.covered.covered number member).resolve_right (by simp)

/-- What a settlement of a pending promise brings about.  Its outcome stays, every
later settlement is refused, the handlers that waited are called in the order of
their registration, and once the call has returned everything that is registered
was called. -/
theorem settles_pending {index : Nat} {outcome : Outcome}
    (lawful : (machine.cord index).Lawful) (numbered : (machine.cord index).Numbered)
    (working : machine.control = .task (.settle index outcome))
    (pending : (machine.world.promise index).isDone = false) :
    (machine.tick.world.promise index).outcome? = some outcome ∧
      (∀ later : List Move, (((machine.tick.run later).told index).map Prod.fst).filter
        (· ∈ machine.registered index) <+: machine.registered index) ∧
      ∀ after, Course allow machine.stack machine after → Over machine.stack after →
        ∀ reply, after.control = .reply reply → reply = .ok ∧ ∀ later : List Move,
          (((after.run later).told index).map Prod.fst).Perm ((after.run later).registered index) := by
  have unsettled : (machine.world.promise index).outcome? = none := by
    simpa [Promise.isDone] using pending
  obtain ⟨waiting, state⟩ := Promise.outcome?_eq_none.mp unsettled
  obtain ⟨dispatching, stack, settled, -, registered⟩ := tick_settle_pending working state
  obtain ⟨only, -, silent, -⟩ := cord_settle lawful working state
  obtain ⟨-, -, heard⟩ := lawful.pending waiting state
  have lawful' : (machine.tick.cord index).Lawful := lawful.step (Cord.step_of_moved (moved_tick _) _)
  have numbered' : (machine.tick.cord index).Numbered :=
    numbered.step (Cord.step_of_moved (moved_tick _) _) lawful
  have heard : machine.registered index = waiting.map Registration.number := heard
  have stored : ∃ outcome, (machine.tick.cord index).promise.state = .settled outcome :=
    ⟨outcome, settled⟩
  refine ⟨Promise.outcome?_eq_some.mpr settled, fun later => ?_, ?_⟩
  · have ordered : (machine.tick.cord index).Ordered (machine.registered index) := by
      refine ⟨stored, ?_, [], ?_⟩
      · rw [← registered]
        exact numbered'.counted
      · simp [Cord.called, silent, Cord.awaited, only, heard]
    have ordered := cord_run (fun _ _ step lawful ordered => ordered.step step lawful) lawful'
      ordered later
    obtain ⟨lost, order⟩ := ordered.order
    exact ⟨_, (order.trans (List.append_assoc _ _ _)).symm⟩
  · intro after course ceased reply replied
    have covers : machine.tick.Covers index (waiting.map Registration.number) := by
      refine ⟨lawful', numbered', stored, fun number member => .inr ?_⟩
      rw [← heard, ← registered]
      exact member
    have ends : Ends allow machine.stack (fun after => ∀ reply, after.control = .reply reply →
        reply = .ok ∧ after.Covers index []) machine := by
      refine ends_tick (by simp [Over, working, Control.isOver]) (by simp [working]) ?_
      rw [← stack]
      exact ends_dispatch waiting dispatching covers
    obtain ⟨accepted, covers⟩ := ends after course ceased reply replied
    refine ⟨accepted, fun later => ?_⟩
    exact (run_induction (fun _ _ => Covers.moved) covers later).perm

theorem tick_register {index : Nat} {handler : CompletionHandler} {outcome : Outcome}
    (working : machine.control = .task (.register index handler))
    (stored : (machine.world.promise index).outcome? = some outcome) :
    machine.tick = (((((machine.withWorld { machine.world with
      registrations := machine.world.registrations + 1 }).note
        (.registered index machine.world.registrations)).note
          (.told index machine.world.registrations outcome)).push (.forgetting [handler])).turn
            (.tell handler outcome)) := by
  have settled := Promise.outcome?_eq_some.mp stored
  simp [tick, working, perform, register, settled]

theorem tick_register_done {index : Nat} {handler : CompletionHandler} {outcome : Outcome}
    (working : machine.control = .task (.register index handler))
    (stored : (machine.world.promise index).outcome? = some outcome) :
    machine.tick.told index = machine.told index ++ [(machine.world.registrations, outcome)] ∧
      machine.tick.control = .task (.tell handler outcome) ∧
      machine.tick.stack = .forgetting [handler] :: machine.stack := by
  have ticked := tick_register working stored
  have told : History.told (machine.tick.cord index).past =
      History.told (machine.cord index).past ++ [(machine.world.registrations, outcome)] := by
    simp [ticked, Cord.look, Cord.note, Cord.count, -List.append_assoc]
  exact ⟨told, by simp [ticked], by simp [ticked]⟩

/-- Whoever lets go of the last share of a pending promise is about to cancel it. -/
theorem tick_release_pending {index : Nat} (working : machine.control = .task (.release index))
    (last : (machine.world.promise index).shares ≤ 1)
    (pending : (machine.world.promise index).outcome? = none) :
    machine.tick.control = .task (.settle index (.cancelled false)) ∧
      (machine.tick.world.promise index).outcome? = none := by
  obtain ⟨waiting, state⟩ := Promise.outcome?_eq_none.mp pending
  have ticked : machine.tick = ((machine.setPromise index
      (machine.world.promise index).removeShare).push .dropping).turn
        (.settle index (.cancelled false)) := by
    have still : (machine.world.promise index).removeShare.isDone = false := by
      simp [Promise.isDone, Promise.outcome?, Promise.removeShare, state]
    have gone : (machine.world.promise index).removeShare.shares = 0 :=
      Nat.sub_eq_zero_of_le last
    simp [tick, working, perform, release, gone, still]
  have row : (machine.tick.cord index).promise = (machine.world.promise index).removeShare := by
    simp only [ticked, cord_turn, cord_push, cord_setPromise_own]
    rfl
  refine ⟨by simp [ticked], ?_⟩
  rw [← cord_promise, row]
  exact pending

theorem tick_release_last {index : Nat} (working : machine.control = .task (.release index))
    (last : (machine.world.promise index).shares = 1)
    (pending : (machine.world.promise index).isDone = false) :
    (machine.tick.tick.world.promise index).outcome? = some (.cancelled false) := by
  have unsettled : (machine.world.promise index).outcome? = none := by
    simpa [Promise.isDone] using pending
  obtain ⟨settling, unsettled⟩ := tick_release_pending working (Nat.le_of_eq last) unsettled
  obtain ⟨waiting, state⟩ := Promise.outcome?_eq_none.mp unsettled
  exact Promise.outcome?_eq_some.mpr (tick_settle_pending settling state).2.2.1

/-- A promise is settled once, and tells every handler once.

Every terminal call, of the client or of the library, is the task `settle`; every
registration is the task `register`; and letting go of a sink is the task
`release`.  Whatever happens in between, handlers that call back included: the
first outcome stays; only the first settlement is accepted, and once it has
returned every registered handler was called; no handler is called twice, or
before the settlement, or with another outcome; those that waited are called in
order; one that comes late is called before its registration returns; and a sink
that is dropped before the settlement cancels the promise. -/
theorem settles_once (moves : List Move) (index : Nat) {machine : Machine}
    (reached : initial.run moves = machine) :
    (∀ outcome, (machine.world.promise index).outcome? = some outcome → ∀ later : List Move,
      ((machine.run later).world.promise index).outcome? = some outcome ∧
        ((machine.run later).world.promise index).status = outcome.status ∧
        ((machine.run later).world.promise index).result? = some outcome.result ∧
        ∀ pending, Script.outcomeOr ((machine.run later).world.promise index) pending =
          .outcome outcome.result) ∧
    (∀ outcome, machine.control = .task (.settle index outcome) →
      (machine.world.promise index).isDone = true → machine.tick =
        (machine.log (.duplicateRejected outcome.status)).reply (.refused .alreadyCompleted)) ∧
    (∀ outcome, machine.control = .task (.settle index outcome) →
      (machine.world.promise index).isDone = false →
      (machine.tick.world.promise index).outcome? = some outcome ∧
        (∀ later : List Move, (((machine.tick.run later).told index).map Prod.fst).filter
          (· ∈ machine.registered index) <+: machine.registered index) ∧
        ∀ after, Course (fun _ _ => True) machine.stack machine after → Over machine.stack after →
          ∀ reply, after.control = .reply reply → reply = .ok ∧ ∀ later : List Move,
            (((after.run later).told index).map Prod.fst).Perm
              ((after.run later).registered index)) ∧
    (((machine.told index).map Prod.fst).Nodup ∧
      ∀ call ∈ machine.told index, call.1 ∈ machine.registered index ∧
        (machine.world.promise index).outcome? = some call.2) ∧
    (∀ handler outcome, machine.control = .task (.register index handler) →
      (machine.world.promise index).outcome? = some outcome →
      machine.tick.told index = machine.told index ++ [(machine.world.registrations, outcome)] ∧
        machine.tick.control = .task (.tell handler outcome) ∧
        machine.tick.stack = .forgetting [handler] :: machine.stack) ∧
    (machine.control = .task (.release index) → (machine.world.promise index).shares = 1 →
      (machine.world.promise index).isDone = false →
      (machine.tick.tick.world.promise index).outcome? = some (.cancelled false)) := by
  subst reached
  obtain ⟨lawful, numbered⟩ := cord_laws index moves
  refine ⟨fun outcome stored later => ?_, fun outcome => tick_settle_done,
    fun outcome => settles_pending lawful numbered, ⟨?_, fun call member => ⟨?_, ?_⟩⟩,
    fun handler outcome => tick_register_done, tick_release_last⟩
  · have stays := outcome?_run lawful stored later
    have result : (((initial.run moves).run later).world.promise index).result? =
        some outcome.result := by
      simp [Promise.result?, stays]
    exact ⟨stays, by simp [Promise.status, stays], result, by simp [Script.outcomeOr, result]⟩
  · exact (List.nodup_append.mp numbered.once).1
  · exact numbered.known _ (List.mem_append_left _ (List.mem_map_of_mem member))
  · cases state : ((initial.run moves).world.promise index).state with
    | pending waiting =>
        have silent : (initial.run moves).told index = [] := (lawful.pending waiting state).2.1
        simp [silent] at member
    | settled outcome =>
        rw [(lawful.settled outcome state).2 call member]
        exact Promise.outcome?_eq_some.mpr state

/-- A promise with a handler, about to be settled for the first time. -/
def firstSettlement : List Move :=
  [.call .newPromise, .tick, .call (.listen 0 7 .all), .tick, .tick,
    .call (.settle 0 (.resolved "value"))]

theorem settles_once_first :
    (initial.run firstSettlement).registered 0 = [0] ∧
      ((initial.run firstSettlement).tick.world.promise 0).outcome? = some (.resolved "value") :=
  ⟨by decide, ((settles_once firstSettlement 0 rfl).2.2.1 _ rfl rfl).1⟩

end Handoff.Machine
