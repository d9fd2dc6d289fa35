import Handoff.Proofs.Mappings.Law
import Handoff.Proofs.Promises.Breaking

namespace Handoff.Machine

/-! What a panic of a handler leaves behind.

The handlers that a dispatch has left when a panic arrives are let go one after the
other, and then the panic goes on.  A mapping that waited has the only share in the
sink of its derived future: when it is let go, a derived future that is still pending
is cancelled, whatever became of the source. -/

variable {allow : Machine → Move → Prop} {base : List Frame} {machine after called fallen : Machine}
  {moves : List Move} {derived : Nat} {message : String}

/-- The sink of a derived future has one holder at most, and the client is not it. -/
structure Sole (derived : Nat) (machine : Machine) : Prop where
  made : derived < machine.world.promises.size
  unowned : (machine.world.promise derived).owned = false
  few : (machine.world.promise derived).shares ≤ 1

theorem Sole.kept (sole : Sole derived machine)
    (grown : machine.world.promises.size ≤ after.world.promises.size)
    (shares : (after.backing derived).1 ≤ (machine.backing derived).1)
    (owned : (after.backing derived).2 = (machine.backing derived).2) : Sole derived after :=
  ⟨Nat.lt_of_lt_of_le sole.made grown, owned.trans sole.unowned, Nat.le_trans shares sole.few⟩

theorem backing_tick_settle {outcome : Outcome}
    (working : machine.control = .task (.settle derived outcome)) :
    machine.tick.backing derived = machine.backing derived := by
  have settled : machine.tick = machine.settle derived outcome := by simp [tick, working, perform]
  rw [settled]
  exact (spends_settle derived outcome).backing

theorem backing_tick_release (working : machine.control = .task (.release derived)) :
    machine.tick.backing derived =
      ((machine.world.promise derived).shares - 1, (machine.world.promise derived).owned) := by
  have released : machine.tick = machine.release derived := by simp [tick, working, perform]
  rw [released, backing_release, backing, promise_setPromise, if_pos rfl]
  rfl

theorem Sole.act (sole : Sole derived machine) (reached : machine.Reached) (move : Move) :
    Sole derived (machine.act move) := by
  have grown := (reached.rooted.grown move).promises
  by_cases settling : ∃ outcome, machine.control = .task (.settle derived outcome)
  · obtain ⟨outcome, working⟩ := settling
    rcases act_of_working (fun _ same => by cases working.symm.trans same) move with same | ticked
    · rwa [same]
    · rw [ticked] at grown ⊢
      have backing := backing_tick_settle working
      exact sole.kept grown (by simp [backing]) (by rw [backing])
  · by_cases releasing : machine.control = .task (.release derived)
    · rcases act_of_working (fun _ same => by cases releasing.symm.trans same) move with same | ticked
      · rwa [same]
      · rw [ticked] at grown ⊢
        have backing := backing_tick_release releasing
        exact sole.kept grown (by rw [backing]; exact Nat.sub_le _ _) (by rw [backing]; rfl)
    · have link : Link.Made ⟨derived, derived, none, none⟩ machine.world :=
        ⟨sole.made, sole.made, fun _ own => by cases own⟩
      have standing := standing_act link rfl rfl sole.unowned
        (fun outcome working => settling ⟨outcome, working⟩) releasing move
      simp only [Machine.standing, Prod.mk.injEq] at standing
      exact sole.kept grown (Nat.le_of_eq standing.1) standing.2.2

theorem Sole.run (sole : Sole derived machine) (reached : machine.Reached) (later : List Move) :
    Sole derived (machine.run later) := by
  induction later generalizing machine with
  | nil => exact sole
  | cons move later ih => exact ih (sole.act reached move) (reached.run [move])

theorem Mapped.sole {mapping : Mapping} (mapped : Mapped moves mapping) :
    Sole mapping.derived (initial.run moves) := by
  cases mapped with
  | @call earlier later source function sight cut idle admitted =>
      have begun : (initial.run earlier).act (.call (.map source function)) =
          (initial.run earlier).begin (.map source function) := act_call idle admitted
      have row : ((initial.run earlier).begin (.map source function)).world.promise
          (initial.run earlier).world.promises.size = .inside 1 :=
        (Store.get_add _ _ _).trans (if_pos rfl)
      have first : Sole (initial.run earlier).world.promises.size
          ((initial.run earlier).act (.call (.map source function))) := by
        rw [begun]
        exact ⟨size_map ▸ Nat.lt_succ_self _, congrArg Promise.owned row,
          Nat.le_of_eq (congrArg Promise.shares row)⟩
      have reached : ((initial.run earlier).act (.call (.map source function))).Reached :=
        ⟨earlier ++ [.call (.map source function)], run_append ..⟩
      rw [cut, run_append, run_cons]
      exact first.run reached later

/-- Every mapping that waits for a promise, or is about to, was asked for by the client. -/
structure Asked (moves : List Move) (machine : Machine) : Prop where
  waiting : ∀ index registration function derived,
    registration ∈ (machine.world.promise index).waiting →
      registration.handler = .mapping function derived → Mapped moves ⟨index, function, derived⟩
  registering : ∀ index function derived,
    machine.control = .task (.register index (.mapping function derived)) →
      Mapped moves ⟨index, function, derived⟩

theorem mapped_begin {call : Call} {sight : Sight} {index function : Nat}
    (idle : (initial.run moves).control = .client sight)
    (admitted : (initial.run moves).world.admits call = true)
    (working : ((initial.run moves).begin call).control =
      .task (.register index (.mapping function derived))) :
    Mapped (moves ++ [.call call]) ⟨index, function, derived⟩ := by
  cases call with
  | map source other =>
      obtain ⟨rfl, same⟩ := Task.register.inj (Control.task.inj working)
      obtain ⟨rfl, rfl⟩ := CompletionHandler.mapping.inj same
      exact .call rfl idle admitted
  | newHandler handler => cases handler <;> cases working
  | dropSender body =>
      simp only [begin, leave] at working
      split at working <;> cases working
  | _ => cases working

theorem Asked.act (asked : Asked moves (initial.run moves)) (move : Move) :
    Asked (moves ++ [move]) ((initial.run moves).act move) := by
  have still : Asked (moves ++ [move]) (initial.run moves) :=
    ⟨fun _ _ _ _ member same => (asked.waiting _ _ _ _ member same).more [move],
      fun _ _ _ working => (asked.registering _ _ _ working).more [move]⟩
  have acted := (initial.run moves).acted move
  generalize (initial.run moves).act move = after at acted
  cases acted with
  | rest => exact still
  | tick =>
      refine ⟨fun index registration function derived member same => ?_,
        fun index function derived working => ?_⟩
      · rcases waiting_tick member with earlier | working
        · exact still.waiting _ _ _ _ earlier same
        · exact still.registering _ _ _ (same ▸ working)
      · exact absurd rfl ((registered_tick working).2 function derived)
  | @call _ call idle admitted =>
      refine ⟨fun index registration function derived member same => ?_,
        fun index function derived working => mapped_begin idle admitted working⟩
      rw [waiting_begin call] at member
      exact still.waiting _ _ _ _ member same
  | describe description idle =>
      exact ⟨still.waiting, fun _ _ _ working => by cases idle.symm.trans working⟩
  | answer => exact ⟨still.waiting, fun _ _ _ working => by cases working⟩
  | panic => exact ⟨still.waiting, fun _ _ _ working => by cases working⟩

theorem asked_run (moves : List Move) : Asked moves (initial.run moves) := by
  have first : Asked [] (initial.run []) :=
    ⟨fun _ _ _ _ member => (by cases member), fun _ _ _ working => (by cases working)⟩
  exact past_induction (fun _ move asked => asked.act move) first moves

/-- Whoever maps a future has its derived future's sink to himself. -/
theorem Reached.sole (reached : machine.Reached) {index function : Nat}
    {registration : Registration} (member : registration ∈ (machine.world.promise index).waiting)
    (maps : registration.handler = .mapping function derived) : Sole derived machine := by
  obtain ⟨moves, rfl⟩ := reached
  exact ((asked_run moves).waiting index registration function derived member maps).sole

/-- A mapping that is let go cancels its derived future if that is pending. -/
theorem outcome?_let_go {function : Nat} {others : List CompletionHandler} {later : List Move}
    (reached : machine.Reached) (sole : Sole derived machine)
    (working : machine.control = .task (.forget (.mapping function derived :: others)))
    (left : ∀ task, (machine.run later).control ≠ .task task) :
    ((machine.run later).world.promise derived).outcome? =
      some ((machine.world.promise derived).outcome?.getD (.cancelled false)) := by
  cases stored : (machine.world.promise derived).outcome? with
  | some outcome => exact outcome?_run (reached.lawful derived) stored later
  | none =>
      have forgot : machine.tick = (if others.isEmpty then machine
          else machine.push (.forgetting others)).turn (.release derived) := by
        simp [tick, working, perform, forget]
      have world : machine.tick.world = machine.world := by
        rw [forgot]
        cases others <;> rfl
      have releasing : machine.tick.control = .task (.release derived) := by rw [forgot]; rfl
      obtain ⟨more, same⟩ := run_of_task working (left _)
      rw [same] at left ⊢
      obtain ⟨settling, pending⟩ := tick_release_pending releasing (world ▸ sole.few)
        (world ▸ stored)
      obtain ⟨more, same⟩ := run_of_task releasing (left _)
      rw [same] at left ⊢
      exact outcome?_settling (reached.run [.tick, .tick]) settling pending left

section Unwinding

/-- A panic that meets another stops everything. -/
theorem ends_twice {first : String} (rises : Rises (.rethrowing message :: .rethrowing first :: base)
    machine) : Ends allow base (fun _ => False) machine := by
  have lower := rises.below (List.suffix_cons (.rethrowing message) (.rethrowing first :: base))
  refine ends_frame lower (ends_rethrowing rises) ?_ ?_
  · rintro below reply bottom replied ⟨message, panicking⟩
    cases replied.symm.trans panicking
  · intro below message bottom panicking _
    exact ends_of_stopped rfl

theorem rises_forgetting {handler : CompletionHandler} {others : List CompletionHandler}
    (more : others ≠ []) :
    Rises (.forgetting others :: machine.stack) (machine.forget (handler :: others)) := by
  cases others with
  | nil => exact absurd rfl more
  | cons other others => cases handler <;> simp [forget]

/-- Every handler of a list is let go in its turn, unless another panic stops
everything. -/
theorem lets_go {first last : List CompletionHandler} {handler : CompletionHandler}
    (course : Course allow base machine after) (ceased : Over base after)
    (bottom : machine.stack = .rethrowing message :: base)
    (working : machine.control = .task (.forget (first ++ handler :: last))) :
    ∃ point, Course allow base machine point ∧ Course allow base point after ∧
      point.control = .task (.forget (handler :: last)) := by
  induction first generalizing machine with
  | nil => exact ⟨machine, .start machine, course, working⟩
  | cons other first ih =>
      have ticked : machine.tick = machine.forget (other :: (first ++ handler :: last)) := by
        simp [tick, working, perform]
      have rises : Rises (.forgetting (first ++ handler :: last) :: machine.stack) machine.tick := by
        rw [ticked]
        exact rises_forgetting (by simp)
      obtain ⟨begun, course⟩ := course.tick (fun ceased => by cases working ▸ ceased.2)
        (fun sight same => by cases working.symm.trans same) ceased
      have part : base <:+ machine.stack := bottom ▸ List.suffix_cons _ _
      obtain ⟨below, top, ⟨reply, -, resumed, course⟩ | ⟨again, -, -, course⟩⟩ :=
        course.through ceased rises part
      · obtain ⟨point, onward, course, reached⟩ := ih course (top.trans bottom) rfl
        exact ⟨point, (begun.trans resumed).trans onward, course, reached⟩
      · have twice : Rises (.rethrowing again :: .rethrowing message :: base)
            (below.unwind again (.forgetting (first ++ handler :: last))) :=
          rises_pushed (top.trans bottom)
        exact (ends_twice twice after course ceased).elim

end Unwinding

/-- A mapping is let go at `point`: its derived future keeps the outcome it has there,
and is cancelled if it has none. -/
def Forsakes (handler : CompletionHandler) (point after : Machine) : Prop :=
  ∀ function derived, handler = .mapping function derived →
    (after.world.promise derived).outcome? =
      some ((point.world.promise derived).outcome?.getD (.cancelled false))

theorem Over.left (ceased : Over base machine) (task : Task) : machine.control ≠ .task task := by
  intro working
  have ceased := ceased.2
  rw [working] at ceased
  cases ceased

namespace Breaks

variable {index : Nat} {outcome : Outcome} {waiting rest : List Registration}
  {struck registration : Registration}
  (breaks : Breaks index outcome waiting struck rest message machine called fallen)

include breaks

theorem follows : ∃ moves, machine.run moves = fallen := by
  obtain ⟨before, first⟩ := breaks.course.reached
  obtain ⟨moves, second⟩ := breaks.call.reached
  refine ⟨before ++ .tick :: moves, ?_⟩
  rw [run_append, first]
  exact second

theorem reached (reached : machine.Reached) : fallen.Reached := by
  obtain ⟨moves, same⟩ := breaks.follows
  exact same ▸ reached.run moves

/-- Whoever waited as a mapping has the sink of the derived future to himself. -/
theorem sole (reached : machine.Reached) (member : registration ∈ waiting) {function : Nat}
    (maps : registration.handler = .mapping function derived) (later : List Move) :
    Sole derived (fallen.run later) := by
  obtain ⟨moves, same⟩ := breaks.follows
  have waits : registration ∈ (machine.world.promise index).waiting := by
    simpa [Promise.waiting, breaks.pending] using member
  have sole := (reached.sole waits maps).run reached (moves ++ later)
  rwa [run_append, same] at sole

/-- The handler that panicked is let go first. -/
theorem forsakes (reached : machine.Reached) (member : struck ∈ waiting)
    (course : Course allow machine.stack fallen after) (ceased : Over machine.stack after) :
    Forsakes struck.handler fallen after := by
  intro function derived maps
  have busy : ¬ Over machine.stack fallen := by
    intro early
    have length := congrArg List.length early.1
    simp only [breaks.stack, List.length_cons] at length
    omega
  have working (sight : Sight) : fallen.control ≠ .client sight := by simp [breaks.panicking]
  obtain ⟨later, rfl⟩ := (course.tick busy working ceased).2.reached
  have letting : fallen.tick.control = .task (.forget [.mapping function derived]) := by
    rw [breaks.tick_fallen, maps]
    rfl
  have world : fallen.tick.world = fallen.world := by
    rw [breaks.tick_fallen]
    rfl
  rw [← world]
  exact outcome?_let_go ((breaks.reached reached).run [.tick])
    (breaks.sole reached member maps [.tick]) letting ceased.left

/-- The panic goes on when all that were left were let go. -/
theorem drops (reached : machine.Reached) (part : ∀ registration ∈ rest, registration ∈ waiting)
    (course : Course allow machine.stack fallen after) (ceased : Over machine.stack after) :
    after.control = .panic message ∧ ∀ first dropped last, rest = first ++ dropped :: last →
      ∃ point, Course allow machine.stack fallen point ∧ Course allow machine.stack point after ∧
        point.control = .task (.forget (dropped.handler :: last.map Registration.handler)) ∧
          Forsakes dropped.handler point after := by
  rcases course.split breaks.rises_fallen with ⟨-, risen⟩ | ⟨broke, above, reaches, below⟩
  · have longer := risen.1.length_le
    rw [ceased.1, List.length_cons] at longer
    omega
  · have panicking := breaks.ends_fallen broke above reaches
    have arrives : Course allow machine.stack fallen broke :=
      above.lower breaks.rises_fallen (Nat.lt_succ_self _)
    have ticked := tick_dispatching reaches.1 panicking
    have rises : Rises (.rethrowing message :: machine.stack) broke.tick := by
      rw [ticked]
      exact rises_pushed rfl
    have busy : ¬ Over machine.stack broke := by
      intro done
      have same := reaches.1.symm.trans done.1
      simp at same
    obtain ⟨begun, course⟩ := below.tick busy (by simp [panicking]) ceased
    refine ⟨ends_rethrown rises after course ceased, ?_⟩
    rintro first dropped last rfl
    rw [ticked] at begun course
    obtain ⟨point, onward, course, letting⟩ :=
      @lets_go _ _ _ _ _ (first.map Registration.handler) (last.map Registration.handler)
        dropped.handler course ceased rfl (by simp)
    have arrives := (arrives.trans begun).trans onward
    refine ⟨point, arrives, course, letting, fun function derived maps => ?_⟩
    obtain ⟨before, rfl⟩ := arrives.reached
    obtain ⟨later, rfl⟩ := course.reached
    rw [maps] at letting
    exact outcome?_let_go ((breaks.reached reached).run before)
      (breaks.sole reached (part dropped (by simp)) maps before) letting ceased.left

end Breaks

/-- Whoever comes to a settled promise later on sees its outcome: a look at the promise
shows it, another settlement is refused, and a handler is called with it at once, and
never again. -/
structure Stored (index : Nat) (outcome : Outcome) (machine : Machine) : Prop where
  stored : (machine.world.promise index).outcome? = some outcome
  status : (machine.world.promise index).status = outcome.status
  result : (machine.world.promise index).result? = some outcome.result
  waited : ∀ pending, Script.outcomeOr (machine.world.promise index) pending =
    .outcome outcome.result
  refused : ∀ again, machine.control = .task (.settle index again) → machine.tick =
    (machine.log (.duplicateRejected again.status)).reply (.refused .alreadyCompleted)
  told : ∀ handler, machine.control = .task (.register index handler) →
    machine.tick.control = .task (.tell handler outcome) ∧ ∀ later,
      (machine.tick.run later).callsOf index [machine.world.registrations] =
        [(machine.world.registrations, outcome)]

theorem Reached.keeps {index : Nat} {outcome : Outcome} (reached : machine.Reached)
    (stored : (machine.world.promise index).outcome? = some outcome) :
    Stored index outcome machine := by
  obtain ⟨moves, rfl⟩ := reached
  obtain ⟨lawful, numbered⟩ := cord_laws index moves
  have result : ((initial.run moves).world.promise index).result? = some outcome.result := by
    simp [Promise.result?, stored]
  refine ⟨stored, by simp [Promise.status, stored], result, by simp [Script.outcomeOr, result],
    fun again working => ?_, fun handler working => ⟨?_, ?_⟩⟩
  · exact tick_settle_done working (Option.isSome_iff_exists.mpr ⟨outcome, stored⟩)
  · exact (tick_register_done working stored).2.1
  · exact callsOf_register lawful numbered working stored

/-- The call of a handler ends with a panic while a settlement is dispatched.  The
handlers before it were called once each, in the order of their registration, then it
was called, and those after it never are.  It is let go, then they are, and then the
panic goes on, unless there is another panic on the way.  A mapping that is let go so,
having panicked or without being called, cancels its derived future if that is pending,
whatever the outcome.  The outcome stays all the while, for everybody. -/
theorem dispatch_interrupted {index : Nat} {outcome : Outcome} {waiting rest : List Registration}
    {struck : Registration} (reached : machine.Reached)
    (breaks : Breaks index outcome waiting struck rest message machine called fallen) :
    ∃ earlier, waiting = earlier ++ struck :: rest ∧
      machine.registered index = waiting.map Registration.number ∧
      (∀ later : List Move, (fallen.run later).callsOf index (machine.registered index) =
        (earlier ++ [struck]).map (Registration.call outcome)) ∧
      (∀ after, Course (fun _ _ => True) machine.stack fallen after → Over machine.stack after →
        after.control = .panic message ∧ Forsakes struck.handler fallen after ∧
          ∀ first dropped last, rest = first ++ dropped :: last →
            ∃ point, Course (fun _ _ => True) machine.stack fallen point ∧
              Course (fun _ _ => True) machine.stack point after ∧
              point.control =
                .task (.forget (dropped.handler :: last.map Registration.handler)) ∧
              Forsakes dropped.handler point after) ∧
      ∀ later : List Move, Stored index outcome (machine.tick.run later) := by
  obtain ⟨lawful, numbered⟩ : (machine.cord index).Lawful ∧ (machine.cord index).Numbered := by
    obtain ⟨moves, rfl⟩ := reached
    exact cord_laws index moves
  obtain ⟨earlier, parts⟩ := breaks.parts lawful numbered
  have registered : machine.registered index = waiting.map Registration.number :=
    (lawful.pending waiting breaks.pending).2.2
  refine ⟨earlier, parts, registered, ?_, fun after course ceased => ?_, fun later => ?_⟩
  · rw [registered]
    exact breaks.calls lawful numbered parts
  · have part (registration : Registration) (member : registration ∈ rest) :
        registration ∈ waiting := by
      simp [parts, member]
    obtain ⟨panicked, drops⟩ := breaks.drops reached part course ceased
    exact ⟨panicked, breaks.forsakes reached (by simp [parts]) course ceased, drops⟩
  · have settled := (tick_settle_pending breaks.working breaks.pending).2.2.1
    have next : machine.tick.Reached := reached.run [.tick]
    exact (next.run later).keeps
      (outcome?_run (next.lawful index) (Promise.outcome?_eq_some.mpr settled) later)

/-- A promise with four handlers, the second and the third of which are mappings, about
to be settled. -/
def fourHandlers : List Move :=
  [.call .newPromise, .tick, .call (.listen 0 7 .all), .tick, .tick, .call (.map 0 1)] ++
    .replicate 3 .tick ++ .call (.map 0 2) :: .replicate 3 .tick ++
      [.call (.listen 0 8 .all), .tick, .tick, .call (.settle 0 (.resolved "a"))]

/-- The first handler registers one more, and the function of the second panics. -/
def firstReturns : List Move :=
  .replicate 3 .tick ++ [.call (.listen 0 9 .all), .tick, .tick, .answer .done] ++
    .replicate 3 .tick ++ .answer .done :: .replicate 3 .tick

def secondPanics : List Move :=
  [.tick, .panic "broken", .tick]

def fallenSecond : Machine :=
  ((initial.run fourHandlers).run firstReturns).tick.run secondPanics

def aftermath : Machine :=
  fallenSecond.run (.replicate 16 .tick)

theorem breaks_second : Breaks 0 (.resolved "a")
    [⟨0, .client 7 .all⟩, ⟨1, .mapping 1 1⟩, ⟨2, .mapping 2 2⟩, ⟨3, .client 8 .all⟩]
    ⟨1, .mapping 1 1⟩ [⟨2, .mapping 2 2⟩, ⟨3, .client 8 .all⟩] "broken"
    (initial.run fourHandlers) ((initial.run fourHandlers).run firstReturns) fallenSecond where
  working := rfl
  pending := rfl
  course := course_run _ (by decide) fun _ _ _ => trivial
  bottom := rfl
  turn := rfl
  call := course_run _ (by decide) fun _ _ _ => trivial
  stack := rfl
  panicking := rfl

/-- The promise is resolved, yet both derived futures are cancelled: that of the function
which panicked, and that of the function which was never called. -/
theorem dispatch_interrupted_second :
    fallenSecond.callsOf 0 [0, 1, 2, 3] = [(0, .resolved "a"), (1, .resolved "a")] ∧
      aftermath.control = .panic "broken" ∧
      (aftermath.world.promise 0).outcome? = some (.resolved "a") ∧
      (aftermath.world.promise 1).outcome? = some (.cancelled false) ∧
      (aftermath.world.promise 2).outcome? = some (.cancelled false) := by
  obtain ⟨earlier, parts, registered, calls, ends, -⟩ :=
    dispatch_interrupted ⟨fourHandlers, rfl⟩ breaks_second
  have first : [⟨0, .client 7 .all⟩] = earlier := List.append_cancel_right parts
  have course : Course (fun _ _ => True) (initial.run fourHandlers).stack fallenSecond aftermath :=
    course_ticks 16 (by decide) fun _ => trivial
  obtain ⟨panicked, forsakes, -⟩ := ends aftermath course ⟨rfl, rfl⟩
  have called := calls []
  rw [registered, ← first, run_nil] at called
  exact ⟨called, panicked, rfl, forsakes 1 1 rfl, rfl⟩

end Handoff.Machine
