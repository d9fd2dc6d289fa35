import Handoff.Proofs.Promises.Dispatch

namespace Handoff

/-! How far a dispatch gets.

A dispatch goes through the handlers that waited, and the handlers it has left are
always an end of their list.  A panic takes the dispatch off the stack with all that
were left, and nobody calls those any more. -/

/-- The call of a registered handler with an outcome. -/
def Registration.call (outcome : Outcome) (registration : Registration) : Nat × Outcome :=
  (registration.number, outcome)

namespace Cord

variable {index : Nat} {cord after : Cord} {outcome : Outcome}
  {waiting told left : List Registration} {numbers : List Nat} {calls : List (Nat × Outcome)}

/-- The calls of the handlers with certain numbers, in order. -/
def callsOf (cord : Cord) (numbers : List Nat) : List (Nat × Outcome) :=
  (History.told cord.past).filter (·.1 ∈ numbers)

/-- The handlers `told` were called with the outcome, and those that are left come
after them. -/
structure Passed (outcome : Outcome) (waiting told left : List Registration) (cord : Cord) :
    Prop where
  parts : waiting = told ++ left
  calls : cord.callsOf (waiting.map Registration.number) = told.map (Registration.call outcome)
  ahead : ∀ dispatch ∈ cord.dispatches, dispatch = (outcome, left)
  begun : cord.held ≠ [] → told ≠ []

/-- A dispatch of the outcome goes through the handlers `waiting`, or went through
some of them. -/
structure Passes (outcome : Outcome) (waiting : List Registration) (cord : Cord) : Prop where
  settled : cord.promise.state = .settled outcome
  counted : ∀ registration ∈ waiting, registration.number < cord.counter
  passed : ∃ told left, cord.Passed outcome waiting told left

@[simp] theorem callsOf_registered {number : Nat} :
    (cord.note (.registered index number)).callsOf numbers = cord.callsOf numbers := by
  simp [callsOf, note]

theorem callsOf_told {number : Nat} :
    (cord.note (.told index number outcome)).callsOf numbers =
      cord.callsOf numbers ++ if number ∈ numbers then [(number, outcome)] else [] := by
  simp only [callsOf, note, History.told_append, List.filter_append]
  by_cases own : number ∈ numbers <;> simp [own]

/-- A handler that comes late has a new number. -/
theorem callsOf_late (counted : ∀ number ∈ numbers, number < cord.counter) :
    ((cord.count.note (.registered index cord.counter)).note
      (.told index cord.counter outcome)).callsOf numbers = cord.callsOf numbers := by
  have apart : cord.counter ∉ numbers := fun member => Nat.lt_irrefl _ (counted _ member)
  rw [callsOf_told, if_neg apart, List.append_nil, callsOf_registered]
  rfl

theorem Passed.tell {registration : Registration} {later : List Registration}
    (passed : cord.Passed outcome waiting told left) (lawful : cord.Lawful)
    (turn : cord.turn = some (outcome, registration :: later)) :
    Passed outcome waiting (told ++ [registration]) later
      (((cord.note (.told index registration.number outcome)).leave
        ((outcome, later) :: cord.held)).look none) := by
  obtain ⟨parts, calls, ahead, -⟩ := passed
  have own := ahead (outcome, registration :: later) (by simp [dispatches, turn])
  obtain rfl : registration :: later = left := congrArg Prod.snd own
  have alone : cord.held = [] := by
    have single := lawful.single
    simpa [dispatches, turn] using single
  have waited : registration.number ∈ waiting.map Registration.number := by simp [parts]
  refine ⟨by simpa using parts, ?_, by simp [dispatches, look, leave, alone], by simp⟩
  have called : (((cord.note (.told index registration.number outcome)).leave
      ((outcome, later) :: cord.held)).look none).callsOf (waiting.map Registration.number) =
        (cord.note (.told index registration.number outcome)).callsOf
          (waiting.map Registration.number) := rfl
  rw [called, callsOf_told, if_pos waited, calls, List.map_append]
  rfl

theorem Passes.step (step : Step index cord after) (lawful : cord.Lawful)
    (passes : cord.Passes outcome waiting) : after.Passes outcome waiting := by
  obtain ⟨settled, counted, told, left, passed⟩ := passes
  have stays := lawful.settled_step step settled
  have ⟨parts, calls, ahead, begun⟩ := passed
  cases step with
  | skip made =>
      exact ⟨stays, fun registration member => Nat.lt_succ_of_lt (counted registration member),
        told, left, parts, calls, ahead, begun⟩
  | settle other waiting idle pending => simp [settled] at pending
  | wait handler waiting idle pending => simp [settled] at pending
  | late other idle state =>
      refine ⟨stays, fun registration member => Nat.lt_succ_of_lt (counted registration member),
        told, left, parts, ?_, ahead, begun⟩
      rw [callsOf_late, calls]
      intro number member
      obtain ⟨registration, waited, rfl⟩ := List.mem_map.mp member
      exact counted registration waited
  | tell registration later other turn =>
      have own := ahead (other, registration :: later) (by simp [dispatches, turn])
      obtain rfl : other = outcome := congrArg Prod.fst own
      exact ⟨stays, counted, _, _, passed.tell lawful turn⟩
  | finish other turn =>
      refine ⟨stays, counted, told, left, parts, calls, fun dispatch member => ?_, begun⟩
      have member : dispatch ∈ cord.held := by simpa [dispatches, look] using member
      exact ahead dispatch (List.mem_append_right _ member)
  | resume dispatch held idle top =>
      refine ⟨stays, counted, told, left, parts, calls, fun other member => ahead other ?_,
        fun _ => begun (by simp [top])⟩
      simpa [dispatches, look, leave, idle, top] using member
  | drop dispatch held idle top =>
      refine ⟨stays, counted, told, left, parts, calls, fun other member => ahead other ?_,
        fun _ => begun (by simp [top])⟩
      have member : other ∈ held := by simpa [dispatches, leave, idle] using member
      simp [dispatches, idle, top, member]
  | _ => exact ⟨stays, counted, told, left, parts, calls, ahead, begun⟩

/-- The calls of certain handlers are over: no dispatch has one of them left. -/
structure Rests (numbers : List Nat) (calls : List (Nat × Outcome)) (cord : Cord) : Prop where
  settled : ∃ outcome, cord.promise.state = .settled outcome
  counted : ∀ number ∈ numbers, number < cord.counter
  spared : ∀ number ∈ cord.awaited, number ∉ numbers
  calls : cord.callsOf numbers = calls

theorem Rests.step (step : Step index cord after) (lawful : cord.Lawful)
    (rests : cord.Rests numbers calls) : after.Rests numbers calls := by
  obtain ⟨⟨stored, settled⟩, counted, spared, called⟩ := rests
  have stays : ∃ outcome, after.promise.state = .settled outcome :=
    ⟨stored, lawful.settled_step step settled⟩
  cases step with
  | skip made =>
      exact ⟨stays, fun number member => Nat.lt_succ_of_lt (counted number member), spared, called⟩
  | settle outcome waiting idle pending => simp [settled] at pending
  | wait handler waiting idle pending => simp [settled] at pending
  | late outcome idle state =>
      exact ⟨stays, fun number member => Nat.lt_succ_of_lt (counted number member), spared,
        (callsOf_late counted).trans called⟩
  | tell registration waiting outcome turn =>
      have apart : registration.number ∉ numbers :=
        spared _ (by simp [awaited, dispatches, turn])
      refine ⟨stays, counted, fun number member => spared number ?_, ?_⟩
      · have member : number ∈ waiting.map Registration.number ++
            cord.held.flatMap (fun dispatch => dispatch.2.map Registration.number) := member
        simp only [awaited, dispatches, turn, Option.toList, List.flatMap_cons,
          List.map_cons, List.cons_append]
        exact List.mem_cons_of_mem _ member
      · rw [← called]
        have told := @callsOf_told index cord outcome numbers registration.number
        rw [if_neg apart, List.append_nil] at told
        exact told
  | finish outcome turn =>
      refine ⟨stays, counted, fun number member => spared number ?_, called⟩
      simpa [awaited, dispatches, look, turn] using member
  | resume dispatch held idle top =>
      refine ⟨stays, counted, fun number member => spared number ?_, called⟩
      simpa [awaited, dispatches, look, leave, idle, top] using member
  | drop dispatch held idle top =>
      refine ⟨stays, counted, fun number member => spared number ?_, called⟩
      have member : number ∈ held.flatMap (fun dispatch => dispatch.2.map Registration.number) := by
        simpa [awaited, dispatches, leave, idle] using member
      simp only [awaited, dispatches, idle, top, Option.toList, List.nil_append, List.flatMap_cons]
      exact List.mem_append_right _ member
  | _ => exact ⟨stays, counted, spared, called⟩

/-- The handlers that a dispatch has left come after those that were called. -/
theorem Passes.busy {other : Outcome} (passes : cord.Passes outcome waiting)
    (busy : (other, left) ∈ cord.dispatches) : ∃ told, cord.Passed outcome waiting told left := by
  obtain ⟨-, -, told, rest, passed⟩ := passes
  obtain rfl : left = rest := congrArg Prod.snd (passed.ahead _ busy)
  exact ⟨told, passed⟩

/-- What a dispatch has left is lost when a panic takes it off the stack. -/
theorem Passed.drop {dispatch : Dispatch} {held : List Dispatch}
    (passed : cord.Passed outcome waiting told left) (lawful : cord.Lawful)
    (settled : cord.promise.state = .settled outcome)
    (counted : ∀ registration ∈ waiting, registration.number < cord.counter)
    (idle : cord.turn = none) (top : cord.held = dispatch :: held) :
    (cord.leave held).Rests (waiting.map Registration.number)
      (told.map (Registration.call outcome)) where
  settled := ⟨outcome, settled⟩
  counted number member := by
    obtain ⟨registration, waited, rfl⟩ := List.mem_map.mp member
    exact counted registration waited
  spared number member := by
    have single := lawful.single
    have alone : held = [] := by simpa [dispatches, idle, top] using single
    simp [awaited, dispatches, leave, idle, alone] at member
  calls := passed.calls

/-- A handler that comes late is called at once. -/
theorem Numbered.late (numbered : cord.Numbered) (settled : cord.promise.state = .settled outcome) :
    ((cord.count.note (.registered index cord.counter)).note
      (.told index cord.counter outcome)).Rests [cord.counter] [(cord.counter, outcome)] := by
  have known (number : Nat) (member : number ∈ cord.called ++ cord.awaited) :
      number ≠ cord.counter :=
    Nat.ne_of_lt (numbered.counted number (numbered.known number member))
  have silent : cord.callsOf [cord.counter] = [] := by
    refine List.filter_eq_nil_iff.mpr fun call member own => ?_
    have called : call.1 ∈ cord.called := List.mem_map_of_mem member
    exact known call.1 (List.mem_append_left _ called) (by simpa using own)
  refine ⟨⟨outcome, settled⟩, by simp [note, count], fun number member own => ?_, ?_⟩
  · exact known number (List.mem_append_right _ member) (List.mem_singleton.mp own)
  · have before : cord.count.callsOf [cord.counter] = [] := silent
    rw [callsOf_told, callsOf_registered, before]
    simp

end Cord

namespace Machine

variable {machine called fallen broke : Machine} {index : Nat} {outcome : Outcome}
  {struck : Registration} {waiting rest : List Registration} {message : String}

/-- The calls of those handlers of a promise that have certain numbers, in order. -/
def callsOf (machine : Machine) (index : Nat) (numbers : List Nat) : List (Nat × Outcome) :=
  (machine.told index).filter (·.1 ∈ numbers)

/-- A settlement of a pending promise comes to the handler `struck`, which has the
handlers `rest` after it, and the call of that handler ends with a panic. -/
structure Breaks (index : Nat) (outcome : Outcome) (waiting : List Registration)
    (struck : Registration) (rest : List Registration) (message : String)
    (machine called fallen : Machine) : Prop where
  working : machine.control = .task (.settle index outcome)
  pending : (machine.world.promise index).state = .pending waiting
  course : Course (fun _ _ => True) machine.stack machine called
  bottom : called.stack = machine.stack
  turn : called.control = .task (.dispatch index outcome (struck :: rest))
  call : Course (fun _ _ => True)
    (.forgetting [struck.handler] :: .dispatching index outcome rest :: machine.stack)
    called.tick fallen
  stack : fallen.stack =
    .forgetting [struck.handler] :: .dispatching index outcome rest :: machine.stack
  panicking : fallen.control = .panic message

/-- When the promise is settled, the dispatch is about to go through all that waited. -/
theorem passes_settle (lawful : (machine.cord index).Lawful)
    (numbered : (machine.cord index).Numbered)
    (working : machine.control = .task (.settle index outcome))
    (pending : (machine.world.promise index).state = .pending waiting) :
    (machine.tick.cord index).Passes outcome waiting := by
  obtain ⟨only, held, silent, registered⟩ := cord_settle lawful working pending
  have numbered' : (machine.tick.cord index).Numbered :=
    numbered.step (Cord.step_of_moved (moved_tick _) _) lawful
  refine ⟨(tick_settle_pending working pending).2.2.1, fun registration member => ?_, [], waiting,
    rfl, by simp [Cord.callsOf, silent], by simp [only], by simp [held]⟩
  refine numbered'.counted _ ?_
  rw [registered]
  exact List.mem_map_of_mem member

namespace Breaks

variable (breaks : Breaks index outcome waiting struck rest message machine called fallen)

include breaks

theorem passes (lawful : (machine.cord index).Lawful) (numbered : (machine.cord index).Numbered)
    (later : List Move) : ((called.run later).cord index).Lawful ∧
      ((called.run later).cord index).Passes outcome waiting := by
  obtain ⟨moves, reached⟩ := breaks.course.reached
  have left : (machine.run moves).control ≠ .task (.settle index outcome) := by
    simp [reached, breaks.turn]
  obtain ⟨more, same⟩ := run_of_task breaks.working left
  have lawful' : (machine.tick.cord index).Lawful :=
    lawful.step (Cord.step_of_moved (moved_tick _) _)
  have first := passes_settle lawful numbered breaks.working breaks.pending
  have later_eq : called.run later = machine.tick.run (more ++ later) := by
    rw [run_append, ← same, reached]
  rw [later_eq]
  exact ⟨cord_run (fun _ _ step lawful _ => lawful.step step) lawful' lawful' _,
    cord_run (fun _ _ step lawful passes => passes.step step lawful) lawful' first _⟩

/-- Where the handler stands among those that waited. -/
theorem parts (lawful : (machine.cord index).Lawful) (numbered : (machine.cord index).Numbered) :
    ∃ earlier, waiting = earlier ++ struck :: rest := by
  obtain ⟨-, passes⟩ := breaks.passes lawful numbered []
  have busy : (outcome, struck :: rest) ∈ (called.cord index).dispatches := by
    simp [Cord.dispatches, cord, breaks.turn]
  obtain ⟨earlier, passed⟩ := passes.busy busy
  exact ⟨earlier, passed.parts⟩

/-- The panic lets go of the handler that was called. -/
theorem tick_fallen : fallen.tick = (({ fallen with
    stack := .dispatching index outcome rest :: machine.stack }).push (.rethrowing message)).turn
      (.forget [struck.handler]) := by
  obtain ⟨world, stack, control, journal⟩ := fallen
  obtain ⟨-, -, -, -, -, -, top, panicking⟩ := breaks
  have top : stack = .forgetting [struck.handler] :: .dispatching index outcome rest ::
    machine.stack := top
  have panicking : control = .panic message := panicking
  subst top panicking
  rfl

/-- The panic arrives at the dispatch. -/
theorem ends_fallen {allow : Machine → Move → Prop} :
    Ends allow (.dispatching index outcome rest :: machine.stack)
      (fun broke => broke.control = .panic message) fallen := by
  have rises : Rises (.rethrowing message :: .dispatching index outcome rest :: machine.stack)
      fallen.tick := by
    rw [breaks.tick_fallen]
    exact rises_turn.mpr (List.suffix_refl _)
  refine ends_tick (fun ceased => ?_) (by simp [breaks.panicking]) (ends_rethrown rises)
  have same := ceased.1
  simp [breaks.stack] at same

theorem rises_fallen : Rises (.dispatching index outcome rest :: machine.stack) fallen :=
  ⟨by simp [breaks.stack], by simp [breaks.panicking]⟩

end Breaks

/-- A panic that arrives at a dispatch takes it off the stack. -/
theorem tick_dispatching {base : List Frame}
    (stack : broke.stack = .dispatching index outcome rest :: base)
    (panicking : broke.control = .panic message) :
    broke.tick = (({ broke with stack := base }).push (.rethrowing message)).turn
      (.forget (rest.map Registration.handler)) := by
  obtain ⟨world, stack, control, journal⟩ := broke
  subst stack panicking
  rfl

/-- From then on nobody who waited is called. -/
theorem callsOf_broken {base : List Frame} {told : List Registration}
    (stack : broke.stack = .dispatching index outcome rest :: base)
    (panicking : broke.control = .panic message) (lawful : (broke.cord index).Lawful)
    (settled : (broke.cord index).promise.state = .settled outcome)
    (counted : ∀ registration ∈ waiting, registration.number < (broke.cord index).counter)
    (passed : (broke.cord index).Passed outcome waiting told rest) (later : List Move) :
    (broke.run later).callsOf index (waiting.map Registration.number) =
      told.map (Registration.call outcome) := by
  have working (sight : Sight) : broke.control ≠ .client sight := by simp [panicking]
  rcases run_of_working working later with same | ⟨more, same⟩
  · rw [same]
    exact passed.calls
  · have idle : (broke.cord index).turn = none := by simp [cord, panicking]
    have held : (broke.cord index).held =
        (outcome, rest) :: base.filterMap (Frame.dispatch? index) := by
      simp [cord, stack]
    have dropped : broke.tick.cord index =
        (broke.cord index).leave (base.filterMap (Frame.dispatch? index)) := by
      rw [tick_dispatching stack panicking, cord_turn, cord_push]
      exact Cord.look_same idle
    have lawful' : (broke.tick.cord index).Lawful :=
      lawful.step (Cord.step_of_moved (moved_tick _) _)
    have rests := passed.drop lawful settled counted idle held
    rw [← dropped] at rests
    rw [same]
    exact (cord_run (fun _ _ step lawful rests => rests.step step lawful) lawful' rests more).calls

/-- The handlers before the one that panicked were called in the order of their
registration, then that one was, and nobody else ever is. -/
theorem Breaks.calls {earlier : List Registration}
    (breaks : Breaks index outcome waiting struck rest message machine called fallen)
    (lawful : (machine.cord index).Lawful) (numbered : (machine.cord index).Numbered)
    (parts : waiting = earlier ++ struck :: rest) (later : List Move) :
    (fallen.run later).callsOf index (waiting.map Registration.number) =
      (earlier ++ [struck]).map (Registration.call outcome) := by
  obtain ⟨moves, reached⟩ := breaks.call.reached
  have kept (more : List Move) : ((fallen.run more).cord index).Lawful ∧
      ((fallen.run more).cord index).Passes outcome waiting := by
    have same : called.run (.tick :: (moves ++ more)) = fallen.run more := by
      rw [run_cons, run_append]
      exact congrArg (Machine.run · more) reached
    exact same ▸ breaks.passes lawful numbered (.tick :: (moves ++ more))
  -- As long as the dispatch is on the stack, it has the same handlers left.
  have passed {after : Machine} (passes : (after.cord index).Passes outcome waiting)
      (held : .dispatching index outcome rest ∈ after.stack) :
      (after.cord index).Passed outcome waiting (earlier ++ [struck]) rest := by
    have busy : (outcome, rest) ∈ (after.cord index).dispatches :=
      List.mem_append_right _ (List.mem_filterMap.mpr ⟨_, held, by simp⟩)
    obtain ⟨told, passed⟩ := passes.busy busy
    have same : told ++ rest = earlier ++ [struck] ++ rest := by
      rw [← passed.parts, parts, List.append_assoc, List.singleton_append]
    exact List.append_cancel_right same ▸ passed
  rcases run_split breaks.rises_fallen later with rises | ⟨between, more, above, ceased, same⟩
  · exact (passed (kept later).2 (rises.1.subset (List.mem_cons_self ..))).calls
  · obtain ⟨before, reached⟩ := above.reached
    obtain ⟨lawful, passes⟩ := reached ▸ kept before
    have panicking := breaks.ends_fallen between above ceased
    rw [same]
    exact callsOf_broken ceased.1 panicking lawful passes.settled passes.counted
      (passed passes (ceased.1 ▸ List.mem_cons_self ..)) more

/-- A handler that is registered with a settled promise is called once, and at once. -/
theorem callsOf_register {handler : CompletionHandler} (lawful : (machine.cord index).Lawful)
    (numbered : (machine.cord index).Numbered)
    (working : machine.control = .task (.register index handler))
    (stored : (machine.world.promise index).outcome? = some outcome) (later : List Move) :
    (machine.tick.run later).callsOf index [machine.world.registrations] =
      [(machine.world.registrations, outcome)] := by
  have settled := Promise.outcome?_eq_some.mp stored
  have idle : (machine.cord index).turn = none := by simp [cord, working]
  have noted : machine.tick.cord index = ((machine.cord index).count.note
      (.registered index machine.world.registrations)).note
        (.told index machine.world.registrations outcome) := by
    have away : (((machine.cord index).count.note (.registered index
        machine.world.registrations)).note (.told index machine.world.registrations
          outcome)).turn = none := idle
    have ticked := congrArg (Machine.cord · index) (tick_register working stored)
    simpa [Cord.look_same away] using ticked
  have rests := @Cord.Numbered.late index _ _ numbered settled
  rw [cord_counter, ← noted] at rests
  have lawful' : (machine.tick.cord index).Lawful :=
    lawful.step (Cord.step_of_moved (moved_tick _) _)
  exact (cord_run (fun _ _ step lawful rests => rests.step step lawful) lawful' rests later).calls

end Machine

end Handoff
