import Handoff.Proofs.Channels.Reading
import Handoff.Proofs.Mappings.Holding
import Handoff.Proofs.Sessions.Conclusions

namespace Handoff

/-! The stages of a mapping.

The handler that maps a future is registered with its source, waits there, is handed
out with a dispatch, and waits on the stack until its turn comes.  Told of a value, it
calls its function and settles the derived future with what that returns; told of
anything else, it settles the derived future with the same.  Nobody else settles it:
the handler has the one share of its sink, and the client can only cancel it. -/

namespace Outcome

def value? : Outcome → Option String
  | .resolved value => some value
  | _ => none

/-- The outcome of a future that is mapped. -/
def through (apply : String → String) : Outcome → Outcome
  | .resolved value => .resolved (apply value)
  | outcome => outcome

end Outcome

/-- An outcome is on its way: it is dispatched, or a mapping function runs. -/
def Frame.conveys : Frame → Bool
  | .dispatching _ _ _ | .resolving _ => true
  | _ => false

/-- The client is in control, and no outcome is on its way to those who wait for it. -/
structure Machine.Delivered (machine : Machine) : Prop where
  idle : ∃ sight, machine.control = .client sight
  conveyed : ∀ frame ∈ machine.stack, frame.conveys = false

theorem Machine.Delivered.quiet {machine : Machine} {sight : Sight}
    (idle : machine.control = .client sight) (quiet : machine.stack = []) : machine.Delivered :=
  ⟨⟨sight, idle⟩, by simp [quiet]⟩

namespace Mapping

open Machine

variable {mapping : Mapping} {apply : String → String} {once : Prop} {machine : Machine}
  {move : Move} {outcome : Outcome}

/-- The function was called as an outcome of the source asks for. -/
structure Called (mapping : Mapping) (outcome : Outcome) (machine : Machine) : Prop where
  dues : machine.dues mapping.function ≤ outcome.value?.toList.length
  made : outcome.value?.toList <+: machine.arguments mapping.function

/-- Where the handler of a mapping is. -/
inductive Stage (mapping : Mapping) (apply : String → String) (once : Prop) (machine : Machine) :
    Prop where
  | registering (calm : machine.attempts mapping.derived = 0)
      (working : machine.control = .task (.register mapping.source mapping.handler))
  | waiting {number : Nat} (calm : machine.attempts mapping.derived = 0)
      (member : ⟨number, mapping.handler⟩ ∈ (machine.world.promise mapping.source).waiting)
  | turn {outcome : Outcome} {waiting : List Registration} {number : Nat}
      (calm : machine.attempts mapping.derived = 0)
      (working : machine.control = .task (.dispatch mapping.source outcome waiting))
      (member : ⟨number, mapping.handler⟩ ∈ waiting)
      (stored : (machine.world.promise mapping.source).outcome? = some outcome)
  | held {outcome : Outcome} {waiting : List Registration} {number : Nat} {below : List Frame}
      (calm : machine.attempts mapping.derived = 0)
      (part : .dispatching mapping.source outcome waiting :: below <:+ machine.stack)
      (member : ⟨number, mapping.handler⟩ ∈ waiting)
      (stored : (machine.world.promise mapping.source).outcome? = some outcome)
  | told {outcome : Outcome} {below : List Frame} (calm : machine.suspended mapping.derived = 0)
      (working : machine.control = .task (.tell mapping.handler outcome))
      (stack : machine.stack = .forgetting [mapping.handler] :: below)
      (stored : (machine.world.promise mapping.source).outcome? = some outcome)
  | applying {value : String} {below : List Frame} (calm : machine.attempts mapping.derived ≤ 1)
      (part : .client (.mapping mapping.function value) :: .resolving mapping.derived ::
        .forgetting [mapping.handler] :: below <:+ machine.stack)
      (stored : (machine.world.promise mapping.source).outcome? = some (.resolved value))
      (called : once → mapping.Called (.resolved value) machine)
  | applied {value : String} {below : List Frame}
      (working : machine.control = .reply (.value (apply value)))
      (stack : machine.stack = .resolving mapping.derived :: below)
      (stored : (machine.world.promise mapping.source).outcome? = some (.resolved value))
      (called : once → mapping.Called (.resolved value) machine)
  | settling {outcome : Outcome}
      (working : machine.control = .task (.settle mapping.derived (outcome.through apply)))
      (stored : (machine.world.promise mapping.source).outcome? = some outcome)
      (called : once → mapping.Called outcome machine)

/-- The derived future is settled as the source says. -/
def Follows (mapping : Mapping) (apply : String → String) (once : Prop) (machine : Machine) : Prop :=
  ∃ outcome, (machine.world.promise mapping.source).outcome? = some outcome ∧
    (machine.world.promise mapping.derived).outcome? = some (outcome.through apply) ∧
      (once → mapping.Called outcome machine)

/-- The derived future will be settled as the source says, or is. -/
def Keeps (mapping : Mapping) (apply : String → String) (once : Prop) (machine : Machine) : Prop :=
  mapping.Pends once machine ∧ mapping.Stage apply once machine ∨ mapping.Follows apply once machine

theorem Called.act (called : mapping.Called outcome machine)
    (given : move.gives mapping.function = false) : mapping.Called outcome (machine.act move) where
  dues := by
    have dues := machine.dues_act mapping.function move
    rw [given] at dues
    exact Nat.le_trans dues called.dues
  made := by
    have older := List.reverse_prefix.mpr (journal_moved (machine.moved_act move))
    exact called.made.trans (older.filterMap _)

theorem Pends.pending (pends : mapping.Pends once machine) :
    (machine.world.promise mapping.derived).outcome? = none := by
  simpa [Promise.isDone] using pends.row.2.1

/-- The handler has its stake in the derived future while it is in line. -/
theorem stakes_held {promise number : Nat} {waiting : List Registration}
    (member : ⟨number, mapping.handler⟩ ∈ waiting) :
    1 ≤ (Frame.dispatching promise outcome waiting).stakes mapping.derived :=
  Nat.le_trans (Nat.le_of_eq mapping.stakes_handler.symm)
    (Count.le_total (Registration.stakes mapping.derived) member)

theorem suspended_calm (calm : machine.attempts mapping.derived = 0) :
    machine.suspended mapping.derived = 0 := by
  rw [attempts] at calm
  omega

/-! One lemma for each stage. -/

theorem stage_register (calm : machine.attempts mapping.derived = 0)
    (working : machine.control = .task (.register mapping.source mapping.handler)) :
    mapping.Stage apply once machine.tick := by
  have calm := suspended_calm calm
  have ticked : machine.tick = machine.register mapping.source mapping.handler := by
    simp [tick, working, perform]
  cases state : (machine.world.promise mapping.source).state with
  | pending waiting =>
      let registration : Registration := ⟨machine.world.registrations, mapping.handler⟩
      have ticked : machine.tick = (((machine.withWorld { machine.world with
          registrations := machine.world.registrations + 1 }).note
            (.registered mapping.source machine.world.registrations)).setPromise mapping.source
              ((machine.world.promise mapping.source).enqueue registration)).reply .done := by
        rw [ticked]
        simp only [register, state, registration]
      have row : machine.tick.world.promise mapping.source =
          (machine.world.promise mapping.source).enqueue registration := by
        rw [ticked]
        exact (promise_setPromise _ _ _ _).trans (if_pos rfl)
      refine @Stage.waiting mapping apply once _ machine.world.registrations ?_ ?_
      · rw [ticked, attempts_reply]
        exact calm
      · rw [row]
        simp [Promise.enqueue, state, Promise.waiting, registration]
  | settled outcome =>
      have ticked : machine.tick = ((((machine.withWorld { machine.world with
          registrations := machine.world.registrations + 1 }).note
            (.registered mapping.source machine.world.registrations)).note
              (.told mapping.source machine.world.registrations outcome)).push
                (.forgetting [mapping.handler])).turn (.tell mapping.handler outcome) := by
        rw [ticked]
        simp only [register, state]
      rw [ticked]
      exact .told ((Nat.zero_add _).trans calm) rfl rfl (Promise.outcome?_eq_some.mpr state)

theorem stage_dispatch (pends : mapping.Pends once machine) (reached : machine.Reached)
    {waiting : List Registration} {number : Nat} (calm : machine.attempts mapping.derived = 0)
    (working : machine.control = .task (.dispatch mapping.source outcome waiting))
    (member : ⟨number, mapping.handler⟩ ∈ waiting)
    (stored : (machine.world.promise mapping.source).outcome? = some outcome) :
    mapping.Stage apply once machine.tick := by
  have calm := suspended_calm calm
  cases waiting with
  | nil => cases member
  | cons registration waiting =>
      have ticked : machine.tick = (((machine.note (.told mapping.source registration.number
          outcome)).push (.dispatching mapping.source outcome waiting)).push
            (.forgetting [registration.handler])).turn (.tell registration.handler outcome) := by
        simp [tick, working, perform, dispatch]
      rw [ticked]
      rcases List.mem_cons.mp member with rfl | later
      · exact .told ((Nat.zero_add _).trans ((Nat.zero_add _).trans calm)) rfl rfl stored
      · -- The one stake is in the rest of the list, so the handler told has none.
        have free : registration.handler.stakes mapping.derived = 0 := by
          have single := pends.single reached
          have own := Count.le_total (Registration.stakes mapping.derived) later
          have same : Registration.stakes mapping.derived ⟨number, mapping.handler⟩ = 1 :=
            mapping.stakes_handler
          have first : registration.stakes mapping.derived =
            registration.handler.stakes mapping.derived := rfl
          rw [stakes, working] at single
          simp only [Control.stakes, Task.stakes, List.map_cons, Count.total_cons] at single
          omega
        refine .held ?_ (List.suffix_cons _ _) later stored
        rw [attempts_turn]
        simpa [free] using calm

theorem stage_tell (pends : mapping.Pends once machine) {below : List Frame}
    (calm : machine.suspended mapping.derived = 0)
    (working : machine.control = .task (.tell mapping.handler outcome))
    (stack : machine.stack = .forgetting [mapping.handler] :: below)
    (stored : (machine.world.promise mapping.source).outcome? = some outcome) :
    mapping.Stage apply once machine.tick := by
  have spent (own : once) : machine.owed mapping.function = 0 := by
    have few := pends.few own
    have due : mapping.handler.dues mapping.function = 1 := if_pos rfl
    rw [dues, working] at few
    simp only [Control.dues, Task.dues, due] at few
    omega
  have ticked : machine.tick = machine.tell mapping.handler outcome := by
    simp [tick, working, perform]
  cases outcome with
  | resolved value =>
      have ticked : machine.tick = (machine.push (.resolving mapping.derived)).invoke
        (.mapping mapping.function value) := ticked
      have part : .client (.mapping mapping.function value) :: .resolving mapping.derived ::
          .forgetting [mapping.handler] :: below <:+ ((machine.push (.resolving
            mapping.derived)).invoke (.mapping mapping.function value)).stack :=
        stack ▸ List.suffix_refl _
      rw [ticked]
      refine .applying ?_ part stored fun own => ⟨?_, ?_⟩
      · rw [attempts_invoke, suspended_push, calm]
        simp
      · rw [dues_invoke, owed_push, spent own]
        simp [Outcome.value?]
      · have none : machine.arguments mapping.function = [] :=
          List.eq_nil_of_length_eq_zero (by
            have spent := spent own
            rw [owed] at spent
            omega)
        have before : (machine.push (.resolving mapping.derived)).arguments mapping.function = [] :=
          none
        rw [arguments_invoke, before]
        simp [Outcome.value?]
  | failed cause =>
      have ticked : machine.tick = machine.turn (.settle mapping.derived (.failed cause)) := ticked
      rw [ticked]
      exact .settling rfl stored fun own => ⟨Nat.le_of_eq ((Nat.zero_add _).trans (spent own)),
        List.nil_prefix⟩
  | cancelled force =>
      have ticked : machine.tick = machine.turn (.settle mapping.derived (.cancelled force)) :=
        ticked
      rw [ticked]
      exact .settling rfl stored fun own => ⟨Nat.le_of_eq ((Nat.zero_add _).trans (spent own)),
        List.nil_prefix⟩

theorem stage_apply {value : String} {below : List Frame}
    (working : machine.control = .reply (.value (apply value)))
    (stack : machine.stack = .resolving mapping.derived :: below)
    (stored : (machine.world.promise mapping.source).outcome? = some (.resolved value))
    (called : once → mapping.Called (.resolved value) machine) :
    mapping.Stage apply once machine.tick := by
  have ticked : machine.tick = ({ machine with stack := below } : Machine).turn
      (.settle mapping.derived (.resolved (apply value))) := by
    simp [tick, working, stack, resume]
  have called (own : once) : mapping.Called (.resolved value) machine.tick :=
    @Called.act mapping machine .tick _ (called own) rfl
  rw [ticked] at called ⊢
  exact .settling rfl stored called

/-- The settlement is made, whoever hears of it. -/
theorem follows_settle (pends : mapping.Pends once machine) (reached : machine.Reached)
    (working : machine.control = .task (.settle mapping.derived (outcome.through apply)))
    (stored : (machine.world.promise mapping.source).outcome? = some outcome)
    (called : once → mapping.Called outcome machine) : mapping.Follows apply once machine.tick := by
  obtain ⟨waiting, state⟩ := Promise.outcome?_eq_none.mp pends.pending
  have settled := (tick_settle_pending working state).2.2.1
  refine ⟨outcome, ?_, Promise.outcome?_eq_some.mpr settled, fun own => ?_⟩
  · exact outcome?_run (reached.lawful mapping.source) stored [.tick]
  · exact @Called.act mapping machine .tick _ (called own) rfl

theorem Follows.act (follows : mapping.Follows apply once machine) (reached : machine.Reached)
    (given : once → move.gives mapping.function = false) :
    mapping.Follows apply once (machine.act move) := by
  obtain ⟨outcome, source, derived, called⟩ := follows
  exact ⟨outcome, outcome?_run (reached.lawful _) source [move],
    outcome?_run (reached.lawful _) derived [move], fun own => (called own).act (given own)⟩

/-- A handler in line keeps its place until its turn comes. -/
theorem stage_held (pends : mapping.Pends once machine) (reached : machine.Reached)
    (spares : mapping.Spares apply once machine move) {waiting : List Registration} {number : Nat}
    {below : List Frame} (calm : machine.attempts mapping.derived = 0)
    (part : .dispatching mapping.source outcome waiting :: below <:+ machine.stack)
    (member : ⟨number, mapping.handler⟩ ∈ waiting)
    (stored : (machine.world.promise mapping.source).outcome? = some outcome) :
    mapping.Stage apply once (machine.act move) := by
  have resting := resting_part [] part (stakes_held member)
  have calm : (machine.act move).attempts mapping.derived = 0 :=
    Nat.le_zero.mp (calm ▸ pends.rests_act reached spares resting)
  have stored := outcome?_run (reached.lawful mapping.source) stored [move]
  rcases part_act part move with stays | ⟨top, taken⟩
  · exact .held calm stays member stored
  · cases taken with
    | resume reply replied taken => exact .turn calm (taken ▸ rfl) member stored
    | unwind message panicking taken =>
        have whole := spares.whole
        simp only [undivided, panicking, top, bne_self_eq_false, Bool.false_or] at whole
        exact absurd (List.any_eq_true.mpr ⟨_, member, rfl⟩) (by simpa using whole)
    | answer sight invocation reply idle called => cases called
    | panic sight invocation message idle called => cases called

/-- The function runs until it returns its value. -/
theorem stage_run (pends : mapping.Pends once machine) (reached : machine.Reached)
    (spares : mapping.Spares apply once machine move) {value : String} {below : List Frame}
    (calm : machine.attempts mapping.derived ≤ 1)
    (part : .client (.mapping mapping.function value) :: .resolving mapping.derived ::
      .forgetting [mapping.handler] :: below <:+ machine.stack)
    (stored : (machine.world.promise mapping.source).outcome? = some (.resolved value))
    (called : once → mapping.Called (.resolved value) machine) :
    mapping.Stage apply once (machine.act move) := by
  have own : 1 ≤ (Frame.forgetting [mapping.handler]).stakes mapping.derived :=
    Nat.le_of_eq mapping.stakes_handler.symm
  have resting := resting_part [_, _] part own
  have calm := Nat.le_trans (pends.rests_act reached spares resting) calm
  have stored := outcome?_run (reached.lawful mapping.source) stored [move]
  have called (own : once) := (called own).act (spares.given own)
  rcases part_act part move with stays | ⟨top, taken⟩
  · exact .applying calm stays stored called
  · cases taken with
    | resume reply replied taken =>
        have back : (machine.act move).stack = machine.stack := by rw [taken, top]; rfl
        exact .applying calm (back ▸ part) stored called
    | unwind message panicking taken =>
        have back : (machine.act move).stack = machine.stack := by rw [taken, top]; rfl
        exact .applying calm (back ▸ part) stored called
    | answer sight invocation reply idle frame answered accepted taken =>
        obtain rfl := Frame.client.inj frame
        cases reply with
        | value answer =>
            have computed : answer = apply value := by
              simpa [computes, idle, top, answered] using spares.computed
            rw [computed] at taken
            exact .applied (congrArg Machine.control taken) (congrArg Machine.stack taken) stored
              called
        | _ => cases accepted
    | panic sight invocation message idle frame panicked =>
        obtain rfl := Frame.client.inj frame
        have returned := spares.computed
        simp [computes, idle, top, panicked] at returned

/-- Whatever happens, the derived future will be settled as its source, or is. -/
theorem Keeps.act (keeps : mapping.Keeps apply once machine) (reached : machine.Reached)
    (spares : mapping.Spares apply once machine move) :
    mapping.Keeps apply once (machine.act move) := by
  rcases keeps with ⟨pends, stage⟩ | follows
  case inr => exact .inr (follows.act reached spares.given)
  -- A stage in which the library works on the mapping ends with its next step.
  have working (busy : ∀ sight, machine.control ≠ .client sight)
      (next : mapping.Keeps apply once machine.tick) : mapping.Keeps apply once (machine.act move) := by
    rcases act_of_working busy move with same | same
    · rw [same]
      exact .inl ⟨pends, stage⟩
    · rw [same]
      exact next
  have steps (busy : ∀ sight, machine.control ≠ .client sight)
      (unsettled : ∀ outcome, machine.control ≠ .task (.settle mapping.derived outcome))
      (unreleased : machine.control ≠ .task (.release mapping.derived))
      (next : mapping.Stage apply once machine.tick) : mapping.Keeps apply once (machine.act move) :=
    working busy (.inl ⟨@Pends.act mapping once machine .tick pends reached unsettled unreleased
      fun _ => rfl, next⟩)
  have acted (unattempted : machine.control.attempts mapping.derived = 0)
      (resting : 1 ≤ machine.lodged mapping.derived) :
      mapping.Pends once (machine.act move) := by
    refine pends.act reached (fun outcome working => ?_) (pends.unreleased reached resting)
      spares.given
    rw [working] at unattempted
    simp [Control.attempts] at unattempted
  cases stage with
  | registering calm control =>
      exact steps (by simp [control]) (by simp [control]) (by simp [control])
        (stage_register calm control)
  | waiting calm member =>
      have resting := resting_waiting member
      have calm' : (machine.act move).attempts mapping.derived = 0 :=
        Nat.le_zero.mp (calm ▸ pends.rests_act reached spares resting)
      refine .inl ⟨acted (by rw [attempts] at calm; omega) resting, ?_⟩
      rcases waiting_act pends.made.source member move with still | ⟨outcome, waiting, control, handed, stored⟩
      · exact .waiting calm' still
      · exact .turn calm' control handed stored
  | turn calm control member stored =>
      exact steps (by simp [control]) (by simp [control]) (by simp [control])
        (stage_dispatch pends reached calm control member stored)
  | @held outcome waiting number below calm part member stored =>
      have resting := resting_part [] part (stakes_held member)
      exact .inl ⟨acted (by rw [attempts] at calm; omega) resting,
        stage_held pends reached spares calm part member stored⟩
  | told calm control stack stored =>
      exact steps (by simp [control]) (by simp [control]) (by simp [control])
        (stage_tell pends calm control stack stored)
  | @applying value below calm part stored called =>
      have own : 1 ≤ (Frame.forgetting [mapping.handler]).stakes mapping.derived :=
        Nat.le_of_eq mapping.stakes_handler.symm
      have resting := resting_part [_, _] part own
      have unattempted : machine.control.attempts mapping.derived = 0 := by
        obtain ⟨above, whole⟩ := part
        rw [attempts, suspended, ← whole] at calm
        simp only [List.map_append, List.map_cons, Count.total_append, Count.total_cons,
          Frame.attempts, if_true] at calm
        omega
      exact .inl ⟨acted unattempted resting, stage_run pends reached spares calm part stored called⟩
  | applied control stack stored called =>
      exact steps (by simp [control]) (by simp [control]) (by simp [control])
        (stage_apply control stack stored called)
  | settling control stored called =>
      exact working (by simp [control]) (.inr (follows_settle pends reached control stored called))

/-- The function of a mapping that waits was not called. -/
theorem uncalled_waiting {number : Nat} (few : machine.dues mapping.function ≤ 1)
    (member : ⟨number, mapping.handler⟩ ∈ (machine.world.promise mapping.source).waiting) :
    machine.arguments mapping.function = [] := by
  have due : Registration.dues mapping.function ⟨number, mapping.handler⟩ = 1 := if_pos rfl
  have own := Count.le_total (Registration.dues mapping.function) member
  have row : Count.total ((machine.world.promise mapping.source).waiting.map
      (Registration.dues mapping.function)) ≤
        machine.world.promises.weigh (Promise.dues mapping.function) :=
    machine.world.promises.le_weigh (Promise.dues mapping.function) mapping.source rfl
  refine List.eq_nil_of_length_eq_zero ?_
  rw [dues, owed] at few
  omega

theorem Called.arguments (called : mapping.Called outcome machine) :
    machine.arguments mapping.function = outcome.value?.toList := by
  have length : (machine.arguments mapping.function).length ≤ machine.dues mapping.function :=
    Nat.le_trans (Nat.le_add_left _ _) (Nat.le_add_left _ _)
  exact (called.made.eq_of_length_le (Nat.le_trans length called.dues)).symm

/-- When no outcome is on its way, a derived future has the one of its source, and the
function was called if there was a value for it. -/
theorem Keeps.delivered (keeps : mapping.Keeps apply once machine) (delivered : machine.Delivered) :
    (machine.world.promise mapping.derived).outcome? =
        (machine.world.promise mapping.source).outcome?.map (Outcome.through apply) ∧
      (once → machine.arguments mapping.function =
        ((machine.world.promise mapping.source).outcome?.bind Outcome.value?).toList) := by
  obtain ⟨⟨sight, idle⟩, conveyed⟩ := delivered
  rcases keeps with ⟨pends, stage⟩ | ⟨outcome, source, derived, called⟩
  case inr =>
    refine ⟨by rw [derived, source, Option.map_some], fun own => ?_⟩
    rw [source, Option.bind_some]
    exact (called own).arguments
  cases stage with
  | waiting calm member =>
      have source : (machine.world.promise mapping.source).outcome? = none := by
        cases state : (machine.world.promise mapping.source).state with
        | pending waiting => exact Promise.outcome?_eq_none.mpr ⟨waiting, state⟩
        | settled outcome => simp [Promise.waiting, state] at member
      rw [pends.pending, source]
      exact ⟨rfl, fun own => uncalled_waiting (pends.few own) member⟩
  | held calm part member stored => cases conveyed _ (part.mem (List.mem_cons_self ..))
  | applying calm part stored called =>
      cases conveyed (.resolving mapping.derived) (part.mem (by simp))
  | registering calm control => simp [idle] at control
  | turn calm control member stored => simp [idle] at control
  | told calm control stack stored => simp [idle] at control
  | applied control stack stored called => simp [idle] at control
  | settling control stored called => simp [idle] at control

theorem Keeps.run (keeps : mapping.Keeps apply once machine) (reached : machine.Reached)
    {moves : List Move} (spared : ∀ earlier move later, moves = earlier ++ move :: later →
      mapping.Spares apply once (machine.run earlier) move) :
    mapping.Keeps apply once (machine.run moves) := by
  induction moves generalizing machine with
  | nil => exact keeps
  | cons move moves ih =>
      refine ih (keeps.act reached (spared [] move moves rfl)) (reached.run [move]) ?_
      intro earlier next later cut
      exact spared (move :: earlier) next later (congrArg (move :: ·) cut)

/-- Nobody attempts a promise that was not made. -/
theorem suspended_unmade (reached : machine.Reached) {sink : Nat}
    (unmade : machine.world.promises.size ≤ sink) : machine.suspended sink = 0 := by
  obtain ⟨above, stack, inside⟩ := reached.within_made.frames
  refine Count.total_zero _ fun frame member => ?_
  have inside := inside frame (by simpa [stack] using member)
  have other {promise : Nat} (made : promise < machine.world.promises.size) :
      (if promise = sink then 1 else 0) = 0 := if_neg (Nat.ne_of_lt (Nat.lt_of_lt_of_le made unmade))
  cases frame with
  | resolving promise => exact other inside
  | finishing promise value => exact other inside
  | settling promise outcome => exact other inside
  | _ => rfl

/-- A mapping begins with the registration of its handler. -/
theorem keeps_map (reached : machine.Reached) {source function : Nat}
    (admitted : machine.world.admits (.map source function) = true)
    (few : once → machine.dues function = 0) :
    (⟨source, function, machine.world.promises.size⟩ : Mapping).Keeps apply once
      (machine.begin (.map source function)) := by
  have made : source < machine.world.promises.size := by simpa [World.admits] using admitted
  have row : (machine.begin (.map source function)).world.promise machine.world.promises.size =
      .inside 1 := (Store.get_add _ _ _).trans (if_pos rfl)
  refine .inl ⟨⟨⟨?_, ?_, fun _ own => by cases own⟩, fun body known => ?_, ?_, fun own => ?_⟩,
    .registering ?_ rfl⟩
  · exact size_map ▸ Nat.lt_succ_self _
  · exact size_map ▸ Nat.lt_succ_of_lt made
  · exact Nat.ne_of_lt (reached.within_made.world.bodies body ⟨trivial, known⟩).2
  · simp only [Machine.standing, link, row]
    rfl
  · have begun : (machine.begin (.map source function)).dues function ≤ _ := dues_begin admitted
    have none := few own
    have owed : machine.owed function ≤ machine.dues function := Nat.le_add_left _ _
    have given : ((Move.call (.map source function)).gives function).toNat ≤ 1 := Bool.toNat_le _
    exact Nat.le_trans begun (by omega)
  · exact (Nat.zero_add _).trans ((Nat.zero_add _).trans (suspended_unmade reached (Nat.le_refl _)))

end Mapping

end Handoff
