import Handoff.Proofs.Promises.Steps

namespace Handoff

/-! What holds of every promise.

An outcome stays once it is stored.  A handler is either waiting, or in a
dispatch, or was called, or was lost when a panic took a dispatch off the stack;
a number is never in two of these places. -/

namespace Promise

theorem outcome?_eq_some {promise : Promise} {outcome : Outcome} :
    promise.outcome? = some outcome ↔ promise.state = .settled outcome := by
  cases state : promise.state <;> simp [outcome?, state]

theorem outcome?_eq_none {promise : Promise} :
    promise.outcome? = none ↔ ∃ waiting, promise.state = .pending waiting := by
  cases state : promise.state <;> simp [outcome?, state]

end Promise

namespace Cord

variable {index : Nat} {cord after : Cord}

/-- The dispatches under way, innermost first. -/
def dispatches (cord : Cord) : List Dispatch :=
  cord.turn.toList ++ cord.held

/-- The handlers that are still to be called by a dispatch. -/
def awaited (cord : Cord) : List Nat :=
  cord.dispatches.flatMap fun dispatch => dispatch.2.map Registration.number

def called (cord : Cord) : List Nat :=
  (History.told cord.past).map Prod.fst

/-- Where the handlers of a promise are. -/
structure Lawful (cord : Cord) : Prop where
  unmade : ¬ cord.made → cord.promise.state = .pending [] ∧ cord.past = [] ∧ cord.dispatches = []
  pending : ∀ waiting, cord.promise.state = .pending waiting → cord.dispatches = [] ∧
    History.told cord.past = [] ∧
      History.registered cord.past = waiting.map Registration.number
  settled : ∀ outcome, cord.promise.state = .settled outcome →
    (∀ dispatch ∈ cord.dispatches, dispatch.1 = outcome) ∧
      ∀ call ∈ History.told cord.past, call.2 = outcome
  single : cord.dispatches.length ≤ 1

theorem Lawful.made (lawful : cord.Lawful) {outcome : Outcome}
    (settled : cord.promise.state = .settled outcome) : cord.made := by
  by_cases made : cord.made
  · exact made
  · simp [(lawful.unmade made).1] at settled

theorem Lawful.settled_of_busy (lawful : cord.Lawful) {dispatch : Dispatch}
    (busy : dispatch ∈ cord.dispatches) :
    cord.made ∧ ∃ outcome, cord.promise.state = .settled outcome := by
  cases state : cord.promise.state with
  | settled outcome => exact ⟨lawful.made state, outcome, rfl⟩
  | pending waiting =>
      rw [(lawful.pending waiting state).1] at busy
      cases busy

theorem Lawful.waits {waiting : List Registration} (made : cord.made)
    (state : cord.promise.state = .pending waiting) (idle : cord.dispatches = [])
    (silent : History.told cord.past = [])
    (same : History.registered cord.past = waiting.map Registration.number) : cord.Lawful where
  unmade fresh := absurd made fresh
  pending other found := by
    obtain rfl : waiting = other := by simpa [state] using found
    exact ⟨idle, silent, same⟩
  settled outcome found := by simp [state] at found
  single := by simp [idle]

theorem Lawful.spreads {outcome : Outcome} (made : cord.made)
    (state : cord.promise.state = .settled outcome)
    (given : ∀ dispatch ∈ cord.dispatches, dispatch.1 = outcome)
    (told : ∀ call ∈ History.told cord.past, call.2 = outcome)
    (single : cord.dispatches.length ≤ 1) : cord.Lawful where
  unmade fresh := absurd made fresh
  pending waiting found := by simp [state] at found
  settled other found := by
    obtain rfl : outcome = other := by simpa [state] using found
    exact ⟨given, told⟩
  single := single

theorem Lawful.step (step : Step index cord after) (lawful : cord.Lawful) : after.Lawful := by
  have busy := @lawful.settled_of_busy
  obtain ⟨unmade, pending, settled, single⟩ := lawful
  cases step with
  | still made => exact ⟨fun fresh => unmade fun was => fresh (.inl was), pending, settled, single⟩
  | skip made => exact ⟨fun fresh => unmade fun was => fresh (.inl was), pending, settled, single⟩
  | make promise fresh unheard =>
      obtain ⟨-, empty, idle⟩ := unmade fresh
      have silent : History.told cord.past = [] := by rw [empty]; rfl
      have unregistered : History.registered cord.past = [] := by rw [empty]; rfl
      cases state : promise.state with
      | pending waiting =>
          have nobody : waiting = [] := by simpa [Promise.waiting, state] using unheard
          exact .waits trivial state idle silent (by simpa [nobody, become] using unregistered)
      | settled outcome =>
          refine .spreads trivial state (fun dispatch member => ?_) (fun call member => ?_) single
          · have member : dispatch ∈ cord.dispatches := member
            simp [idle] at member
          · have member : call ∈ History.told cord.past := member
            simp [silent] at member
  | share promise same =>
      exact ⟨fun fresh => absurd trivial fresh,
        fun waiting state => pending waiting (same.symm.trans state),
        fun outcome state => settled outcome (same.symm.trans state), single⟩
  | settle outcome waiting idle state =>
      obtain ⟨none, silent, -⟩ := pending waiting state
      have held : cord.held = [] := by simpa [dispatches, idle] using none
      exact .spreads trivial rfl (by simp [dispatches, look, note, become, held])
        (by simp [look, note, become, silent]) (by simp [dispatches, look, note, become, held])
  | wait handler waiting idle state =>
      obtain ⟨none, silent, same⟩ := pending waiting state
      have enqueued : (cord.promise.enqueue ⟨cord.counter, handler⟩).state =
          .pending (waiting ++ [⟨cord.counter, handler⟩]) := by
        simp only [Promise.enqueue, state]
      exact .waits trivial enqueued none (by simp [become, note, count, silent])
        (by simp [become, note, count, same])
  | late outcome idle state =>
      have made : cord.made := by
        by_cases made : cord.made
        · exact made
        · simp [(unmade made).1] at state
      obtain ⟨given, told⟩ := settled outcome state
      refine .spreads made state given (fun call member => ?_) single
      simp only [note, count, History.told_append, List.mem_append] at member
      rcases member with (earlier | clash) | late
      · exact told call earlier
      · simp at clash
      · obtain rfl : call = (cord.counter, outcome) := by simpa using late
        rfl
  | tell registration waiting outcome turn =>
      have top : (outcome, registration :: waiting) ∈ cord.dispatches := by simp [dispatches, turn]
      obtain ⟨made, stored, state⟩ := busy top
      obtain ⟨given, told⟩ := settled stored state
      obtain rfl : outcome = stored := given _ top
      refine .spreads made state (fun dispatch member => ?_) (fun call member => ?_) ?_
      · simp only [dispatches, look, leave, Option.toList, List.nil_append, List.mem_cons] at member
        rcases member with rfl | below
        · rfl
        · exact given dispatch (by simp [dispatches, below])
      · simp only [look, leave, note, History.told_append, List.mem_append] at member
        rcases member with earlier | last
        · exact told call earlier
        · obtain rfl : call = (registration.number, outcome) := by simpa using last
          rfl
      · simpa [dispatches, turn, look, leave] using single
  | finish outcome turn =>
      have top : (outcome, []) ∈ cord.dispatches := by simp [dispatches, turn]
      obtain ⟨made, stored, state⟩ := busy top
      obtain ⟨given, told⟩ := settled stored state
      refine .spreads made state (fun dispatch member => given dispatch ?_) told ?_
      · have member : dispatch ∈ cord.held := by simpa [dispatches, look] using member
        simp [dispatches, member]
      · simp only [dispatches, turn, Option.toList, List.singleton_append, List.length_cons] at single
        simp only [dispatches, look, Option.toList, List.nil_append]
        omega
  | resume dispatch held idle top =>
      have same : ((cord.leave held).look (some dispatch)).dispatches = cord.dispatches := by
        simp [dispatches, look, leave, idle, top]
      have member : dispatch ∈ cord.dispatches := by simp [dispatches, top]
      obtain ⟨made, stored, state⟩ := busy member
      obtain ⟨given, told⟩ := settled stored state
      exact .spreads made state (by rw [same]; exact given) told (by rw [same]; exact single)
  | drop dispatch held idle top =>
      have same : cord.dispatches = dispatch :: (cord.leave held).dispatches := by
        simp [dispatches, leave, idle, top]
      rw [same] at busy single
      obtain ⟨made, stored, state⟩ := busy (List.mem_cons_self ..)
      obtain ⟨given, told⟩ := settled stored state
      rw [same] at given
      refine .spreads made state (fun other member => given other (List.mem_cons_of_mem _ member))
        told ?_
      rw [List.length_cons] at single
      omega

theorem Lawful.settled_step (lawful : cord.Lawful) (step : Step index cord after)
    {outcome : Outcome} (settled : cord.promise.state = .settled outcome) :
    after.promise.state = .settled outcome := by
  cases step with
  | make promise fresh unheard => exact absurd (lawful.made settled) fresh
  | share promise same => exact same.trans settled
  | settle other waiting idle pending => simp [settled] at pending
  | wait handler waiting idle pending => simp [settled] at pending
  | _ => exact settled

/-- No registration is called twice. -/
structure Numbered (cord : Cord) : Prop where
  counted : ∀ number ∈ History.registered cord.past, number < cord.counter
  distinct : (History.registered cord.past).Nodup
  once : (cord.called ++ cord.awaited).Nodup
  known : ∀ number ∈ cord.called ++ cord.awaited, number ∈ History.registered cord.past

theorem Numbered.fewer (numbered : cord.Numbered) (counter : after.counter = cord.counter)
    (heard : History.registered after.past = History.registered cord.past)
    (part : (after.called ++ after.awaited).Sublist (cord.called ++ cord.awaited)) :
    after.Numbered where
  counted := by
    rw [heard, counter]
    exact numbered.counted
  distinct := heard ▸ numbered.distinct
  once := part.nodup numbered.once
  known := by
    intro number member
    rw [heard]
    exact numbered.known number (part.subset member)

theorem Numbered.more (numbered : cord.Numbered) (counter : after.counter = cord.counter + 1)
    (heard : History.registered after.past = History.registered cord.past ++ [cord.counter])
    (once : (after.called ++ after.awaited).Nodup)
    (place : ∀ number ∈ after.called ++ after.awaited,
      number ∈ cord.called ++ cord.awaited ∨ number = cord.counter) : after.Numbered where
  counted := by
    intro number member
    rw [heard, List.mem_append, List.mem_singleton] at member
    obtain earlier | rfl := member
    · have bound := numbered.counted number earlier
      omega
    · omega
  distinct := by
    rw [heard, List.nodup_append]
    refine ⟨numbered.distinct, by simp, ?_⟩
    intro number earlier other last
    have bound := numbered.counted number earlier
    rw [List.mem_singleton] at last
    omega
  once := once
  known := by
    intro number member
    rw [heard, List.mem_append, List.mem_singleton]
    exact (place number member).imp_left (numbered.known number)

theorem Numbered.step (step : Step index cord after) (lawful : cord.Lawful)
    (numbered : cord.Numbered) : after.Numbered := by
  have ⟨counted, distinct, once, known⟩ := numbered
  have unknown : cord.counter ∉ cord.called ++ cord.awaited :=
    fun member => Nat.lt_irrefl _ (counted _ (known _ member))
  cases step with
  | still made => exact ⟨counted, distinct, once, known⟩
  | share promise same => exact ⟨counted, distinct, once, known⟩
  | skip made => exact ⟨fun number member => Nat.lt_succ_of_lt (counted number member), distinct,
      once, known⟩
  | make promise new unheard => exact ⟨counted, distinct, once, known⟩
  | settle outcome waiting idle state =>
      obtain ⟨none, silent, same⟩ := lawful.pending _ state
      have handed : ((((cord.become (cord.promise.settle outcome)).note
          (.settled index outcome)).look (some (outcome, waiting))).called ++
            (((cord.become (cord.promise.settle outcome)).note
              (.settled index outcome)).look (some (outcome, waiting))).awaited) =
          History.registered cord.past := by
        have held : cord.held = [] := by simpa [dispatches, idle] using none
        simp [called, awaited, dispatches, look, note, become, silent, held, same]
      refine ⟨by simpa [look, note, become] using counted,
        by simpa [look, note, become] using distinct, ?_, ?_⟩
      · rw [handed]
        exact distinct
      · rw [handed]
        simp [look, note, become]
  | wait handler waiting idle state =>
      have called : ((cord.count.note (.registered index cord.counter)).become
          (cord.promise.enqueue ⟨cord.counter, handler⟩)).called = cord.called := by
        simp [Cord.called, become, note, count]
      refine numbered.more rfl (by simp [become, note, count]) ?_ ?_
      · rw [called]
        exact once
      · rw [called]
        exact fun number member => .inl member
  | late outcome idle state =>
      have called : ((cord.count.note (.registered index cord.counter)).note
          (.told index cord.counter outcome)).called = cord.called ++ [cord.counter] := by
        simp [Cord.called, note, count, -List.append_assoc]
      have awaited : ((cord.count.note (.registered index cord.counter)).note
          (.told index cord.counter outcome)).awaited = cord.awaited := rfl
      refine numbered.more rfl (by simp [note, count, -List.append_assoc]) ?_ ?_
      · rw [called, awaited, List.append_assoc, List.singleton_append]
        exact (List.perm_middle.nodup_iff).mpr (List.nodup_cons.mpr ⟨unknown, once⟩)
      · rw [called, awaited]
        intro number member
        simp only [List.mem_append, List.mem_singleton] at member ⊢
        obtain (earlier | last) | later := member
        · exact .inl (.inl earlier)
        · exact .inr last
        · exact .inl (.inr later)
  | tell registration waiting outcome turn =>
      refine numbered.fewer rfl (by simp [note, leave, look]) ?_
      simp [called, awaited, dispatches, look, note, leave, turn]
  | finish outcome turn =>
      refine numbered.fewer rfl rfl ?_
      simp [called, awaited, dispatches, look, turn]
  | resume dispatch held idle top =>
      refine numbered.fewer rfl rfl ?_
      simp [called, awaited, dispatches, look, leave, idle, top]
  | drop dispatch held idle top =>
      refine numbered.fewer rfl rfl ?_
      simp [called, awaited, dispatches, leave, idle, top]

theorem Lawful.blank : Cord.blank.Lawful := by
  constructor <;> simp [Cord.blank, dispatches, History.told, History.registered]

theorem Numbered.blank : Cord.blank.Numbered := by
  constructor <;>
    simp [Cord.blank, called, awaited, dispatches, History.told, History.registered]

/-- The handlers `early`, registered before the promise was settled, are called
in order as far as they are called. -/
structure Ordered (early : List Nat) (cord : Cord) : Prop where
  settled : ∃ outcome, cord.promise.state = .settled outcome
  counted : ∀ number ∈ early, number < cord.counter
  order : ∃ lost, early = cord.called.filter (· ∈ early) ++ cord.awaited ++ lost

theorem Ordered.step {early : List Nat} (step : Step index cord after) (lawful : cord.Lawful)
    (ordered : cord.Ordered early) : after.Ordered early := by
  obtain ⟨⟨stored, settled⟩, counted, lost, order⟩ := ordered
  have single := lawful.single
  have stays : ∃ outcome, after.promise.state = .settled outcome :=
    ⟨stored, lawful.settled_step step settled⟩
  cases step with
  | still made => exact ⟨stays, counted, lost, order⟩
  | share promise same => exact ⟨stays, counted, lost, order⟩
  | make promise fresh unheard => exact ⟨stays, counted, lost, order⟩
  | skip made =>
      exact ⟨stays, fun number member => Nat.lt_succ_of_lt (counted number member), lost, order⟩
  | settle outcome waiting idle pending => simp [settled] at pending
  | wait handler waiting idle pending => simp [settled] at pending
  | late outcome idle state =>
      refine ⟨stays, fun number member => Nat.lt_succ_of_lt (counted number member), lost, ?_⟩
      have late : cord.counter ∉ early := fun member => Nat.lt_irrefl _ (counted _ member)
      have called : ((cord.count.note (.registered index cord.counter)).note
          (.told index cord.counter outcome)).called = cord.called ++ [cord.counter] := by
        simp [Cord.called, note, count, -List.append_assoc]
      rw [called, List.filter_append]
      simpa [late, awaited, dispatches, note, count] using order
  | tell registration waiting outcome turn =>
      refine ⟨stays, counted, lost, ?_⟩
      have member : registration.number ∈ early := by
        rw [order]
        simp [awaited, dispatches, turn]
      have called : (((cord.note (.told index registration.number outcome)).leave
          ((outcome, waiting) :: cord.held)).look none).called =
          cord.called ++ [registration.number] := by
        simp [Cord.called, note, leave, look]
      rw [called, List.filter_append]
      simpa [member, awaited, dispatches, note, leave, look, turn] using order
  | finish outcome turn =>
      refine ⟨stays, counted, lost, ?_⟩
      simpa [called, awaited, dispatches, look, turn] using order
  | resume dispatch held idle top =>
      refine ⟨stays, counted, lost, ?_⟩
      simpa [called, awaited, dispatches, look, leave, idle, top] using order
  | drop dispatch held idle top =>
      -- Only one dispatch is under way, so nothing of it is left.
      have last : held = [] := by
        simpa [dispatches, idle, top] using single
      refine ⟨stays, counted, dispatch.2.map Registration.number ++ lost, ?_⟩
      simpa [called, awaited, dispatches, leave, idle, top, last] using order

/-- Every registered handler was called, or is one of those in `rest`. -/
structure Covered (rest : List Nat) (cord : Cord) : Prop where
  settled : ∃ outcome, cord.promise.state = .settled outcome
  covered : ∀ number ∈ History.registered cord.past, number ∈ cord.called ∨ number ∈ rest

theorem Covered.step {rest : List Nat} (step : Step index cord after) (lawful : cord.Lawful)
    (covered : cord.Covered rest) : after.Covered rest := by
  obtain ⟨⟨stored, settled⟩, covered⟩ := covered
  refine ⟨⟨stored, lawful.settled_step step settled⟩, ?_⟩
  cases step with
  | settle outcome waiting idle pending => simp [settled] at pending
  | wait handler waiting idle pending => simp [settled] at pending
  | late outcome idle state =>
      intro number member
      have place : number ∈ History.registered cord.past ∨ number = cord.counter := by
        simpa [note, count, -List.append_assoc] using member
      have called : ((cord.count.note (.registered index cord.counter)).note
          (.told index cord.counter outcome)).called = cord.called ++ [cord.counter] := by
        simp [Cord.called, note, count, -List.append_assoc]
      rw [called, List.mem_append]
      obtain earlier | rfl := place
      · exact (covered number earlier).imp_left .inl
      · exact .inl (.inr (by simp))
  | tell registration waiting outcome turn =>
      intro number member
      have earlier : number ∈ History.registered cord.past := by
        simpa [note, leave, look] using member
      have called : (((cord.note (.told index registration.number outcome)).leave
          ((outcome, waiting) :: cord.held)).look none).called =
          cord.called ++ [registration.number] := by
        simp [Cord.called, note, leave, look]
      rw [called, List.mem_append]
      exact (covered number earlier).imp_left .inl
  | _ => exact covered

end Cord

namespace Machine

theorem cord_initial (index : Nat) : initial.cord index = Cord.blank := by
  simp [cord, initial, Cord.blank, promisePast, World.promise, Store.get, Store.size]
  exact ⟨rfl, Nat.zero_le _, rfl⟩

theorem cord_laws (index : Nat) (moves : List Move) :
    ((initial.run moves).cord index).Lawful ∧ ((initial.run moves).cord index).Numbered := by
  have kept (before after : Machine) (moved : before.Moved after)
      (laws : (before.cord index).Lawful ∧ (before.cord index).Numbered) :
      (after.cord index).Lawful ∧ (after.cord index).Numbered :=
    ⟨laws.1.step (Cord.step_of_moved moved index),
      laws.2.step (Cord.step_of_moved moved index) laws.1⟩
  refine run_induction kept ?_ moves
  rw [cord_initial]
  exact ⟨.blank, .blank⟩

/-- A law of cords that every step keeps holds of a promise for good. -/
theorem cord_run {law : Cord → Prop} {machine : Machine} {index : Nat}
    (kept : ∀ before after, Cord.Step index before after → before.Lawful → law before → law after)
    (lawful : (machine.cord index).Lawful) (first : law (machine.cord index)) (later : List Move) :
    law ((machine.run later).cord index) := by
  have kept (before after : Machine) (moved : before.Moved after)
      (laws : (before.cord index).Lawful ∧ law (before.cord index)) :
      (after.cord index).Lawful ∧ law (after.cord index) :=
    ⟨laws.1.step (Cord.step_of_moved moved index),
      kept _ _ (Cord.step_of_moved moved index) laws.1 laws.2⟩
  exact (run_induction kept ⟨lawful, first⟩ later).2

theorem outcome?_run {machine : Machine} {index : Nat} {outcome : Outcome}
    (lawful : (machine.cord index).Lawful)
    (settled : (machine.world.promise index).outcome? = some outcome) (later : List Move) :
    ((machine.run later).world.promise index).outcome? = some outcome := by
  rw [Promise.outcome?_eq_some] at settled ⊢
  exact @cord_run (fun cord => cord.promise.state = .settled outcome) machine index
    (fun _ _ step lawful settled => lawful.settled_step step settled) lawful settled later

end Machine

end Handoff
