import Handoff.Proofs.Sessions.Grants

namespace Handoff

/-! How a body is brought to its end.

Whoever has the sender of a body ends it with a value, a failure or a cancellation,
and when that call returns, the body is settled.  There is one exception: when the
stream was closed by somebody else and the body is still pending, a value is refused
at once and nobody ever hears of it. -/

/-- The calls with which the holder of the sender ends a body. -/
inductive Call.Concludes (body : Nat) : Call → Prop where
  | complete (value : String) : Call.Concludes body (.complete body value)
  | fail (outcome : Outcome) : Call.Concludes body (.fail body outcome)

/-- The calls with which a body is ended with a value. -/
def Call.completes (body : Nat) : Call → Prop
  | .complete index _ => index = body
  | _ => False

namespace Machine

variable {allow : Machine → Move → Prop} {base : List Frame} {machine after : Machine} {site : Site}
  {index : Nat}

/-- The body was settled. -/
def Settled (body : Nat) (machine : Machine) : Prop :=
  (machine.world.promise (machine.world.body body).promise).isDone = true

/-- The stream of a body is closed, but the body was not settled. -/
def Stranded (body : Nat) (machine : Machine) : Prop :=
  (machine.world.accumulator (machine.world.body body).accumulator).closed = true ∧
    ¬ machine.Settled body

instance {body : Nat} {machine : Machine} : Decidable (machine.Settled body) :=
  inferInstanceAs (Decidable (_ = true))

instance {body : Nat} {machine : Machine} : Decidable (machine.Stranded body) :=
  inferInstanceAs (Decidable (_ ∧ _))

/-- If a reply arrives, the promise is settled by then. -/
def Answers (index : Nat) (machine : Machine) : Prop :=
  ∀ reply, machine.control = .reply reply → (machine.world.promise index).isDone = true

theorem Reached.lawful (reached : machine.Reached) (index : Nat) :
    (machine.cord index).Lawful := by
  obtain ⟨moves, rfl⟩ := reached
  exact (cord_laws index moves).1

theorem isDone_run (reached : machine.Reached)
    (settled : (machine.world.promise index).isDone = true) (later : List Move) :
    ((machine.run later).world.promise index).isDone = true := by
  obtain ⟨outcome, stored⟩ := Option.isSome_iff_exists.mp settled
  exact Option.isSome_iff_exists.mpr
    ⟨outcome, outcome?_run (reached.lawful index) stored later⟩

/-- Nobody is told of a promise that is pending. -/
theorem told_pending (reached : machine.Reached)
    (pending : (machine.world.promise index).isDone = false) : machine.told index = [] := by
  have unsettled : (machine.world.promise index).outcome? = none := by
    simpa [Promise.isDone] using pending
  obtain ⟨waiting, state⟩ := Promise.outcome?_eq_none.mp unsettled
  exact ((reached.lawful index).pending waiting state).2.1

theorem ends_settled (reached : machine.Reached)
    (settled : (machine.world.promise index).isDone = true) :
    Ends allow base (Answers index) machine := by
  intro after course _ _ _
  obtain ⟨moves, rfl⟩ := course.reached
  exact isDone_run reached settled moves

theorem isDone_tick_settle {outcome : Outcome}
    (working : machine.control = .task (.settle index outcome)) :
    (machine.tick.world.promise index).isDone = true := by
  cases state : (machine.world.promise index).state with
  | pending waiting =>
      have settled := (tick_settle_pending working state).2.2.1
      exact Option.isSome_iff_exists.mpr ⟨outcome, Promise.outcome?_eq_some.mpr settled⟩
  | settled first =>
      have done : (machine.world.promise index).isDone = true :=
        Option.isSome_iff_exists.mpr ⟨first, Promise.outcome?_eq_some.mpr state⟩
      have ticked : machine.tick = machine.settle index outcome := by simp [tick, working, perform]
      rw [ticked, settle_done done]
      exact done

theorem answers_settle {outcome : Outcome} (reached : machine.Reached)
    (working : machine.control = .task (.settle index outcome)) :
    Ends allow base (Answers index) machine := by
  refine ends_tick (fun ceased => ?_) (fun _ same => by cases working.symm.trans same)
    (ends_settled (reached.run [.tick]) (isDone_tick_settle working))
  have ceased := ceased.2
  rw [working] at ceased
  cases ceased

/-- Once the stream is dealt with, the promise is settled. -/
theorem answers_concluding {frame : Frame} {outcome : Outcome} {middle : Reply → Prop}
    (reached : machine.Reached) (rises : Rises (frame :: base) machine)
    (above : Replies allow (frame :: base) middle machine)
    (resumed : ∀ (below : Machine) (reply : Reply), middle reply →
      below.resume reply frame = below.turn (.settle index outcome))
    (unwound : ∀ (below : Machine) (message : String), below.unwind message frame = below) :
    Ends allow base (Answers index) machine := by
  refine ends_concluding reached rises above
    (fun below reply replied holds => resumed below reply (holds reply replied)) unwound
    (fun below _ _ settling => answers_settle settling rfl)
    fun below message panicking reply replied => ?_
  cases panicking.symm.trans replied

/-- Whoever held the sender lets go of it. -/
theorem answers_leaving {body : Nat} (reached : machine.Reached)
    (rises : Rises (.leaving body :: base) machine)
    (above : Ends allow (.leaving body :: base) (Answers index) machine) :
    Ends allow base (Answers index) machine := by
  have both : Ends allow (.leaving body :: base) (fun after => Answers index after ∧ after.Reached)
      machine :=
    fun after course ceased => ⟨above after course ceased, ends_reached reached after course ceased⟩
  refine ends_frame rises both ?_ ?_
  · rintro below reply bottom replied ⟨answers, reached⟩
    have settled : ((below.push (.leaving body)).tick.world.promise index).isDone = true :=
      isDone_run reached (answers reply replied) [.tick]
    have next : (below.push (.leaving body)).tick.Reached := reached.run [.tick]
    rw [tick_frame replied] at settled next
    exact ends_settled next settled
  · rintro below message bottom panicking -
    have panics : Replies allow base (fun _ => False) (below.unwind message (.leaving body)) :=
      replies_unwind_leaving bottom
    exact panics.weaken fun after _ never reply replied => (never reply replied).elim

/-- A call that ends a body and gets past the guard of its stream settles it. -/
theorem answers_begin {call : Call} (guards : site.Guards machine)
    (concludes : call.Concludes site.body)
    (passable : call.completes site.body →
      (machine.world.accumulator site.accumulator).closed = false)
    (begun : (machine.begin call).Reached) :
    Ends allow machine.stack (Answers site.promise) (machine.begin call) := by
  cases concludes with
  | complete value =>
      have called : machine.begin (.complete site.body value) =
          ((machine.hold site.body).push (.finishing site.promise value)).turn
            (.finish site.accumulator .finished) := by
        simp only [begin, guards.promise, guards.accumulator]
      rw [called] at begun ⊢
      refine answers_leaving begun (rises_turn.mpr (List.suffix_cons _ _)) ?_
      exact answers_concluding begun (rises_pushed rfl) (replies_finish (passable rfl) rfl)
        (fun below reply same => by rw [same]; rfl) (fun _ _ => rfl)
  | fail outcome =>
      have called : machine.begin (.fail site.body outcome) =
          ((machine.hold site.body).push (.settling site.promise outcome)).turn
            (.finish site.accumulator .aborted) := by
        simp only [begin, guards.promise, guards.accumulator]
      rw [called] at begun ⊢
      refine answers_leaving begun (rises_turn.mpr (List.suffix_cons _ _)) ?_
      have ended : Replies allow (.settling site.promise outcome :: (machine.hold site.body).stack)
          (fun _ => True) (((machine.hold site.body).push (.settling site.promise outcome)).turn
            (.finish site.accumulator .aborted)) := fun _ _ _ _ _ => trivial
      exact answers_concluding begun (rises_pushed rfl) ended (fun _ _ _ => rfl) (fun _ _ => rfl)

/-- When a call that ends a body returns, the body is settled, unless the call had a
value for a body that was stranded: then it is refused and changes nothing. -/
theorem settled_unless_stranded {call : Call} {body : Nat} {reply : Reply}
    (reached : machine.Reached) (empty : machine.stack = []) (concludes : call.Concludes body)
    (called : Called allow call machine after) (replied : after.control = .reply reply) :
    (¬ after.Settled body ↔ call.completes body ∧ machine.Stranded body) ∧
      (call.completes body → machine.Stranded body →
        after = machine.reply (.refused .streamClosed)) := by
  have owned : (machine.world.body body).owned = true := by
    have admitted := called.admitted
    cases concludes with
    | complete value => exact admitted
    | fail outcome => exact (Bool.and_eq_true_iff.mp admitted).1
  obtain ⟨site, rfl, guards⟩ := reached.guarded body (World.lt_of_owned owned)
  have lasting : (after.world.body site.body).promise = site.promise := by
    obtain ⟨moves, rfl⟩ := called.reached
    exact (guards.run reached moves).promise
  have begun : (machine.begin call).Reached := called.begun ▸ reached.run [.call call]
  have refused (completes : call.completes site.body)
      (closed : (machine.world.accumulator site.accumulator).closed = true) :
      after = machine.reply (.refused .streamClosed) := by
    cases concludes with
    | fail => cases completes
    | complete value =>
        have alone := (passes_complete guards closed owned value).solo
        have ends : Ends allow [] (fun final => final = machine.reply (.refused .streamClosed))
            (machine.begin (.complete site.body value)) :=
          alone.ends (ends_of_over ⟨empty, rfl⟩ rfl)
        exact ends after (empty ▸ called.course) (empty ▸ called.ceased)
  refine ⟨⟨fun pending => ?_, ?_⟩, fun completes stranded => ?_⟩
  · by_cases stranded : call.completes site.body ∧
        (machine.world.accumulator site.accumulator).closed = true
    · obtain ⟨completes, closed⟩ := stranded
      refine ⟨completes, by rw [guards.accumulator]; exact closed, fun settled => pending ?_⟩
      rw [refused completes closed]
      exact settled
    · have passable (completes : call.completes site.body) :=
        Bool.eq_false_iff.mpr fun closed => stranded ⟨completes, closed⟩
      have answers :=
        answers_begin guards concludes passable begun after called.course called.ceased
      refine absurd ?_ pending
      rw [Settled, lasting]
      exact answers reply replied
  · rintro ⟨completes, closed, pending⟩
    rw [guards.accumulator] at closed
    rw [refused completes closed]
    exact pending
  · have closed := stranded.1
    rw [guards.accumulator] at closed
    exact refused completes closed

/-- The chunk handler of a body panics, and its stream is closed. -/
def collapsed : Machine :=
  initial.run (.call (.newBody .usual) :: .replicate 3 .tick ++
    .call (.newHandler (.client 7)) :: .tick :: .call (.attach 0 0) :: .replicate 5 .tick ++
      .call (.send 0 [97]) :: .replicate 4 .tick ++ .panic "broken" :: .replicate 6 .tick)

/-- A cancellation still settles the body. -/
theorem settled_unless_stranded_collapsed :
    collapsed.Stranded 0 ∧
      ∃ after, Called (fun _ _ => True) (.fail 0 (.cancelled true)) collapsed after ∧
        after.control = .reply .ok ∧ after.Settled 0 := by
  have called : Called (fun _ _ => True) (.fail 0 (.cancelled true)) collapsed _ :=
    called_ticks 11 rfl rfl (fun _ => trivial) (by decide) ⟨rfl, rfl⟩
  have law := settled_unless_stranded ⟨_, rfl⟩ rfl (.fail _) called rfl
  refine ⟨by decide, _, called, rfl, Decidable.byContradiction fun pending => ?_⟩
  exact (law.1.mp pending).1

/-- A value does not: nothing is wrong with the body but that its stream is closed,
and it stays pending. -/
theorem completion_stranded :
    collapsed.Reached ∧ collapsed.stack = [] ∧
      ∃ after, Called (fun _ _ => True) (.complete 0 "value") collapsed after ∧
        after.control = .reply (.refused .streamClosed) ∧ ¬ after.Settled 0 :=
  ⟨⟨_, rfl⟩, rfl, _, called_ticks 3 rfl rfl (fun _ => trivial) (by decide) ⟨rfl, rfl⟩, rfl,
    by decide⟩

end Machine

end Handoff
