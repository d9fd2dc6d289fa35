import Handoff.Proofs.Bodies.Refusals
import Handoff.Proofs.Channels.Serving

namespace Handoff.Site

/-! The body is settled.

Whoever settles the body, its stream has ended by the time the handlers of the
client are called: the handler that aborts the stream is called first, and it does
nothing that client code has part in. -/

open Machine

variable {site : Site} {link : Option Nat} {base : List Frame}
  {goal : Reply → Current → Prop} {machine : Machine} {current : Current}

theorem Carries.settle (carries : site.Carries link current machine) (outcome : Outcome) :
    site.Carries link { current with outcome := some outcome }
      (machine.setPromise site.promise ((machine.world.promise site.promise).settle outcome)) :=
  carries.setPromise ⟨rfl, carries.promise.held, fun pending => by cases pending⟩

/-- The handler that aborts the stream is told. -/
theorem serves_aborting (part : base <:+ machine.stack)
    (carries : site.Carries link current machine) {outcome : Outcome}
    (rests : current.Rests link none ∧ outcome.fails = true ∨
      current.Rests link (some outcome.ending))
    (holds : ∀ reply pipe sent opened senders,
      ({ current with pipe, sent, opened, senders } : Current).Rests link (some outcome.ending) →
        goal reply { current with pipe, sent, opened, senders }) :
    site.Serves link base machine.stack goal
      (machine.tell (.aborting site.accumulator) outcome) := by
  cases fails : outcome.fails with
  | false =>
      have rests := rests.resolve_left fun rests => by simp [fails] at rests
      cases outcome with
      | resolved value => exact serves_reply carries (holds _ _ _ _ _ rests)
      | failed cause => cases fails
      | cancelled force => cases fails
  | true =>
      rw [tell_aborting fails]
      refine serves_turn ?_
      rcases rests with ⟨rests, -⟩ | rests
      · rw [Outcome.ending_of_fails fails] at holds
        exact serves_finish part carries.stands rests .aborted (holds _)
      · have refused := @finish_closed (machine.turn (.finish site.accumulator .aborted)) _
          (carries.shut rests) .aborted
        rw [perform, refused]
        exact serves_reply carries.stands (holds _ _ _ _ _ rests)

/-- The library settles the promise by itself, and gets to the handlers that waited
behind the one that aborts the stream. -/
def Settles (site : Site) (link : Option Nat) (base stack : List Frame) (outcome : Outcome)
    (current : Current) (machine : Machine) : Prop :=
  ∃ waiting, (∀ registration ∈ waiting, site.Follows link registration.handler) ∧
    (∀ channel, link = some channel → current.linked = true →
      ∃ registration ∈ waiting, registration.handler = .forwarding channel) ∧
    site.Serves link base (.dispatching site.promise outcome waiting :: stack)
      (fun _ final => ∃ pipe sent opened senders,
        final = { current with outcome := some outcome, pipe, sent, opened, senders } ∧
          final.Rests link (some outcome.ending)) machine

/-- A promise that is settled calls the handlers that waited; the first of them
aborts the stream. -/
theorem settles_settle (part : base <:+ machine.stack)
    (carries : site.Carries link current machine) (pending : current.outcome = none)
    {outcome : Outcome} (rests : current.Rests link none ∧ outcome.fails = true ∨
      current.Rests link (some outcome.ending)) :
    site.Settles link base machine.stack outcome current (machine.settle site.promise outcome) := by
  obtain ⟨number, waiting, first, follows, linked⟩ := carries.promise.waits pending
  obtain ⟨_, state⟩ := Promise.outcome?_eq_none.mp (carries.promise.stored.trans pending)
  rw [Promise.waiting, state] at first
  subst first
  refine ⟨waiting, follows, linked, ?_⟩
  simp only [Machine.settle, state]
  have settled := (((carries.settle outcome).note (.settled site.promise outcome) rfl
    fun _ => rfl).log (.promiseSettled outcome.status (waiting.length + 1))).note
      (.told site.promise number outcome) rfl fun _ => rfl
  have rests : ({ current with outcome := some outcome } : Current).Rests link none ∧
      outcome.fails = true ∨
        ({ current with outcome := some outcome } : Current).Rests link (some outcome.ending) := by
    cases link <;> exact rests
  have part := part.trans (List.suffix_cons (.dispatching site.promise outcome waiting) _)
  have told : site.Serves link base (.forgetting [.aborting site.accumulator] ::
      .dispatching site.promise outcome waiting :: machine.stack)
      (fun _ final => ∃ pipe sent opened senders,
        ({ current with pipe, sent, opened, senders } : Current).Rests link (some outcome.ending) ∧
          final = { current with outcome := some outcome, pipe, sent, opened, senders })
      (((((((machine.setPromise site.promise ((machine.world.promise site.promise).settle
        outcome)).note (.settled site.promise outcome)).log
          (.promiseSettled outcome.status (waiting.length + 1))).note
            (.told site.promise number outcome)).push
              (.dispatching site.promise outcome waiting)).push
                (.forgetting [.aborting site.accumulator])).turn
                  (.tell (.aborting site.accumulator) outcome)) := by
    refine serves_turn (serves_aborting (part.trans (List.suffix_cons _ _)) settled.stands rests
      fun reply pipe sent opened senders rests => ⟨pipe, sent, opened, senders, ?_, rfl⟩)
    cases link <;> exact rests
  refine serves_turn (serves_frame part told fun below reply final bottom replied stands same => ?_)
  obtain ⟨pipe, sent, opened, senders, rests, rfl⟩ := same
  rw [← bottom]
  refine serves_turn (serves_reply stands.stands ⟨pipe, sent, opened, senders, rfl, ?_⟩)
  cases link <;> exact rests

theorem settles_frame {frame : Frame} {lower stack : List Frame} {outcome : Outcome}
    {middle : Reply → Current → Prop} (part : base <:+ lower)
    (above : site.Serves link base (frame :: lower) middle machine)
    (resumed : ∀ (below : Machine) (reply : Reply) (final : Current), below.stack = lower →
      below.control = .reply reply → site.Carries link final below → middle reply final →
        site.Settles link base stack outcome current (below.resume reply frame)) :
    site.Settles link base stack outcome current machine := by
  obtain ⟨below, reply, final, bottom, replied, carries, holds, solo⟩ := above.through
  obtain ⟨waiting, follows, linked, after, last, final, later, rest⟩ :=
    resumed below reply final bottom replied carries holds
  exact ⟨waiting, follows, linked, after, last, final, solo.trans (.frame (bottom ▸ part) replied later), rest⟩

theorem Settles.turn {stack : List Frame} {outcome : Outcome} {task : Task}
    (settles : site.Settles link base stack outcome current ((machine.turn task).perform task)) :
    site.Settles link base stack outcome current (machine.turn task) := by
  obtain ⟨waiting, follows, linked, serves⟩ := settles
  exact ⟨waiting, follows, linked, serves_turn serves⟩

/-! The sender goes. -/

theorem Carries.release (carries : site.Carries link current machine) :
    site.Carries link { current with shares := current.shares - 1 }
      (machine.setPromise site.promise (machine.world.promise site.promise).removeShare) := by
  obtain ⟨stored, held, waits⟩ := carries.promise
  exact carries.setPromise ⟨stored, congrArg (· - 1) held, waits⟩

theorem serves_release (carries : site.Carries link current machine) {outcome : Outcome}
    (settled : current.outcome = some outcome)
    (holds : goal .done { current with shares := current.shares - 1 }) :
    site.Serves link base machine.stack goal (machine.release site.promise) := by
  have done : (machine.world.promise site.promise).removeShare.isDone = true := by
    have stored := carries.promise.stored.trans settled
    exact congrArg Option.isSome stored
  simp only [Machine.release, done, Bool.not_true, Bool.and_false, Bool.false_eq_true, if_false]
  exact serves_reply carries.release holds

/-- The last share of a promise that is pending. -/
theorem settles_release (part : base <:+ machine.stack)
    (carries : site.Carries link current machine) (pending : current.outcome = none)
    (last : current.shares = 1) (rests : current.Rests link (some .aborted)) :
    site.Settles link base (.dropping :: machine.stack) (.cancelled false)
      { current with shares := 0 } (machine.release site.promise) := by
  have released := carries.release
  have fewer : current.shares - 1 = 0 := by omega
  rw [fewer] at released
  have undone : (machine.world.promise site.promise).removeShare.isDone = false := by
    have stored := carries.promise.stored.trans pending
    exact congrArg Option.isSome stored
  have none : (machine.world.promise site.promise).removeShare.shares = 0 :=
    (congrArg (· - 1) carries.promise.held).trans fewer
  simp only [Machine.release, undone, none]
  refine Settles.turn (settles_settle (part.trans (List.suffix_cons _ _)) released.stands pending
    (.inr ?_))
  cases link <;> exact rests

/-- The sender of a body that is pending is let go: the stream is aborted, then the
body is cancelled. -/
theorem settles_abandon (part : base <:+ machine.stack)
    (carries : site.Carries link current machine) (calm : current.Calm link)
    (pending : current.outcome = none)
    (accumulator : (machine.world.body site.body).accumulator = site.accumulator)
    (promise : (machine.world.body site.body).promise = site.promise) :
    site.Settles link base (.dropping :: machine.stack) (.cancelled false)
      { current with shares := 0 } (machine.abandon site.body) := by
  obtain ⟨rests, last⟩ := calm.pending pending
  have undone : (machine.world.promise site.promise).isDone = false := by
    have stored := carries.promise.stored.trans pending
    exact congrArg Option.isSome stored
  simp only [Machine.abandon, accumulator, promise, undone, Bool.false_eq_true, if_false]
  have finished : site.Serves link base (.releasing site.promise :: machine.stack)
      (fun _ final => ∃ pipe sent opened senders,
        ({ current with pipe, sent, opened, senders } : Current).Rests link (some .aborted) ∧
          final = { current with pipe, sent, opened, senders })
      ((machine.push (.releasing site.promise)).turn (.finish site.accumulator .aborted)) :=
    serves_turn (serves_finish (part.trans (List.suffix_cons _ _)) carries.stands rests .aborted
      fun pipe sent opened senders rests => ⟨pipe, sent, opened, senders, rests, rfl⟩)
  refine settles_frame part finished fun below reply final bottom replied stands same => ?_
  obtain ⟨pipe, sent, opened, senders, rests, rfl⟩ := same
  rw [← bottom] at part ⊢
  have released := @settles_release site link base (below.turn (.release site.promise))
    { current with pipe, sent, opened, senders } part stands.stands pending last rests
  exact Settles.turn released

end Handoff.Site
