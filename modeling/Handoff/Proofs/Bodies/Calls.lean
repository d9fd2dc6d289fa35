import Handoff.Proofs.Bodies.Settling

namespace Handoff

/-- How a stream ends whose body ends with an outcome. -/
def Outcome.ending : Outcome → Ending
  | .resolved _ => .finished
  | .failed _ | .cancelled _ => .aborted

/-- The outcome that a call gives to a body that has none yet. -/
def Call.verdict : Call → Option Outcome
  | .complete _ value => some (.resolved value)
  | .fail _ outcome => some outcome
  | .cancel _ force => some (.cancelled force)
  | .dropSender _ => some (.cancelled false)
  | _ => none

theorem Outcome.ending_of_fails {outcome : Outcome} (fails : outcome.fails = true) :
    outcome.ending = .aborted := by
  cases outcome with
  | resolved value => simp [Outcome.fails] at fails
  | failed cause => rfl
  | cancelled force => rfl

namespace Site

/-! The calls of the sender.

Between calls a body is calm: its stream goes on as long as the body is pending,
and the text follows the body.  Every call of the sender, and the call that
cancels the body, leads from a calm body to a calm body. -/

open Machine

structure Calm (site : Site) (view : View) : Prop where
  flow : view.flow = match view.outcome with
    | none => site.going view.accepted
    | some outcome => site.gone outcome.ending
  senders : view.senders = view.owned.toNat
  linked : view.linked = true
  pending : view.outcome = none → view.owned = true ∧ view.shares = 1
  live : view.outcome = none → ∀ derived charset, site.text = some (derived, charset) →
    2 ≤ view.textShares
  text : ∀ derived charset, site.text = some (derived, charset) →
    site.Delivers charset view.accepted view.outcome view.text

variable {site : Site} {base : List Frame} {goal : Reply → View → Prop} {machine : Machine}
  {view : View}

theorem Delivers.collects {charset : Charset} {chunks : List Bytes} {text : Option Outcome} :
    site.Delivers charset chunks none text ↔ site.Collects chunks text := by
  cases refused : site.refusal? chunks <;> simp [Delivers, Collects, refused]

theorem Calm.rests (calm : site.Calm view) : site.Rests view := by
  have flow := calm.flow
  cases stored : view.outcome with
  | none =>
      rw [stored] at flow
      exact .inl flow
  | some outcome =>
      rw [stored] at flow
      exact .inr ⟨_, flow⟩

theorem Calm.pending_of_going (calm : site.Calm view)
    (going : view.flow = site.going view.accepted) : view.outcome = none := by
  have flow := calm.flow
  cases stored : view.outcome with
  | none => rfl
  | some outcome =>
      rw [stored] at flow
      exact absurd (going.symm.trans flow) (going_ne_gone site _ _)

theorem Calm.settled_of_gone (calm : site.Calm view) {ending : Ending}
    (gone : view.flow = site.gone ending) : ∃ outcome, view.outcome = some outcome := by
  have flow := calm.flow
  cases stored : view.outcome with
  | none =>
      rw [stored] at flow
      exact absurd (flow.symm.trans gone) (going_ne_gone site _ _)
  | some outcome => exact ⟨outcome, rfl⟩

theorem Collects.resolved {chunks : List Bytes} {text : Option Outcome}
    (collects : site.Collects chunks text) (charset : Charset) (value : String) :
    site.Delivers charset chunks (some (.resolved value))
      (some (text.getD (.resolved (charset.decode chunks.flatten)))) := by
  cases refused : site.refusal? chunks with
  | none =>
      have untold := collects.pending refused
      simp [Delivers, refused, untold, rendered]
  | some error =>
      obtain ⟨number, failed⟩ := collects.failed refused
      simp [Delivers, refused, failed]

theorem Calm.untold (calm : site.Calm view) (pending : view.outcome = none) {outcome : Outcome}
    (fails : outcome.fails = true) {derived : Nat} {charset : Charset}
    (texted : site.text = some (derived, charset)) :
    site.Delivers charset view.accepted (some outcome) view.text ∨
      view.text = none ∧ site.refusal? view.accepted = none ∧ outcome.fails = true := by
  have text := calm.text derived charset texted
  rw [pending] at text
  cases refused : site.refusal? view.accepted with
  | none => exact .inr ⟨by simpa [Delivers, refused] using text, rfl, fails⟩
  | some error => exact .inl (by simpa [Delivers, refused] using text)

theorem Calm.settle (calm : site.Calm view) {outcome : Outcome} (fails : outcome.fails = true)
    {flow : Flow} {text : Option Outcome} {textShares senders : Nat} {owned : Bool}
    {shares : Nat} (held : senders = owned.toNat)
    (ended : flow = site.gone .aborted)
    (settled : ∀ derived charset, site.text = some (derived, charset) →
      site.Delivers charset view.accepted (some outcome) text) :
    site.Calm { view with outcome := some outcome, flow, text, textShares, senders, owned, shares } :=
  ⟨by rw [ended, ← Outcome.ending_of_fails fails], held, calm.linked, by simp, by simp, settled⟩

theorem Calm.senders_of_owned (calm : site.Calm view) (owned : view.owned = true) :
    view.senders = 1 := by
  rw [calm.senders, owned]
  rfl

theorem Calm.collects (calm : site.Calm view) {derived : Nat} {charset : Charset}
    (texted : site.text = some (derived, charset))
    (going : view.flow = site.going view.accepted) :
    site.Collects view.accepted view.text ∧ (view.text = none → 2 ≤ view.textShares) := by
  have pending := calm.pending_of_going going
  have text := calm.text derived charset texted
  rw [pending] at text
  exact ⟨Delivers.collects.mp text, fun _ => calm.live pending derived charset texted⟩

theorem Shows.hold (shows : site.Shows view machine) :
    site.Shows { view with senders := view.senders + 1 } (machine.hold site.body) := by
  have row : (machine.world.body site.body).addSender =
      { machine.world.body site.body with senders := view.senders + 1, owned := view.owned } := by
    rw [shows.body]
    rfl
  rw [Machine.hold, row]
  exact (shows.setBody _ _).push _

theorem Shows.accumulator_body (shows : site.Shows view machine) :
    (machine.world.body site.body).accumulator = site.accumulator := by
  rw [shows.body]

theorem Shows.promise_body (shows : site.Shows view machine) :
    (machine.world.body site.body).promise = site.promise := by
  rw [shows.body]

theorem Shows.owned_body (shows : site.Shows view machine) :
    (machine.world.body site.body).owned = view.owned := by
  rw [shows.body]

theorem yields_leaving {reply : Reply} (bottom : machine.stack = base)
    (shows : site.Shows view machine) (several : 2 ≤ view.senders)
    (holds : goal reply { view with senders := view.senders - 1 }) :
    site.Yields base goal (machine.resume reply (.leaving site.body)) := by
  have row : (machine.world.body site.body).removeSender =
      { machine.world.body site.body with senders := view.senders - 1, owned := view.owned } := by
    rw [shows.body]
    rfl
  have some : ¬ view.senders - 1 = 0 := by omega
  simp only [resume, Machine.leave, row]
  rw [if_neg some]
  exact yields_done bottom rfl ((shows.setBody _ _).same rfl rfl) holds

/-- What a call of the body leaves behind. -/
def After (site : Site) (verdict : Option Outcome) (before after : View) : Prop :=
  site.Calm after ∧ after.outcome = before.outcome.or verdict

theorem yields_held {verdict : Option Outcome}
    (part : .leaving site.body :: base <:+ machine.stack)
    (working : ∀ sight, machine.control ≠ .client sight)
    (above : site.Yields (.leaving site.body :: base) (fun _ after => after.senders = 2 ∧
      site.After verdict view { after with senders := 1 }) machine) :
    site.Yields base (fun _ after => site.After verdict view after) machine := by
  apply yields_above _ part working above
  rintro below reply after bottom stands ⟨two, done⟩
  apply yields_leaving bottom stands (by omega)
  rw [two]
  exact done

/-- A pending body is settled with a failure or a cancellation, while its stream
goes on or after it was aborted. -/
theorem yields_fails (calm : site.Calm view) {outcome : Outcome}
    (fails : outcome.fails = true)
    (pending : view.outcome = none) {between : Machine} {flow : Flow} {text : Option Outcome}
    {textShares senders shares : Nat} {owned : Bool} (bottom : between.stack = base)
    (stands : site.Shows { view with flow, text, textShares, senders, owned, shares } between)
    (working : between.control = .task (.settle site.promise outcome))
    (ends : flow = view.flow ∧ textShares = view.textShares ∨ flow = site.gone .aborted)
    (untold : ∀ derived charset, site.text = some (derived, charset) → text = view.text)
    (holds : ∀ text textShares, (∀ derived charset, site.text = some (derived, charset) →
      site.Delivers charset view.accepted (some outcome) text) →
      goal .ok { view with
        outcome := some outcome, flow := site.gone .aborted, text, textShares, senders, owned
        shares }) : site.Yields base goal between := by
  have going : view.flow = site.going view.accepted := by
    have flow := calm.flow
    rwa [pending] at flow
  refine yields_settle bottom stands working pending calm.linked ?_ (fun _ => fails) ?_ ?_ ?_
  · exact ends.imp (fun same => same.1.trans going) (fun ended => ⟨_, ended⟩)
  · intro derived charset texted still _
    rcases ends with ⟨-, same⟩ | ended
    · have live := calm.live pending derived charset texted
      rw [← same] at live
      exact live
    · exact absurd (still.symm.trans ended) (going_ne_gone site _ _)
  · intro derived charset texted
    have untold := untold derived charset texted
    subst untold
    exact calm.untold pending fails texted
  · intro flow' text' textShares' shut settled
    have ended : flow' = site.gone .aborted := by
      rcases shut with ⟨-, ended⟩ | ⟨ending, gone, ended⟩
      · exact ended
      · rcases ends with ⟨same, -⟩ | aborted
        · exact absurd (going.symm.trans (same.symm.trans gone)) (going_ne_gone site _ _)
        · exact ended.trans (gone.symm.trans aborted)
    subst ended
    exact holds text' textShares' settled

theorem yields_abort (calm : site.Calm view) {between : Machine} {senders : Nat} {owned : Bool}
    (bottom : between.stack = base) (stands : site.Shows { view with senders, owned } between)
    (working : between.control = .task (.finish site.accumulator .aborted))
    (refused : ∀ reply first, view.outcome = some first → goal reply { view with senders, owned })
    (aborted : view.outcome = none → ∀ reply text textShares,
      (∀ derived charset, site.text = some (derived, charset) → text = view.text) →
      goal reply { view with flow := site.gone .aborted, text, textShares, senders, owned }) :
    site.Yields base goal between := by
  refine yields_finish bottom stands calm.rests working
    (fun derived charset texted going => ⟨by simp, (calm.collects texted going).2⟩) ?_ ?_
  · intro before gone
    obtain ⟨outcome, stored⟩ := calm.settled_of_gone gone
    exact refused _ outcome stored
  · intro going text textShares settled
    refine aborted (calm.pending_of_going going) _ text textShares fun derived charset texted => ?_
    simpa using settled derived charset texted

theorem Shows.removeShare (shows : site.Shows view machine) :
    site.Shows { view with shares := view.shares - 1 } (machine.setPromise site.promise
      (machine.world.promise site.promise).removeShare) := by
  obtain ⟨stored, held, unowned, heard, aborts, passes⟩ := shows.promise
  have less : site.Completes view.outcome (view.shares - 1) view.linked
      (machine.world.promise site.promise).removeShare :=
    ⟨stored, by simp [Promise.removeShare, held], unowned, heard, aborts, passes⟩
  exact shows.setPromise less

theorem yields_release_done {first : Outcome} (bottom : machine.stack = base)
    (shows : site.Shows view machine)
    (working : machine.control = .task (.release site.promise)) (stored : view.outcome = some first)
    (holds : ∀ reply, goal reply { view with shares := view.shares - 1 }) :
    site.Yields base goal machine := by
  have kept : ¬ ((decide ((machine.world.promise site.promise).removeShare.shares = 0) &&
      !(machine.world.promise site.promise).removeShare.isDone) = true) := by
    have done : (machine.world.promise site.promise).removeShare.outcome? = some first :=
      shows.promise.stored.trans stored
    simp [Promise.isDone, done]
  apply yields_task working
  simp only [perform, Machine.release]
  rw [if_neg kept]
  exact yields_done bottom rfl (shows.removeShare.reply _) (holds _)

theorem yields_release_last {met : View → Prop} (bottom : machine.stack = base)
    (shows : site.Shows view machine)
    (working : machine.control = .task (.release site.promise)) (pending : view.outcome = none)
    (one : view.shares = 1)
    (settles : ∀ settling : Machine, settling.stack = .dropping :: base →
      site.Shows { view with shares := view.shares - 1 } settling →
      settling.control = .task (.settle site.promise (.cancelled false)) →
      site.Yields (.dropping :: base) (fun _ after => met after) settling) :
    site.Yields base (fun _ after => met after) machine := by
  have last : (decide ((machine.world.promise site.promise).removeShare.shares = 0) &&
      !(machine.world.promise site.promise).removeShare.isDone) = true := by
    have unsettled : (machine.world.promise site.promise).removeShare.outcome? = none :=
      shows.promise.stored.trans pending
    have held : (machine.world.promise site.promise).removeShare.shares = 0 := by
      simp [Promise.removeShare, shows.promise.held, one]
    simp [Promise.isDone, unsettled, held]
  apply yields_task working
  simp only [perform, Machine.release]
  rw [if_pos last]
  refine yields_frame (fun _ after => met after) (congrArg _ bottom) (by simp)
    (settles _ (congrArg _ bottom) ((shows.removeShare.push _).turn _) rfl) ?_
  intro below reply after bottom stands done
  simp only [resume]
  split
  · exact yields_done bottom rfl ((stands.log _).reply _) done
  · exact yields_done bottom rfl (stands.reply _) done

/-- The last sender goes: a pending body is cancelled. -/
theorem yields_abandon (calm : site.Calm view) {between : Machine} (bottom : between.stack = base)
    (stands : site.Shows { view with senders := 0, owned := false } between)
    (working : between.control = .task (.abandon site.body)) :
    site.Yields base (fun _ after => site.After (some (.cancelled false)) view after) between := by
  apply yields_task working
  simp only [perform, Machine.abandon, stands.promise_body, stands.accumulator_body]
  cases stored : view.outcome with
  | some first =>
      have done : (between.world.promise site.promise).isDone = true := by
        rw [Promise.isDone, stands.promise.stored, stored]
        rfl
      rw [if_pos done]
      refine yields_release_done bottom (stands.turn _) rfl stored fun _ => ?_
      refine ⟨⟨calm.flow, rfl, calm.linked, fun pending => ?_, calm.live, calm.text⟩, by simp [stored]⟩
      simp [stored] at pending
  | none =>
      have pending : ¬ (between.world.promise site.promise).isDone = true := by
        rw [Promise.isDone, stands.promise.stored, stored]
        simp
      rw [if_neg pending]
      refine yields_frame (fun _ after => ∃ text textShares,
        (∀ derived charset, site.text = some (derived, charset) → text = view.text) ∧
        after = { view with
          flow := site.gone .aborted, text, textShares, senders := 0, owned := false })
        (congrArg _ bottom) (by simp) ?_ ?_
      · refine yields_abort calm (congrArg _ bottom) ((stands.push _).turn _) rfl ?_ ?_
        · intro reply first settled
          simp [stored] at settled
        · exact fun _ reply text textShares untold => ⟨text, textShares, untold, rfl⟩
      · rintro below reply _ bottom stands ⟨text, textShares, untold, rfl⟩
        refine yields_release_last bottom (stands.turn _) rfl stored (calm.pending stored).2 ?_
        intro settling bottom stands working
        apply yields_fails calm rfl stored bottom stands working (.inr rfl) untold
        intro text textShares settled
        exact ⟨calm.settle rfl rfl rfl settled, by simp [stored]⟩

section Own

variable (calm : site.Calm view) (shows : site.Shows view machine)

include calm shows

theorem yields_send (owned : view.owned = true) (bytes : Bytes) :
    site.Yields machine.stack (fun _ after => site.After none view after)
      (machine.begin (.send site.body bytes)) := by
  have one := calm.senders_of_owned owned
  have working : (machine.begin (.send site.body bytes)).control =
      .task (.deliver site.accumulator bytes) := by
    rw [← shows.accumulator_body]
    rfl
  have same : view = { view with senders := 1 } := by rw [← one]
  apply yields_held (List.suffix_refl _) (by simp [working])
  refine yields_deliver rfl (shows.hold.same rfl rfl) calm.rests working
    (fun derived charset => calm.collects) ?_ ?_
  · intro error
    exact ⟨by rw [one], same ▸ calm, by simp⟩
  · intro going text settled
    have pending := calm.pending_of_going going
    refine ⟨by rw [one], ⟨?_, ?_, calm.linked, calm.pending, calm.live, ?_⟩, by simp⟩
    · simp only [pending]
    · rw [owned]
      rfl
    · intro derived charset texted
      simp only [pending]
      exact Delivers.collects.mpr (settled derived charset texted)

theorem yields_complete (owned : view.owned = true) (value : String) :
    site.Yields machine.stack (fun _ after => site.After (some (.resolved value)) view after)
      (machine.begin (.complete site.body value)) := by
  have one := calm.senders_of_owned owned
  have begun : machine.begin (.complete site.body value) =
      ((machine.hold site.body).push (.finishing site.promise value)).turn
        (.finish site.accumulator .finished) := by
    rw [← shows.accumulator_body, ← shows.promise_body]
    rfl
  have same : view = { view with senders := 1 } := by rw [← one]
  rw [begun]
  apply yields_held (List.suffix_cons _ _) (by simp)
  refine yields_frame (fun reply after =>
    (∃ error outcome, reply = .refused error ∧ view.outcome = some outcome ∧
      after = { view with senders := 2 }) ∨
    (reply = .ok ∧ view.outcome = none ∧ ∃ text textShares,
      (∀ derived charset, site.text = some (derived, charset) →
        site.Delivers charset view.accepted (some (.resolved value)) text) ∧
      after = { view with senders := 2, flow := site.gone .finished, text, textShares }))
    rfl (by simp) ?_ ?_
  · refine yields_finish rfl ((shows.hold.push _).turn _) calm.rests rfl
      (fun derived charset texted going => (calm.collects texted going).imp (fun all _ => all) id)
      ?_ ?_
    · intro before gone
      obtain ⟨outcome, stored⟩ := calm.settled_of_gone gone
      exact .inl ⟨_, outcome, rfl, stored, by rw [one]⟩
    · intro going text textShares settled
      have pending := calm.pending_of_going going
      refine .inr ⟨rfl, pending, text, textShares, fun derived charset texted => ?_, by rw [one]⟩
      rw [settled derived charset texted, if_pos rfl]
      exact (calm.collects texted going).1.resolved charset value
  · rintro below reply _ bottom stands (⟨error, outcome, rfl, stored, rfl⟩ |
      ⟨rfl, pending, text, textShares, settled, rfl⟩)
    · exact yields_done bottom rfl (stands.reply _) ⟨rfl, same ▸ calm, by simp [stored]⟩
    · have ended : site.gone .finished ≠ site.going view.accepted := (going_ne_gone site _ _).symm
      refine yields_settle bottom (stands.turn _) rfl pending calm.linked (.inr ⟨_, rfl⟩)
        (fun going => absurd going ended) (fun _ _ _ going => absurd going ended)
        (fun derived charset texted => .inl (settled derived charset texted)) ?_
      rintro flow text textShares (⟨going, -⟩ | ⟨ending, gone, rfl⟩) settled
      · exact absurd going ended
      · refine ⟨rfl, ⟨gone.symm, ?_, calm.linked, by simp, by simp, settled⟩, by simp [pending]⟩
        rw [owned]
        rfl

theorem yields_cancel (force : Bool) :
    site.Yields machine.stack (fun _ after => site.After (some (.cancelled force)) view after)
      (machine.begin (.cancel site.promise force)) := by
  cases stored : view.outcome with
  | some first => exact yields_settle_done rfl (shows.turn _) rfl stored ⟨calm, by simp [stored]⟩
  | none =>
      refine yields_fails calm rfl stored rfl (shows.turn _) rfl (.inl ⟨rfl, rfl⟩)
        (fun _ _ _ => rfl) fun text textShares settled => ?_
      exact ⟨calm.settle rfl calm.senders rfl settled, by simp [stored]⟩

theorem yields_fail (owned : view.owned = true) {outcome : Outcome} (fails : outcome.fails = true) :
    site.Yields machine.stack (fun _ after => site.After (some outcome) view after)
      (machine.begin (.fail site.body outcome)) := by
  have one := calm.senders_of_owned owned
  have begun : machine.begin (.fail site.body outcome) =
      ((machine.hold site.body).push (.settling site.promise outcome)).turn
        (.finish site.accumulator .aborted) := by
    rw [← shows.accumulator_body, ← shows.promise_body]
    rfl
  have same : view = { view with senders := 1 } := by rw [← one]
  rw [begun]
  apply yields_held (List.suffix_cons _ _) (by simp)
  refine yields_frame (fun _ after =>
    (∃ first, view.outcome = some first ∧ after = { view with senders := 2 }) ∨
    (view.outcome = none ∧ ∃ text textShares,
      (∀ derived charset, site.text = some (derived, charset) → text = view.text) ∧
      after = { view with senders := 2, flow := site.gone .aborted, text, textShares }))
    rfl (by simp) ?_ ?_
  · refine yields_abort calm rfl ((shows.hold.push _).turn _) rfl ?_ ?_
    · intro reply first stored
      exact .inl ⟨first, stored, by rw [one]⟩
    · intro pending reply text textShares untold
      exact .inr ⟨pending, text, textShares, untold, by rw [one]⟩
  · rintro below reply _ bottom stands (⟨first, stored, rfl⟩ |
      ⟨pending, text, textShares, untold, rfl⟩)
    · exact yields_settle_done bottom (stands.turn _) rfl stored
        ⟨rfl, same ▸ calm, by simp [stored]⟩
    · refine yields_fails calm fails pending bottom (stands.turn _) rfl (.inr rfl) untold ?_
      intro text textShares settled
      have held : 1 = view.owned.toNat := by rw [owned]; rfl
      exact ⟨rfl, calm.settle fails held rfl settled, by simp [pending]⟩

theorem yields_dropSender (owned : view.owned = true) :
    site.Yields machine.stack (fun _ after => site.After (some (.cancelled false)) view after)
      (machine.begin (.dropSender site.body)) := by
  have one := calm.senders_of_owned owned
  have row : { machine.world.body site.body with owned := false } =
      { machine.world.body site.body with senders := 1, owned := false } := by
    rw [shows.body, one]
  have stands : site.Shows { view with senders := 1, owned := false }
      (machine.setBody site.body { machine.world.body site.body with owned := false }) := by
    rw [row]
    exact shows.setBody 1 false
  have last : ((machine.setBody site.body
      { machine.world.body site.body with owned := false }).world.body
        site.body).removeSender.senders = 0 := by
    rw [stands.body]
    rfl
  have less : ((machine.setBody site.body
      { machine.world.body site.body with owned := false }).world.body site.body).removeSender =
      { (machine.setBody site.body
        { machine.world.body site.body with owned := false }).world.body site.body with
          senders := 0, owned := false } := by
    rw [stands.body]
    rfl
  have stands : site.Shows { view with senders := 0, owned := false }
      ((machine.setBody site.body { machine.world.body site.body with owned := false }).setBody
        site.body ((machine.setBody site.body
          { machine.world.body site.body with owned := false }).world.body site.body).removeSender) := by
    rw [less]
    exact stands.setBody 0 false
  simp only [begin, Machine.leave]
  rw [if_pos last]
  apply yields_frame _ rfl (by simp) (yields_abandon calm rfl ((stands.push _).turn _) rfl)
  intro below reply after bottom stands done
  exact yields_done bottom rfl (stands.reply _) done

/-- Every call on a calm body leads to a calm body, and the first that settles it
decides its outcome. -/
theorem yields_own {call : Call} (own : site.isOwn call = true)
    (admitted : machine.world.admits call = true) :
    site.Yields machine.stack (fun _ after => site.After call.verdict view after)
      (machine.begin call) := by
  have owned (body : Nat) (same : (body == site.body) = true)
      (owned : (machine.world.body body).owned = true) : body = site.body ∧ view.owned = true := by
    obtain rfl : body = site.body := by simpa using same
    exact ⟨rfl, shows.owned_body ▸ owned⟩
  cases call with
  | send body bytes =>
      obtain ⟨rfl, owned⟩ := owned body own admitted
      exact yields_send calm shows owned bytes
  | complete body value =>
      obtain ⟨rfl, owned⟩ := owned body own admitted
      exact yields_complete calm shows owned value
  | fail body outcome =>
      obtain ⟨admitted, failing⟩ := Bool.and_eq_true_iff.mp admitted
      obtain ⟨rfl, owned⟩ := owned body own admitted
      have fails : outcome.fails = true := by
        cases outcome with
        | resolved value => simp [Outcome.status] at failing
        | failed cause => rfl
        | cancelled force => rfl
      exact yields_fail calm shows owned fails
  | dropSender body =>
      obtain ⟨rfl, owned⟩ := owned body own admitted
      exact yields_dropSender calm shows owned
  | cancel promise force =>
      obtain rfl : promise = site.promise := by simpa [isOwn] using own
      exact yields_cancel calm shows force
  | _ => simp [isOwn] at own

end Own

end Site

end Handoff
