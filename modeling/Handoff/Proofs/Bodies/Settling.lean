import Handoff.Proofs.Bodies.Collecting

namespace Handoff

def Outcome.fails : Outcome → Bool
  | .resolved _ => false
  | .failed _ | .cancelled _ => true

theorem Item.line_chunk (chunks : List Bytes) (bytes : Bytes) :
    line chunks none ++ [.chunk bytes] = line (chunks ++ [bytes]) none := by
  simp [line]

theorem Item.line_ending (chunks : List Bytes) (ending : Ending) :
    line chunks none ++ [.ending ending] = line chunks (some ending) := by
  simp [line]

namespace Site

/-! Settlement of the body.

The handlers that wait for the promise of the body are called in turn: those of
others, the one that aborts the stream, and the one that passes failures on to
the text. -/

open Machine

def going (site : Site) (chunks : List Bytes) : Flow :=
  match site.text with
  | none => .idle none
  | some _ => .parked chunks [] none

def gone (site : Site) (ending : Ending) : Flow :=
  match site.text with
  | none => .idle (some ending)
  | some _ => .ceased

theorem going_idle {site : Site} (untexted : site.text = none) (chunks : List Bytes) :
    site.going chunks = .idle none := by
  simp [going, untexted]

theorem going_parked {site : Site} {text : Nat × Charset} (texted : site.text = some text)
    (chunks : List Bytes) : site.going chunks = .parked chunks [] none := by
  simp [going, texted]

theorem gone_idle {site : Site} (untexted : site.text = none) (ending : Ending) :
    site.gone ending = .idle (some ending) := by
  simp [gone, untexted]

theorem gone_ceased {site : Site} {text : Nat × Charset} (texted : site.text = some text)
    (ending : Ending) : site.gone ending = .ceased := by
  simp [gone, texted]

def Rests (site : Site) (view : View) : Prop :=
  view.flow = site.going view.accepted ∨ ∃ ending, view.flow = site.gone ending

theorem going_ne_gone (site : Site) (chunks : List Bytes) (ending : Ending) :
    site.going chunks ≠ site.gone ending := by
  cases texted : site.text <;> simp [going, gone, texted]

/-- The outcome of a text, from the outcome of its body. -/
def rendered (charset : Charset) (chunks : List Bytes) : Outcome → Outcome
  | .resolved _ => .resolved (charset.decode chunks.flatten)
  | .failed cause => .failed cause
  | .cancelled force => .cancelled force

/-- How the text stands when the body stands at `outcome`. -/
def Delivers (site : Site) (charset : Charset) (chunks : List Bytes) (outcome : Option Outcome)
    (text : Option Outcome) : Prop :=
  match site.refusal? chunks with
  | none => text = outcome.map (rendered charset chunks)
  | some error => ∃ number, text = some (.failed (.raised number error))

variable {site : Site} {base : List Frame} {goal : Reply → View → Prop} {machine : Machine}
  {view : View} {derived : Nat} {charset : Charset}

theorem Shows.closed (shows : site.Shows view machine) {ending : Ending}
    (flow : view.flow = site.gone ending) :
    (machine.world.accumulator site.accumulator).closed = true := by
  cases texted : site.text with
  | none => exact (shows.flows (flow.trans (gone_idle texted _))).2.2.1
  | some text => exact (shows.flows (flow.trans (gone_ceased texted _))).2

theorem Shows.unclosed (shows : site.Shows view machine)
    (flow : view.flow = site.going view.accepted) :
    (machine.world.accumulator site.accumulator).closed = false := by
  cases texted : site.text with
  | none => exact (shows.flows (flow.trans (going_idle texted _))).2.2.1
  | some text => exact (shows.flows (flow.trans (going_parked texted _))).2.2.1

section Streams

variable (bottom : machine.stack = base) (shows : site.Shows view machine)

include bottom shows

/-- A chunk is refused, or it is accepted and goes to the collector if there is
one. -/
theorem yields_deliver (rests : site.Rests view) {bytes : Bytes}
    (working : machine.control = .task (.deliver site.accumulator bytes))
    (collects : ∀ derived charset, site.text = some (derived, charset) →
      view.flow = site.going view.accepted →
        site.Collects view.accepted view.text ∧ (view.text = none → 2 ≤ view.textShares))
    (refused : ∀ error, goal (.refused error) view)
    (accepted : view.flow = site.going view.accepted → ∀ text,
      (∀ derived charset, site.text = some (derived, charset) →
        site.Collects (view.accepted ++ [bytes]) text) →
      goal .ok { view with
        accepted := view.accepted ++ [bytes]
        flow := site.going (view.accepted ++ [bytes])
        text }) : site.Yields base goal machine := by
  apply yields_task working
  simp only [perform, Machine.deliver]
  split
  case h_1 error _ => exact yields_done bottom rfl (shows.reply _) (refused _)
  case h_2 fits =>
      have flow : view.flow = site.going view.accepted := by
        rcases rests with flow | ⟨ending, flow⟩
        · exact flow
        · simp [Accumulator.refusal?, shows.closed flow] at fits
      -- A chunk that has to wait is logged, and the site stands as before.
      obtain ⟨logged, same⟩ : ∃ logged : Machine, logged =
          if (machine.world.accumulator site.accumulator).isAttached then machine
          else machine.log (.chunkBuffered bytes.length
            ((machine.world.accumulator site.accumulator).requested bytes)) := ⟨_, rfl⟩
      have stands : site.Shows view logged := by
        rw [same]
        split
        · exact shows
        · exact shows.log _
      have bottom : logged.stack = base := by
        rw [same]
        split <;> exact bottom
      rw [← same]
      refine yields_frame (fun _ after => ∃ text,
        (∀ derived charset, site.text = some (derived, charset) →
          site.Collects (view.accepted ++ [bytes]) text) ∧
        after = { view with
          accepted := view.accepted ++ [bytes]
          flow := site.going (view.accepted ++ [bytes])
          text }) (congrArg _ bottom) (by simp) ?_ ?_
      · cases texted : site.text with
        | none =>
            obtain ⟨stage, queue, closed, wantsEnd⟩ := shows.flows (flow.trans (going_idle texted _))
            have more : site.Flows (view.accepted ++ [bytes]) (.idle none)
                ((machine.world.accumulator site.accumulator).enqueue bytes) :=
              ⟨stage, by simp [Accumulator.enqueue, queue, Item.line_chunk], closed, wantsEnd⟩
            refine yields_drain_idle (congrArg _ bottom) (((stands.accept more).push _).turn _) rfl
              rfl fun _ => ⟨view.text, by simp, ?_⟩
            simp [going, texted]
        | some text =>
            obtain ⟨derived, charset⟩ := text
            obtain ⟨parked, queue, closed, wantsEnd⟩ :=
              shows.flows (flow.trans (going_parked texted _))
            obtain ⟨collects, live⟩ := collects derived charset texted flow
            have more : site.Flows (view.accepted ++ [bytes]) (.parked view.accepted [bytes] none)
                ((machine.world.accumulator site.accumulator).enqueue bytes) :=
              ⟨parked, by simp [Accumulator.enqueue, queue, Item.line], closed, wantsEnd⟩
            refine yields_drain texted (congrArg _ bottom) (((stands.accept more).push _).turn _) rfl
              rfl fun taking bottom shows working => ?_
            apply yields_next texted [bytes] bottom shows working rfl rfl collects live
            intro reply text collects
            exact ⟨text, fun _ _ _ => collects, by simp [drained, going, texted]⟩
      · rintro below reply _ bottom shows ⟨text, collects, rfl⟩
        exact yields_done bottom rfl (shows.reply _) (accepted flow text collects)

/-- The stream ends, unless it had ended before. -/
theorem yields_finish (rests : site.Rests view) {ending : Ending}
    (working : machine.control = .task (.finish site.accumulator ending))
    (collects : ∀ derived charset, site.text = some (derived, charset) →
      view.flow = site.going view.accepted →
        (ending = .finished → site.Collects view.accepted view.text) ∧
          (view.text = none → 2 ≤ view.textShares))
    (refused : ∀ before, view.flow = site.gone before → goal (.refused .streamClosed) view)
    (accepted : view.flow = site.going view.accepted → ∀ text textShares,
      (∀ derived charset, site.text = some (derived, charset) →
        text = if ending = .finished then
            some (view.text.getD (.resolved (charset.decode view.accepted.flatten)))
          else view.text) →
      goal .ok { view with flow := site.gone ending, text, textShares }) :
    site.Yields base goal machine := by
  apply yields_task working
  simp only [perform, Machine.finish]
  rcases rests with flow | ⟨before, flow⟩
  case inr =>
      rw [if_pos (shows.closed flow)]
      exact yields_done bottom rfl (shows.reply _) (refused before flow)
  case inl =>
      have unclosed : ¬ (machine.world.accumulator site.accumulator).closed = true := by
        simp [shows.unclosed flow]
      rw [if_neg unclosed]
      refine yields_frame (fun _ after => ∃ text textShares,
        (∀ derived charset, site.text = some (derived, charset) →
          text = if ending = .finished then
              some (view.text.getD (.resolved (charset.decode view.accepted.flatten)))
            else view.text) ∧
        after = { view with flow := site.gone ending, text, textShares })
        (congrArg _ bottom) (by simp) ?_ ?_
      · cases texted : site.text with
        | none =>
            obtain ⟨stage, queue, closed, wantsEnd⟩ := shows.flows (flow.trans (going_idle texted _))
            have more : site.Flows view.accepted (.idle (some ending))
                ((machine.world.accumulator site.accumulator).close ending) :=
              ⟨stage, by simp [Accumulator.close, queue, Item.line_ending], rfl, wantsEnd⟩
            have shows := (shows.setAccumulator more).note (.closed site.accumulator ending)
              (by simp)
            refine yields_drain_idle (congrArg _ bottom) ((shows.push _).turn _) rfl rfl fun _ =>
              ⟨view.text, view.textShares, by simp, ?_⟩
            simp [gone, texted]
        | some text =>
            obtain ⟨derived, charset⟩ := text
            obtain ⟨parked, queue, closed, wantsEnd⟩ :=
              shows.flows (flow.trans (going_parked texted _))
            obtain ⟨collects, live⟩ := collects derived charset texted flow
            have more : site.Flows view.accepted (.parked view.accepted [] (some ending))
                ((machine.world.accumulator site.accumulator).close ending) :=
              ⟨parked, by simp [Accumulator.close, queue, Item.line], rfl, wantsEnd⟩
            have shows := (shows.setAccumulator more).note (.closed site.accumulator ending)
              (by simp)
            refine yields_drain texted (congrArg _ bottom) ((shows.push _).turn _) rfl rfl
              fun taking bottom shows working => ?_
            refine yields_ending texted bottom shows working rfl rfl collects live fun _ =>
              ⟨_, view.textShares - 1, fun other named texted' => ?_,
                by rw [gone_ceased texted, drained]⟩
            obtain ⟨rfl, rfl⟩ : derived = other ∧ charset = named := by simpa [texted] using texted'
            rfl
      · rintro below reply _ bottom shows ⟨text, textShares, settled, rfl⟩
        exact yields_done bottom rfl (shows.reply _) (accepted flow text textShares settled)

end Streams

theorem Delivers.settled {chunks : List Bytes} {outcome : Outcome} {text : Option Outcome}
    (delivers : site.Delivers charset chunks (some outcome) text) :
    ∃ settled, text = some settled := by
  cases refused : site.refusal? chunks with
  | none =>
      rw [Delivers, refused] at delivers
      exact ⟨_, delivers⟩
  | some error =>
      rw [Delivers, refused] at delivers
      obtain ⟨number, failed⟩ := delivers
      exact ⟨_, failed⟩

theorem rendered_of_fails {outcome : Outcome} (fails : outcome.fails = true)
    (charset : Charset) (chunks : List Bytes) : rendered charset chunks outcome = outcome := by
  cases outcome with
  | resolved value => simp [Outcome.fails] at fails
  | failed cause => rfl
  | cancelled force => rfl

/-- The stream after it was aborted, if it still went on. -/
def aborted (site : Site) (view : View) (flow : Flow) : Prop :=
  (view.flow = site.going view.accepted ∧ flow = site.gone .aborted) ∨
    ∃ ending, view.flow = site.gone ending ∧ flow = site.gone ending

/-- What a dispatch of `outcome` finds. -/
structure Awaits (site : Site) (outcome : Outcome) (waiting : List Registration) (view : View) :
    Prop where
  heard : ∀ registration ∈ waiting, site.Hears registration.handler
  rests : site.Rests view
  aborts : view.flow = site.going view.accepted → outcome.fails = true ∧
    ∃ registration ∈ waiting, registration.handler = .aborting site.accumulator
  live : ∀ derived charset, site.text = some (derived, charset) →
    view.flow = site.going view.accepted → view.text = none → 2 ≤ view.textShares
  passes : ∀ derived charset, site.text = some (derived, charset) →
    site.Delivers charset view.accepted (some outcome) view.text ∨
      view.text = none ∧ site.refusal? view.accepted = none ∧ outcome.fails = true ∧
        ∃ registration ∈ waiting, registration.handler = .passing derived

theorem Awaits.abortsLater {outcome : Outcome} {registration : Registration}
    {waiting : List Registration} (awaits : site.Awaits outcome (registration :: waiting) view)
    (apart : registration.handler ≠ .aborting site.accumulator)
    (going : view.flow = site.going view.accepted) : outcome.fails = true ∧
      ∃ registration ∈ waiting, registration.handler = .aborting site.accumulator := by
  obtain ⟨fails, other, member, own⟩ := awaits.aborts going
  rcases List.mem_cons.mp member with rfl | member
  · exact absurd own apart
  · exact ⟨fails, other, member, own⟩

theorem Awaits.passesLater {outcome : Outcome} {registration : Registration}
    {waiting : List Registration} (awaits : site.Awaits outcome (registration :: waiting) view)
    (texted : site.text = some (derived, charset))
    (apart : registration.handler ≠ .passing derived) :
    site.Delivers charset view.accepted (some outcome) view.text ∨
      view.text = none ∧ site.refusal? view.accepted = none ∧ outcome.fails = true ∧
        ∃ registration ∈ waiting, registration.handler = .passing derived := by
  rcases awaits.passes derived charset texted with
    delivers | ⟨pending, whole, fails, other, member, own⟩
  · exact .inl delivers
  · rcases List.mem_cons.mp member with rfl | member
    · exact absurd own apart
    · exact .inr ⟨pending, whole, fails, other, member, own⟩

section Told

variable {outcome : Outcome} {registration : Registration} {waiting : List Registration}

/-- What is known after one of the handlers was called and let go. -/
def Told (site : Site) (outcome : Outcome) (waiting : List Registration) (before after : View) :
    Prop :=
  ∃ flow text textShares, site.Awaits outcome waiting { before with flow, text, textShares } ∧
    (flow = before.flow ∨ site.aborted before flow) ∧ after = { before with flow, text, textShares }

variable (shows : site.Shows view machine)
  (top : machine.stack = .forgetting [registration.handler] :: base)
  (working : machine.control = .task (.tell registration.handler outcome))
  (awaits : site.Awaits outcome (registration :: waiting) view)
  (holds : ∀ reply after, site.Told outcome waiting view after → goal reply after)

include shows top working awaits holds

theorem yields_told_outside (inside : registration.handler.In (site.outside False)) :
    site.Yields base goal machine := by
  have others := (List.forall_mem_cons.mp awaits.heard).2
  have held : ∀ handler ∈ [registration.handler], handler.In (site.outside False) := by
    simpa using inside
  have aborting : registration.handler ≠ .aborting site.accumulator := by
    intro own
    rw [own] at inside
    exact inside rfl
  have still : site.Awaits outcome waiting view := by
    refine ⟨others, awaits.rests, awaits.abortsLater aborting, awaits.live, ?_⟩
    intro derived charset texted
    refine awaits.passesLater texted fun own => ?_
    rw [own] at inside
    exact inside.2 (by simp [derived?, texted])
  refine yields_frame (fun _ after => after = view) top (by simp [working])
    (yields_outside top working shows inside fun _ => rfl) ?_
  intro below reply after bottom stands same
  rw [same] at stands
  exact yields_outside bottom rfl (stands.turn _) held fun reply =>
    holds reply _ ⟨_, _, _, still, .inl rfl, rfl⟩

theorem yields_told_aborting (aborting : registration.handler = .aborting site.accumulator) :
    site.Yields base goal machine := by
  have others := (List.forall_mem_cons.mp awaits.heard).2
  have later (derived : Nat) (charset : Charset) (texted : site.text = some (derived, charset)) :=
    awaits.passesLater texted (by simp [aborting])
  refine yields_frame (fun _ after => site.Told outcome waiting view after) top
    (by simp [working]) ?_ ?_
  · rw [aborting] at working
    cases fails : outcome.fails with
    | false =>
        have ended : view.flow ≠ site.going view.accepted := fun going => by
          simpa [fails] using (awaits.aborts going).1
        have still : site.Awaits outcome waiting view :=
          ⟨others, awaits.rests, fun going => absurd going ended, awaits.live, later⟩
        apply yields_task working
        cases outcome with
        | resolved value => exact yields_done top rfl (shows.reply _) ⟨_, _, _, still, .inl rfl, rfl⟩
        | failed cause => simp [Outcome.fails] at fails
        | cancelled force => simp [Outcome.fails] at fails
    | true =>
        have finishing : machine.perform (.tell (.aborting site.accumulator) outcome) =
            machine.turn (.finish site.accumulator .aborted) := by
          cases outcome with
          | resolved value => simp [Outcome.fails] at fails
          | failed cause => rfl
          | cancelled force => rfl
        apply yields_task working
        rw [finishing]
        refine yields_finish top (shows.turn _) awaits.rests rfl (fun derived charset texted going =>
          ⟨by simp, awaits.live derived charset texted going⟩) ?_ ?_
        · intro before ended
          have still : site.Awaits outcome waiting view :=
            ⟨others, awaits.rests, fun going => absurd (going.symm.trans ended)
              (going_ne_gone site _ _), awaits.live, later⟩
          exact ⟨_, _, _, still, .inl rfl, rfl⟩
        · intro going text textShares settled
          have ended : site.gone .aborted ≠ site.going view.accepted :=
            (going_ne_gone site _ _).symm
          refine ⟨_, _, _, ⟨others, .inr ⟨.aborted, rfl⟩, fun going => absurd going ended,
            fun _ _ _ going => absurd going ended, ?_⟩, .inr (.inl ⟨going, rfl⟩), rfl⟩
          intro derived charset texted
          have same : text = view.text := by simpa using settled derived charset texted
          rw [same]
          exact later derived charset texted
  · intro below reply after bottom stands told
    rw [aborting]
    exact yields_task rfl (yields_done bottom rfl ((stands.turn _).reply _) (holds _ _ told))

theorem yields_told_passing (texted : site.text = some (derived, charset))
    (passing : registration.handler = .passing derived) : site.Yields base goal machine := by
  have others := (List.forall_mem_cons.mp awaits.heard).2
  refine yields_frame (fun _ after => ∃ settled,
    site.Delivers charset view.accepted (some outcome) (some settled) ∧
      after = { view with text := some settled }) top (by simp [working]) ?_ ?_
  · rw [passing] at working
    cases fails : outcome.fails with
    | false =>
        have delivers : site.Delivers charset view.accepted (some outcome) view.text := by
          rcases awaits.passes derived charset texted with delivers | ⟨-, -, failing, -⟩
          · exact delivers
          · simp [fails] at failing
        obtain ⟨settled, stored⟩ := delivers.settled
        have same : view = { view with text := some settled } := by rw [← stored]
        rw [stored] at delivers
        apply yields_task working
        cases outcome with
        | resolved value => exact yields_done top rfl (shows.reply _) ⟨settled, delivers, same⟩
        | failed cause => simp [Outcome.fails] at fails
        | cancelled force => simp [Outcome.fails] at fails
    | true =>
        have settling : machine.perform (.tell (.passing derived) outcome) =
            machine.turn (.settle derived outcome) := by
          cases outcome with
          | resolved value => simp [Outcome.fails] at fails
          | failed cause => rfl
          | cancelled force => rfl
        apply yields_task working
        rw [settling]
        refine yields_settleText texted top (shows.turn _) rfl fun _ => ⟨_, ?_, rfl⟩
        rcases awaits.passes derived charset texted with delivers | ⟨pending, whole, -⟩
        · obtain ⟨settled, stored⟩ := delivers.settled
          rw [stored] at delivers
          simpa [stored] using delivers
        · simp [Delivers, whole, pending, rendered_of_fails fails]
  · rintro below reply _ bottom stands ⟨settled, delivers, rfl⟩
    rw [passing]
    apply yields_task rfl
    refine yields_releaseText texted bottom ((stands.turn _).turn _) rfl (by simp) fun reply => ?_
    have still : site.Awaits outcome waiting
        { view with text := some settled, textShares := view.textShares - 1 } := by
      refine ⟨others, awaits.rests, awaits.abortsLater (by simp [passing]), by simp, ?_⟩
      intro other named texted'
      obtain ⟨rfl, rfl⟩ : derived = other ∧ charset = named := by simpa [texted] using texted'
      exact .inl delivers
    exact holds reply _ ⟨_, _, _, still, .inl rfl, rfl⟩

theorem yields_told : site.Yields base goal machine := by
  rcases (List.forall_mem_cons.mp awaits.heard).1 with
    inside | aborting | ⟨derived, charset, texted, passing⟩
  · exact yields_told_outside shows top working awaits holds inside
  · exact yields_told_aborting shows top working awaits holds aborting
  · exact yields_told_passing shows top working awaits holds texted passing

end Told

theorem aborted_ne_going {flow : Flow} (shut : site.aborted view flow) (chunks : List Bytes) :
    flow ≠ site.going chunks := by
  rcases shut with ⟨-, rfl⟩ | ⟨ending, -, rfl⟩
  · exact (going_ne_gone site chunks .aborted).symm
  · exact (going_ne_gone site chunks ending).symm

theorem yields_dispatch {outcome : Outcome} (waiting : List Registration)
    (bottom : machine.stack = base) (shows : site.Shows view machine)
    (working : machine.control = .task (.dispatch site.promise outcome waiting))
    (awaits : site.Awaits outcome waiting view)
    (holds : ∀ flow text textShares, site.aborted view flow →
      (∀ derived charset, site.text = some (derived, charset) →
        site.Delivers charset view.accepted (some outcome) text) →
      goal .ok { view with flow, text, textShares }) : site.Yields base goal machine := by
  -- Each handler leaves to those behind it what `Awaits` says.
  induction waiting generalizing machine view with
  | nil =>
      obtain ⟨heard, rests, aborts, live, passes⟩ := awaits
      have ended : site.aborted view view.flow := by
        rcases rests with going | ⟨ending, ended⟩
        · obtain ⟨-, _, member, -⟩ := aborts going
          simp at member
        · exact .inr ⟨ending, ended, ended⟩
      have settled (derived : Nat) (charset : Charset)
          (texted : site.text = some (derived, charset)) :
          site.Delivers charset view.accepted (some outcome) view.text := by
        rcases passes derived charset texted with delivers | ⟨-, -, -, _, member, -⟩
        · exact delivers
        · simp at member
      apply yields_task working
      exact yields_done bottom rfl (shows.reply _) (holds _ _ _ ended settled)
  | cons registration waiting ih =>
      have shows := ((shows.note (.told site.promise registration.number outcome)
        (by simp [Entry.accumulator?])).push (.dispatching site.promise outcome waiting)).push
          (.forgetting [registration.handler])
      have top : (.forgetting [registration.handler] : Frame) ::
          .dispatching site.promise outcome waiting :: machine.stack =
            .forgetting [registration.handler] ::
              .dispatching site.promise outcome waiting :: base := by rw [bottom]
      have part : (.dispatching site.promise outcome waiting : Frame) :: base <:+
          (.forgetting [registration.handler] : Frame) ::
            .dispatching site.promise outcome waiting :: machine.stack := by
        rw [bottom]
        exact List.suffix_cons _ _
      apply yields_task working
      refine yields_above (fun _ after => site.Told outcome waiting view after)
        part (by simp [perform, Machine.dispatch]) ?_ ?_
      · exact yields_told (shows.turn _) top rfl awaits fun _ _ told => told
      · rintro below reply _ bottom stands ⟨flow, text, textShares, awaits, same, rfl⟩
        refine ih bottom (stands.turn _) rfl awaits fun flow' text' textShares' shut settled => ?_
        refine holds _ _ _ ?_ settled
        rcases same with rfl | before
        · exact shut
        · rcases shut with ⟨going, -⟩ | ⟨ending, ended, rfl⟩
          · exact absurd going (aborted_ne_going before _)
          · have ended : flow = site.gone ending := ended
            rw [← ended]
            exact before

theorem yields_settle_done {outcome first : Outcome} (bottom : machine.stack = base)
    (shows : site.Shows view machine)
    (working : machine.control = .task (.settle site.promise outcome))
    (stored : view.outcome = some first) (holds : goal (.refused .alreadyCompleted) view) :
    site.Yields base goal machine := by
  have state := Promise.outcome?_eq_some.mp (shows.promise.stored.trans stored)
  apply yields_task working
  simp only [perform, Machine.settle, state]
  exact yields_done bottom rfl ((shows.log _).reply _) holds

/-- The body is settled, and with it the stream ends and the text is settled. -/
theorem yields_settle {outcome : Outcome} (bottom : machine.stack = base)
    (shows : site.Shows view machine)
    (working : machine.control = .task (.settle site.promise outcome))
    (pending : view.outcome = none) (linked : view.linked = true) (rests : site.Rests view)
    (fails : view.flow = site.going view.accepted → outcome.fails = true)
    (live : ∀ derived charset, site.text = some (derived, charset) →
      view.flow = site.going view.accepted → view.text = none → 2 ≤ view.textShares)
    (text : ∀ derived charset, site.text = some (derived, charset) →
      site.Delivers charset view.accepted (some outcome) view.text ∨
        view.text = none ∧ site.refusal? view.accepted = none ∧ outcome.fails = true)
    (holds : ∀ flow text textShares, site.aborted view flow →
      (∀ derived charset, site.text = some (derived, charset) →
        site.Delivers charset view.accepted (some outcome) text) →
      goal .ok { view with outcome := some outcome, flow, text, textShares }) :
    site.Yields base goal machine := by
  obtain ⟨stored, held, unowned, heard, aborts, passes⟩ := shows.promise
  obtain ⟨waiting, state⟩ := Promise.outcome?_eq_none.mp (stored.trans pending)
  rw [Promise.waiting, state] at heard aborts passes
  have settled : site.Completes (some outcome) view.shares view.linked
      ((machine.world.promise site.promise).settle outcome) :=
    ⟨rfl, held, unowned, by simp [Promise.waiting, Promise.settle], by simp, by simp⟩
  have shows := ((shows.setPromise settled).note (.settled site.promise outcome)
    (by simp [Entry.accumulator?])).log (.promiseSettled outcome.status waiting.length)
  apply yields_task working
  simp only [perform, Machine.settle, state]
  refine yields_dispatch waiting bottom (shows.turn _) rfl ⟨heard, rests, fun going =>
    ⟨fails going, aborts pending⟩, live, fun derived charset texted => ?_⟩ holds
  rcases text derived charset texted with delivers | ⟨untold, whole, failing⟩
  · exact .inl delivers
  · exact .inr ⟨untold, whole, failing, passes pending linked derived charset texted⟩

end Site

end Handoff
