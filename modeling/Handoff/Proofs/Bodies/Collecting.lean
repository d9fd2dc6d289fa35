import Handoff.Proofs.Bodies.Yields

namespace Handoff.Site

/-! The collector of a text at work.

Whatever is left in the queue goes to the collector, chunk by chunk, and then the
collector waits or, at the end of the stream, settles the text and is let go. -/

open Machine

/-- How the text stands while its chunks are collected: it failed if one of them
was refused, and is pending otherwise. -/
def Collects (site : Site) (chunks : List Bytes) (text : Option Outcome) : Prop :=
  match site.refusal? chunks with
  | none => text = none
  | some error => ∃ number, text = some (.failed (.raised number error))

theorem refusal?_append {site : Site} {taken : List Bytes} {error : Error}
    (refused : site.refusal? taken = some error) (bytes : Bytes) :
    site.refusal? (taken ++ [bytes]) = some error := by
  rw [refusal?, Capacity.firstRefusal_append]
  exact congrArg (Option.or · _) refused

theorem Collects.pending {site : Site} {chunks : List Bytes} {text : Option Outcome}
    (collects : site.Collects chunks text) (whole : site.refusal? chunks = none) : text = none := by
  rwa [Collects, whole] at collects

theorem Collects.failed {site : Site} {chunks : List Bytes} {text : Option Outcome} {error : Error}
    (collects : site.Collects chunks text) (refused : site.refusal? chunks = some error) :
    ∃ number, text = some (.failed (.raised number error)) := by
  rwa [Collects, refused] at collects

theorem Collects.earlier {site : Site} {taken : List Bytes} {bytes : Bytes} {text : Option Outcome}
    (later : site.Collects (taken ++ [bytes]) none) (earlier : site.Collects taken text) :
    text = none := by
  cases refused : site.refusal? taken with
  | none => exact earlier.pending refused
  | some error =>
      have still := refusal?_append refused bytes
      simp [Collects, still] at later

/-- The view after the queue was run dry. -/
def drained (charset : Charset) (view : View) (text : Option Outcome) : Option Ending → View
  | none => { view with flow := .parked view.accepted [] none, text }
  | some ending =>
      { view with
        flow := .ceased
        text := if ending = .finished then
            some (text.getD (.resolved (charset.decode view.accepted.flatten)))
          else text
        textShares := view.textShares - 1 }

variable {site : Site} {base : List Frame} {goal : Reply → View → Prop} {machine : Machine}
  {view : View} {derived : Nat} {charset : Charset}

section Text

variable (texted : site.text = some (derived, charset)) (bottom : machine.stack = base)
  (shows : site.Shows view machine)

include texted bottom shows

theorem yields_settleText {outcome : Outcome}
    (working : machine.control = .task (.settle derived outcome))
    (holds : ∀ reply, goal reply { view with text := some (view.text.getD outcome) }) :
    site.Yields base goal machine := by
  obtain ⟨apart, derives⟩ := shows.text derived charset texted
  apply yields_task working
  simp only [perform, Machine.settle]
  cases stored : view.text with
  | some first =>
      have state := Promise.outcome?_eq_some.mp (derives.stored.trans stored)
      have same : ({ view with text := some first } : View) = view := by rw [← stored]
      simp only [stored, Option.getD_some, same] at holds
      simp only [state]
      exact yields_done bottom rfl ((shows.log _).reply _) (holds _)
  | none =>
      obtain ⟨waiting, state⟩ := Promise.outcome?_eq_none.mp (derives.stored.trans stored)
      have heard : ∀ registration ∈ waiting, registration.handler.In (site.outside False) := by
        intro registration member
        apply derives.heard registration
        rw [Promise.waiting, state]
        exact member
      have settled : site.Derives (some outcome) view.textShares
          ((machine.world.promise derived).settle outcome) :=
        ⟨rfl, derives.held, derives.unowned, by simp [Promise.waiting, Promise.settle]⟩
      have shows := (((shows.setText texted settled).note (.settled derived outcome)
        (by simp [Entry.accumulator?])).log (.promiseSettled outcome.status waiting.length))
      simp only [stored, Option.getD_none] at holds
      simp only [state]
      exact yields_outside bottom rfl (shows.turn _) heard holds

theorem yields_releaseText (working : machine.control = .task (.release derived))
    (live : view.text = none → 2 ≤ view.textShares)
    (holds : ∀ reply, goal reply { view with textShares := view.textShares - 1 }) :
    site.Yields base goal machine := by
  obtain ⟨apart, derives⟩ := shows.text derived charset texted
  have less : site.Derives view.text (view.textShares - 1)
      (machine.world.promise derived).removeShare :=
    ⟨derives.stored, by simp [Promise.removeShare, derives.held], derives.unowned, derives.heard⟩
  have kept : ¬ ((decide ((machine.world.promise derived).removeShare.shares = 0) &&
      !(machine.world.promise derived).removeShare.isDone) = true) := by
    rw [less.held, Promise.isDone, less.stored]
    cases stored : view.text with
    | some outcome => simp
    | none =>
        have live := live stored
        simp only [Option.isSome_none, Bool.not_false, Bool.and_true, decide_eq_true_eq]
        omega
  apply yields_task working
  simp only [perform, Machine.release]
  rw [if_neg kept]
  exact yields_done bottom rfl ((shows.setText texted less).reply _) (holds _)

theorem yields_letGo {collector : Collector} (named : collector.promise = derived)
    (live : view.text = none → 2 ≤ view.textShares)
    (holds : ∀ reply, goal reply { view with flow := .ceased, textShares := view.textShares - 1 })
    (closed : (machine.world.accumulator site.accumulator).closed = true) :
    site.Yields base goal (machine.letGo site.accumulator (.collecting collector)) := by
  have released : site.Flows view.accepted .ceased
      (machine.world.accumulator site.accumulator).release := ⟨rfl, closed⟩
  have shows := ((shows.setAccumulator released).note (.released site.accumulator) (by simp)).push
    .released
  have above : site.Yields (.released :: base)
      (fun _ after => after = { view with flow := .ceased, textShares := view.textShares - 1 })
      (machine.letGo site.accumulator (.collecting collector)) := by
    apply yields_task rfl
    subst named
    exact yields_releaseText texted (congrArg _ bottom) (shows.turn _) rfl live fun _ => rfl
  apply yields_frame _ (congrArg _ bottom) (by simp [letGo]) above
  rintro below reply _ bottom shows rfl
  exact yields_done bottom rfl ((shows.log _).reply _) (holds _)

theorem yields_feed {taken : List Bytes} {bytes : Bytes}
    (working : machine.control =
      .task (.feed (.collecting (site.collector derived charset taken)) bytes))
    (collects : site.Collects taken view.text)
    (holds : ∀ text, site.Collects (taken ++ [bytes]) text →
      goal (.flag (site.refusal? (taken ++ [bytes])).isNone) { view with text }) :
    site.Yields base goal machine := by
  have collected := Collector.collected_collect charset site.config.textCapacity derived taken
  apply yields_task working
  simp only [perform, Machine.feed]
  cases refused : site.refusal? taken with
  | some error =>
      have ceased : (site.collector derived charset taken).overflowed = true := by
        rw [collector, collected.overflowed]
        exact Option.isSome_iff_exists.mpr ⟨error, refused⟩
      have still := refusal?_append refused bytes
      have collects : site.Collects (taken ++ [bytes]) view.text := by
        simpa [Collects, still, refused] using collects
      have holds := holds view.text collects
      rw [still] at holds
      rw [if_pos ceased]
      exact yields_done bottom rfl (shows.reply _) holds
  | none =>
      have whole : ¬ (site.collector derived charset taken).overflowed = true := by
        rw [collector, collected.overflowed]
        simpa [refusal?] using refused
      have appended := collected.append refused bytes
      rw [if_neg whole]
      have pending := collects.pending refused
      split at appended
      case h_1 fits =>
          obtain ⟨appended, -⟩ := appended
          have fits : site.refusal? (taken ++ [bytes]) = none := fits
          have holds := holds view.text (by simp [Collects, fits, pending])
          rw [fits] at holds
          simp only [collector, appended]
          exact yields_done ((stack_logs _ _).trans bottom) rfl ((shows.logs _).reply _) holds
      case h_2 error exceeds =>
          have exceeds : site.refusal? (taken ++ [bytes]) = some error := exceeds
          have holds := holds (some (.failed (.raised machine.world.causes error)))
            (by simp [Collects, exceeds])
          rw [exceeds] at holds
          simp only [collector, appended, raise, Collector.promise_collect]
          have shows := (shows.countCauses (machine.world.causes + 1)).push
            (.replying (.flag false))
          have above : site.Yields (.replying (.flag false) :: base) (fun _ after => after =
              { view with text := some (.failed (.raised machine.world.causes error)) })
              (((machine.withWorld { machine.world with causes := machine.world.causes + 1 }).push
                (.replying (.flag false))).turn
                  (.settle derived (.failed (.raised machine.world.causes error)))) := by
            refine yields_settleText texted (congrArg _ bottom) (shows.turn _) rfl fun _ => ?_
            rw [pending, Option.getD_none]
          apply yields_frame _ (congrArg _ bottom) (by simp) above
          rintro below reply _ bottom shows rfl
          exact yields_done bottom rfl (shows.reply _) holds

end Text

/-- The end was read: the collector is told, if it wants to be, and goes. -/
theorem yields_ending (texted : site.text = some (derived, charset)) {taken : List Bytes}
    {ending : Ending} (bottom : machine.stack = base) (shows : site.Shows view machine)
    (working : machine.control = .task (.next site.accumulator
      (.collecting (site.collector derived charset taken))))
    (flow : view.flow = .draining (site.refusal? taken).isNone [] (some ending))
    (whole : view.accepted = taken) (collects : ending = .finished → site.Collects taken view.text)
    (live : view.text = none → 2 ≤ view.textShares)
    (holds : ∀ reply, goal reply (drained charset view view.text (some ending))) :
    site.Yields base goal machine := by
  obtain ⟨stage, queue, closed, wantsEnd⟩ := shows.flows flow
  have queue : (machine.world.accumulator site.accumulator).queue = [.ending ending] := queue
  have read : site.Flows view.accepted .ending
      { machine.world.accumulator site.accumulator with queue := [] } := ⟨stage, closed⟩
  have shows := shows.setAccumulator read
  have closed : ((machine.setAccumulator site.accumulator
      { machine.world.accumulator site.accumulator with queue := [] }).world.accumulator
        site.accumulator).closed = true := shows.flow.2
  apply yields_task working
  simp only [perform, Machine.next, queue]
  split
  case isTrue told =>
      simp only [wantsEnd, Bool.and_eq_true, decide_eq_true_eq, Option.isNone_iff_eq_none] at told
      obtain ⟨rfl, fits⟩ := told
      have pending := (collects rfl).pending fits
      have text : (site.collector derived charset taken).text =
          charset.decode view.accepted.flatten := by
        rw [whole]
        exact Collector.text_collect fits
      have shows := (shows.note (.ended site.accumulator) (by simp)).push
        (.fedEnd site.accumulator
          (ChunkHandler.collecting (site.collector derived charset taken)).close)
      refine yields_frame (fun _ after => after = { view with
        flow := .ending
        text := some (.resolved (charset.decode view.accepted.flatten)) })
        (congrArg _ bottom) (by simp) (yields_task rfl ?_) ?_
      · simp only [perform, Machine.feedEnd, collector, Collector.promise_collect]
        refine yields_settleText texted (congrArg _ bottom) (shows.turn _) rfl fun _ => ?_
        rw [← text]
        simp only [pending, Option.getD_none]
        rfl
      · rintro below reply _ bottom shows rfl
        refine yields_letGo texted bottom shows Collector.promise_collect (by simp) ?_ shows.flow.2
        simpa [drained, pending] using holds
  case isFalse untold =>
      refine yields_letGo texted (by exact bottom) shows Collector.promise_collect
        live ?_ closed
      intro reply
      have text : drained charset view view.text (some ending) =
          { view with flow := .ceased, textShares := view.textShares - 1 } := by
        cases ending with
        | aborted => rfl
        | finished =>
            -- The collector refused a chunk, so the text failed before.
            cases refused : site.refusal? taken with
            | none => simp [wantsEnd, refused] at untold
            | some error =>
                obtain ⟨number, failed⟩ := (collects rfl).failed refused
                simp [drained, failed]
      have holds := holds reply
      rw [text] at holds
      exact holds

theorem yields_next (texted : site.text = some (derived, charset)) {ending : Option Ending}
    (left : List Bytes) {taken : List Bytes} (bottom : machine.stack = base)
    (shows : site.Shows view machine)
    (working : machine.control = .task (.next site.accumulator
      (.collecting (site.collector derived charset taken))))
    (flow : view.flow = .draining (site.refusal? taken).isNone left ending)
    (whole : view.accepted = taken ++ left) (collects : site.Collects taken view.text)
    (live : view.text = none → 2 ≤ view.textShares)
    (holds : ∀ reply text, site.Collects view.accepted text →
      goal reply (drained charset view text ending)) : site.Yields base goal machine := by
  -- `Collects` carries over from chunk to chunk whether one of them was refused.
  induction left generalizing taken machine view with
  | nil =>
      have whole : view.accepted = taken := by simpa using whole
      have collects' : site.Collects view.accepted view.text := whole ▸ collects
      cases ending with
      | some ending =>
          exact yields_ending texted bottom shows working flow whole (fun _ => collects) live
            fun reply => holds reply _ collects'
      | none =>
          obtain ⟨stage, queue, closed, wantsEnd⟩ := shows.flows flow
          have queue : (machine.world.accumulator site.accumulator).queue = [] := queue
          have parked : site.Flows view.accepted (.parked view.accepted [] none)
              ((machine.world.accumulator site.accumulator).park
                (.collecting (site.collector derived charset taken))) := by
            rw [whole]
            exact ⟨⟨derived, charset, texted, rfl⟩, queue, closed, wantsEnd⟩
          apply yields_task working
          simp only [perform, Machine.next, queue]
          exact yields_done bottom rfl ((shows.setAccumulator parked).reply _)
            (holds _ _ collects')
  | cons bytes left ih =>
      obtain ⟨stage, queue, closed, wantsEnd⟩ := shows.flows flow
      have queue : (machine.world.accumulator site.accumulator).queue =
          .chunk bytes :: Item.line left ending := queue
      have shorter : site.Flows view.accepted
          (.draining (site.refusal? taken).isNone left ending)
          ((machine.world.accumulator site.accumulator).dequeue bytes (Item.line left ending)) :=
        ⟨stage, rfl, closed, wantsEnd⟩
      have shows := ((shows.setAccumulator shorter).note (.handed site.accumulator bytes)
        (by simp)).push (.fed site.accumulator
          ((ChunkHandler.collecting (site.collector derived charset taken)).take bytes))
      apply yields_task working
      simp only [perform, Machine.next, queue]
      have first := collects
      refine yields_frame (fun reply after =>
        reply = .flag (site.refusal? (taken ++ [bytes])).isNone ∧
          ∃ text, site.Collects (taken ++ [bytes]) text ∧ after = { view with
            flow := .draining (site.refusal? taken).isNone left ending
            text }) (congrArg _ bottom) (by simp) (yields_feed texted (congrArg _ bottom)
              (shows.turn _) rfl collects fun text collects => ?_) ?_
      · exact ⟨rfl, text, collects, rfl⟩
      · rintro below _ _ bottom shows ⟨rfl, text, collects, rfl⟩
        obtain ⟨stage, queue, closed, -⟩ := shows.flow
        have answered : site.Flows view.accepted
            (.draining (site.refusal? (taken ++ [bytes])).isNone left ending)
            { below.world.accumulator site.accumulator with
              wantsEnd := (site.refusal? (taken ++ [bytes])).isNone } :=
          ⟨stage, queue, closed, rfl⟩
        have shows := ((shows.setAccumulator answered).note (.answered site.accumulator
          (site.refusal? (taken ++ [bytes])).isNone) (by simp)).turn (.next site.accumulator
            ((ChunkHandler.collecting (site.collector derived charset taken)).take bytes))
        refine ih bottom shows ?_ rfl (by simpa using whole) collects ?_ ?_
        · have further : (ChunkHandler.collecting (site.collector derived charset taken)).take
              bytes = .collecting (site.collector derived charset (taken ++ [bytes])) :=
            congrArg ChunkHandler.collecting (Collector.take_collect bytes)
          rw [← further]
          rfl
        · intro pending
          have pending : text = none := pending
          subst pending
          exact live (collects.earlier first)
        · intro reply text collects
          have holds := holds reply text collects
          cases ending <;> exact holds

theorem yields_drain (texted : site.text = some (derived, charset)) {ending : Option Ending}
    {taken left : List Bytes} (bottom : machine.stack = base) (shows : site.Shows view machine)
    (working : machine.control = .task (.drain site.accumulator))
    (flow : view.flow = .parked taken left ending)
    (next : ∀ taking : Machine, taking.stack = base →
      site.Shows { view with flow := .draining (site.refusal? taken).isNone left ending } taking →
      taking.control = .task (.next site.accumulator
        (.collecting (site.collector derived charset taken))) → site.Yields base goal taking) :
    site.Yields base goal machine := by
  obtain ⟨⟨other, named, texted', parked⟩, queue, closed, wantsEnd⟩ := shows.flows flow
  obtain ⟨rfl, rfl⟩ : derived = other ∧ charset = named := by simpa [texted] using texted'
  have taking : site.Flows view.accepted (.draining (site.refusal? taken).isNone left ending)
      { machine.world.accumulator site.accumulator with stage := .draining } :=
    ⟨rfl, queue, closed, wantsEnd⟩
  apply yields_task working
  simp only [perform, Machine.drain, parked]
  exact next _ bottom ((shows.setAccumulator taking).turn _) rfl

theorem yields_drain_idle {ending : Option Ending} (bottom : machine.stack = base)
    (shows : site.Shows view machine)
    (working : machine.control = .task (.drain site.accumulator))
    (flow : view.flow = .idle ending) (holds : ∀ reply, goal reply view) :
    site.Yields base goal machine := by
  obtain ⟨unattached, -⟩ := shows.flows flow
  apply yields_task working
  simp only [perform, Machine.drain, unattached]
  exact yields_done bottom rfl (shows.reply _) (holds _)

end Handoff.Site
