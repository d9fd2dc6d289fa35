import Handoff.Proofs.Bodies.Use

namespace Handoff

/-! A body is handed over as text.

The promise of the text joins the site.  The collector is given what was accepted
so far, and the end if the stream has ended; then failures of the body are linked
to the text.  When the call is over, the body is calm again. -/

/-- Everything but one promise. -/
def Zone.apart (promise : Nat) : Zone where
  promise index := index ≠ promise
  accumulator _ := True
  body _ := True
  channel _ := True
  panics := True

namespace Machine

theorem Reached.within_apart {machine : Machine} (reached : machine.Reached) :
    machine.Within (.apart machine.world.promises.size) :=
  reached.rooted _ trivial ⟨fun _ made => Nat.ne_of_lt made, fun _ _ => trivial, fun _ _ => trivial,
    fun _ _ => trivial⟩

end Machine

namespace Site

open Machine

/-- The site of a body that is handed over as text. -/
def asText (site : Site) (derived : Nat) (charset : Charset) : Site :=
  { site with text := some (derived, charset) }

variable {site : Site} {base : List Frame} {machine : Machine} {view : View} {derived : Nat}
  {charset : Charset}

theorem meet_asText (untexted : site.text = none) (derived : Nat) (charset : Charset)
    (panics : Prop) : (site.outside panics).Meet (.apart derived)
      ((site.asText derived charset).outside panics) where
  promise index own other := ⟨own.1, by
    have other : index ≠ derived := other
    simp [derived?, asText, other.symm]⟩
  accumulator index own _ := own
  body index own _ := own
  channel _ _ _ := trivial
  panics panics _ := panics
  promises index own := by
    obtain ⟨apart, other⟩ := own
    refine ⟨⟨apart, by simp [derived?, untexted]⟩, fun same => other ?_⟩
    simp [derived?, asText, same]
  accumulators index own := ⟨own, trivial⟩
  bodies index own := ⟨own, trivial⟩

theorem Shows.promise_made (shows : site.Shows view machine) :
    site.promise < machine.world.promises.size := by
  by_cases made : site.promise < machine.world.promises.size
  · exact made
  · exact absurd rfl (shows.opened.promises _ (Nat.le_of_not_lt made)).1

/-- The promise of a text is new to everything that was there before. -/
theorem Shows.texted (shows : site.Shows view machine) (untexted : site.text = none)
    (apart : machine.world.In (.apart machine.world.promises.size)) (charset : Charset)
    {ending : Option Ending} (flow : view.flow = .idle ending) :
    (site.asText machine.world.promises.size charset).Shows
      { view with linked := view.outcome.isSome, text := none, textShares := 2 }
      (machine.withWorld (machine.world.addPromise (.inside 2))) := by
  have meet := meet_asText untexted machine.world.promises.size charset False
  have old (index : Nat) (other : index ≠ machine.world.promises.size) :
      (machine.world.addPromise (.inside 2)).promise index = machine.world.promise index :=
    (Store.get_add _ _ _).trans (if_neg other)
  have new : (machine.world.addPromise (.inside 2)).promise machine.world.promises.size =
      .inside 2 := (Store.get_add _ _ _).trans (if_pos rfl)
  have made := shows.promise_made
  have both := meet.world shows.outside apart
  constructor
  case outside =>
      refine ⟨fun index own => ?_, both.parked, both.held, both.bodies⟩
      have row := old index (meet.promises index own).2
      change ∀ registration ∈ ((machine.world.addPromise (.inside 2)).promise index).waiting, _
      rw [row]
      exact both.waiting index own
  case opened =>
      refine ⟨fun index free => ?_, shows.opened.accumulators, shows.opened.bodies,
        shows.opened.channels⟩
      have free : machine.world.promises.size + 1 ≤ index :=
        Nat.le_trans (Nat.le_of_eq (Store.size_add _ _).symm) free
      exact meet.promise index (shows.opened.promises index (Nat.le_of_succ_le free))
        (Nat.ne_of_gt free)
  case accepted => exact shows.accepted
  case flow =>
      change Flows _ _ view.flow _
      rw [flow]
      exact shows.flows flow
  case body => exact shows.body
  case promise =>
      have row := old site.promise (Nat.ne_of_lt made)
      obtain ⟨stored, held, unowned, heard, aborts, passes⟩ := shows.promise
      change Completes _ _ _ _ ((machine.world.addPromise (.inside 2)).promise site.promise)
      rw [row]
      refine ⟨stored, held, unowned, fun registration member => ?_, aborts, ?_⟩
      · have other := apart.waiting site.promise (Nat.ne_of_lt made) registration member
        rcases heard registration member with inside | aborting | ⟨_, _, texted, -⟩
        · exact .inl (meet.completion inside other)
        · exact .inr (.inl aborting)
        · simp [untexted] at texted
      · intro pending linked
        have pending : view.outcome = none := pending
        simp [pending] at linked
  case text =>
      intro derived named texted
      obtain ⟨rfl, rfl⟩ : machine.world.promises.size = derived ∧ charset = named := by
        simpa [asText] using texted
      refine ⟨Nat.ne_of_gt made, ?_⟩
      change Derives _ _ _ ((machine.world.addPromise (.inside 2)).promise _)
      rw [new]
      exact ⟨rfl, rfl, rfl, by simp [Promise.waiting, Promise.inside]⟩

variable {goal : Reply → View → Prop}

theorem Completes.link {promise : Promise} {shares : Nat} {linked : Bool}
    (completes : site.Completes none shares linked promise)
    (texted : site.text = some (derived, charset)) (number : Nat) :
    site.Completes none shares true (promise.enqueue ⟨number, .passing derived⟩) := by
  obtain ⟨stored, held, unowned, heard, aborts, -⟩ := completes
  obtain ⟨waiting, state⟩ := Promise.outcome?_eq_none.mp stored
  have row : promise.enqueue ⟨number, .passing derived⟩ =
      { promise with state := .pending (waiting ++ [⟨number, .passing derived⟩]) } := by
    simp only [Promise.enqueue, state]
  rw [Promise.waiting, state] at heard aborts
  rw [row]
  refine ⟨rfl, held, unowned, ?_, fun pending => ?_, fun _ _ other named texted' => ?_⟩
  · intro registration member
    rcases List.mem_append.mp member with member | member
    · exact heard registration member
    · obtain rfl := List.mem_singleton.mp member
      exact .inr (.inr ⟨derived, charset, texted, rfl⟩)
  · obtain ⟨registration, waits, same⟩ := aborts pending
    exact ⟨registration, List.mem_append_left _ waits, same⟩
  · obtain ⟨rfl, rfl⟩ : derived = other ∧ charset = named := by simpa [texted] using texted'
    exact ⟨_, List.mem_append_right _ (List.mem_singleton_self _), rfl⟩

section Linking

variable (texted : site.text = some (derived, charset)) (bottom : machine.stack = base)
  (shows : site.Shows view machine)

include texted bottom shows

theorem yields_attach {ending : Option Ending} (flow : view.flow = .idle ending)
    (untold : view.text = none) (live : 2 ≤ view.textShares)
    (working : machine.control =
      .task (.attach site.accumulator (.collecting (site.collector derived charset []))))
    (holds : ∀ text, site.Collects view.accepted text → goal .ok (drained charset view text ending)) :
    site.Yields base goal machine := by
  obtain ⟨unattached, queue, closed, wantsEnd⟩ := shows.flows flow
  have first : ¬ (machine.world.accumulator site.accumulator).isAttached = true := by
    simp [Accumulator.isAttached, unattached]
  have parked : site.Flows view.accepted (.parked [] view.accepted ending)
      ((machine.world.accumulator site.accumulator).park
        (.collecting (site.collector derived charset []))) :=
    ⟨⟨derived, charset, texted, rfl⟩, queue, closed, wantsEnd⟩
  have shows := ((shows.setAccumulator parked).log (.handlerAttached
    (machine.world.accumulator site.accumulator).queue.length)).push (.replying .ok)
  apply yields_task working
  simp only [perform, Machine.attach]
  rw [if_neg first]
  refine yields_frame (fun _ after => ∃ text, site.Collects view.accepted text ∧
    after = drained charset view text ending) (congrArg _ bottom) (by simp) ?_ ?_
  · refine yields_drain texted (congrArg _ bottom) (shows.turn _) rfl rfl
      fun taking bottom shows working => ?_
    refine yields_next texted view.accepted bottom shows working rfl rfl untold (fun _ => live) ?_
    intro reply text collects
    exact ⟨text, collects, by cases ending <;> rfl⟩
  · rintro below reply _ bottom shows ⟨text, collects, rfl⟩
    exact yields_done bottom rfl (shows.reply _) (holds text collects)

/-- Failures of a body are linked to its text: they are passed on later, or at once
if the body was settled before. -/
theorem yields_link (working : machine.control = .task (.register site.promise (.passing derived)))
    (pending : view.outcome = none → goal .done { view with linked := true })
    (awaits : ∀ outcome number, view.outcome = some outcome →
      site.Awaits outcome [⟨number, .passing derived⟩] view)
    (settled : ∀ outcome reply after, view.outcome = some outcome →
      site.Told outcome [] view after → goal reply after) : site.Yields base goal machine := by
  have shows := (shows.countRegistrations (machine.world.registrations + 1)).note
    (.registered site.promise machine.world.registrations) (by simp [Entry.accumulator?])
  apply yields_task working
  simp only [perform, Machine.register]
  cases stored : view.outcome with
  | some outcome =>
      have state : (machine.world.promise site.promise).state = .settled outcome :=
        Promise.outcome?_eq_some.mp (shows.promise.stored.trans stored)
      have shows := ((shows.note (.told site.promise machine.world.registrations outcome)
        (by simp [Entry.accumulator?])).push (.forgetting [.passing derived])).turn
          (.tell (.passing derived) outcome)
      simp only [state]
      exact yields_told_passing shows (congrArg _ bottom) rfl
        (awaits outcome machine.world.registrations stored)
        (fun reply after told => settled outcome reply after stored told) texted rfl
  | none =>
      obtain ⟨waiting, state⟩ := Promise.outcome?_eq_none.mp (shows.promise.stored.trans stored)
      have state : (machine.world.promise site.promise).state = .pending waiting := state
      have completes := shows.promise
      rw [stored] at completes
      have linked := completes.link texted machine.world.registrations
      rw [← stored] at linked
      simp only [state]
      exact yields_done bottom rfl ((shows.setPromise linked).reply _) (pending stored)

end Linking

theorem Calm.idle (calm : site.Calm view) (untexted : site.text = none) :
    view.flow = .idle (view.outcome.map Outcome.ending) := by
  have flow := calm.flow
  cases stored : view.outcome with
  | none => simpa [stored, going, untexted] using flow
  | some outcome => simpa [stored, gone, untexted] using flow

/-- The view of a calm body whose stream was given to a collector, before its
failures are linked to the text. -/
def collected (charset : Charset) (view : View) (text : Option Outcome) : View :=
  drained charset { view with linked := view.outcome.isSome, text := none, textShares := 2 } text
    (view.outcome.map Outcome.ending)

theorem outcome_collected (charset : Charset) (view : View) (text : Option Outcome) :
    (collected charset view text).outcome = view.outcome := by
  cases stored : view.outcome <;> simp [collected, drained, stored]

theorem collected_of_settled {outcome : Outcome} (stored : view.outcome = some outcome)
    (text : Option Outcome) : collected charset view text =
      drained charset { view with linked := true, text := none, textShares := 2 } text
        (some outcome.ending) := by
  simp [collected, stored]

theorem awaits_collected (texted : site.text = some (derived, charset)) {outcome : Outcome}
    (stored : view.outcome = some outcome) {text : Option Outcome}
    (collects : site.Collects view.accepted text) (number : Nat) :
    site.Awaits outcome [⟨number, .passing derived⟩] (collected charset view text) := by
  have ceased : (collected charset view text).flow = site.gone outcome.ending := by
    rw [collected_of_settled stored, gone_ceased texted, drained]
  have ended : (collected charset view text).flow ≠
      site.going (collected charset view text).accepted :=
    fun same => going_ne_gone site _ _ (same.symm.trans ceased)
  refine ⟨?_, .inr ⟨_, ceased⟩, fun same => absurd same ended,
    fun _ _ _ same => absurd same ended, ?_⟩
  · intro registration member
    obtain rfl := List.mem_singleton.mp member
    exact .inr (.inr ⟨derived, charset, texted, rfl⟩)
  · intro other named texted'
    obtain ⟨rfl, rfl⟩ : derived = other ∧ charset = named := by simpa [texted] using texted'
    rw [collected_of_settled stored]
    cases fails : outcome.fails with
    | false =>
        cases outcome with
        | resolved value => exact .inl (collects.resolved charset value)
        | failed cause => simp [Outcome.fails] at fails
        | cancelled force => simp [Outcome.fails] at fails
    | true =>
        simp only [drained, Outcome.ending_of_fails fails]
        cases refused : site.refusal? view.accepted with
        | none =>
            have untold := collects.pending refused
            exact .inr ⟨untold, rfl, trivial, _, List.mem_singleton_self _, rfl⟩
        | some error => exact .inl (by simpa [Delivers, Collects, refused] using collects)

theorem calm_of_pending (texted : site.text = some (derived, charset))
    (stored : view.outcome = none) (senders : view.senders = view.owned.toNat)
    (live : view.owned = true ∧ view.shares = 1) {text : Option Outcome}
    (collects : site.Collects view.accepted text) :
    site.Calm { collected charset view text with linked := true } := by
  have same : collected charset view text = { view with
      flow := .parked view.accepted [] none
      linked := false
      text
      textShares := 2 } := by
    simp [collected, drained, stored]
  rw [same]
  refine ⟨?_, senders, rfl, fun _ => live, fun _ _ _ _ => Nat.le_refl 2,
    fun other named texted' => ?_⟩
  · simp [stored, going, texted]
  · simp only [stored]
    exact Delivers.collects.mpr collects

theorem calm_of_told (texted : site.text = some (derived, charset)) {outcome : Outcome}
    (stored : view.outcome = some outcome) (senders : view.senders = view.owned.toNat)
    {text : Option Outcome} {after : View}
    (told : site.Told outcome [] (collected charset view text) after) :
    site.Calm after ∧ after.outcome = view.outcome := by
  obtain ⟨flow, text', textShares, awaits, ended, rfl⟩ := told
  rw [collected_of_settled stored] at awaits ended ⊢
  have ceased : flow = site.gone outcome.ending := by
    rcases ended with same | ⟨-, same⟩ | ⟨ending, -, same⟩
    · exact same.trans (gone_ceased texted _).symm
    · rw [same, gone_ceased texted, gone_ceased texted]
    · rw [same, gone_ceased texted, gone_ceased texted]
  refine ⟨⟨?_, senders, rfl, fun pending => ?_, fun pending => ?_, fun other named texted' => ?_⟩,
    rfl⟩
  · simp only [drained, stored]
    exact ceased
  · have pending : view.outcome = none := pending
    simp [stored] at pending
  · have pending : view.outcome = none := pending
    simp [stored] at pending
  · simp only [drained, stored]
    rcases awaits.passes other named texted' with delivers | ⟨-, -, -, _, member, -⟩
    · exact delivers
    · simp at member

/-- A calm body that is handed over as text is calm, and so is its text. -/
theorem yields_text (calm : site.Calm view) (shows : site.Shows view machine)
    (untexted : site.text = none)
    (apart : machine.world.In (.apart machine.world.promises.size)) (charset : Charset) :
    (site.asText machine.world.promises.size charset).Yields machine.stack
      (fun reply after => reply = .made machine.world.promises.size ∧
        (site.asText machine.world.promises.size charset).Calm after ∧
          after.outcome = view.outcome) (machine.begin (.text site.body charset)) := by
  have idle := calm.idle untexted
  have joined := shows.texted untexted apart charset idle
  have begun : machine.begin (.text site.body charset) =
      ((machine.withWorld (machine.world.addPromise (.inside 2))).push
        (.texting site.body machine.world.promises.size)).turn (.attach site.accumulator
          (.collecting ((site.asText machine.world.promises.size charset).collector
            machine.world.promises.size charset []))) := by
    simp only [begin, Machine.text, shows.body]
    rfl
  rw [begun]
  refine yields_frame (fun reply after => reply = .ok ∧
    ∃ text, (site.asText machine.world.promises.size charset).Collects view.accepted text ∧
      after = collected charset view text) rfl (by simp) ?_ ?_
  · apply yields_attach rfl rfl ((joined.push _).turn _) idle rfl (Nat.le_refl 2) rfl
    intro text collects
    exact ⟨rfl, text, collects, rfl⟩
  · rintro below _ _ bottom shows ⟨rfl, text, collects, rfl⟩
    have resumed : below.resume .ok (.texting site.body machine.world.promises.size) =
        (below.push (.replying (.made machine.world.promises.size))).turn
          (.register site.promise (.passing machine.world.promises.size)) := by
      have promise : (below.world.body site.body).promise = site.promise := shows.promise_body
      rw [← promise]
      rfl
    rw [resumed]
    refine yields_frame (fun _ after =>
      (site.asText machine.world.promises.size charset).Calm after ∧
        after.outcome = view.outcome) (congrArg _ bottom) (by simp) ?_ ?_
    · refine yields_link rfl (congrArg _ bottom) ((shows.push _).turn _) rfl ?_ ?_ ?_
      · intro stored
        have same := outcome_collected charset view text
        have pending := same.symm.trans stored
        exact ⟨calm_of_pending rfl pending calm.senders (calm.pending pending) collects, same⟩
      · intro outcome number stored
        have stored := (outcome_collected charset view text).symm.trans stored
        exact awaits_collected rfl stored collects number
      · intro outcome reply after stored told
        have stored := (outcome_collected charset view text).symm.trans stored
        exact calm_of_told rfl stored calm.senders told
    · rintro below reply after bottom shows ⟨calm, same⟩
      exact yields_done bottom rfl (shows.reply _) ⟨rfl, calm, same⟩

theorem Stands.asText (stands : site.Stands view machine) (reached : machine.Reached)
    (untexted : site.text = none) {after : Machine}
    (called : (site.asText machine.world.promises.size charset).Called (.text site.body charset)
      machine after) :
    after.control = .reply (.made machine.world.promises.size) ∧
      ∃ later, (site.asText machine.world.promises.size charset).Stands later after ∧
        later.outcome = view.outcome := by
  have apart := reached.within_apart
  obtain ⟨_, later, replied, shows, rfl, calm, same⟩ := yields_text stands.calm stands.shows untexted
    apart.world charset after called.course called.ceased
  refine ⟨replied, later, ⟨calm, shows, fun frame member => ?_, .inl (by rw [replied]; trivial)⟩,
    same⟩
  rw [called.ceased.1] at member
  obtain ⟨frames, stack, inside⟩ := apart.frames
  have other : frame.In (.apart machine.world.promises.size) machine.world := by
    apply inside frame
    rw [stack, List.append_nil] at member
    exact member
  have both := (meet_asText untexted machine.world.promises.size charset True).frame
    (stands.frames frame member) other
  obtain ⟨moves, rfl⟩ := called.reached
  exact both.grown (reached.rooted.run moves).2

theorem ends_replying {allow : Machine → Move → Prop} {reply : Reply}
    (rises : Rises (.replying reply :: base) machine) :
    Ends allow base (fun after => ∀ answer, after.control = .reply answer → answer = reply)
      machine := by
  have above : Ends allow (.replying reply :: base) (fun _ => True) machine :=
    fun _ _ _ => trivial
  refine ends_frame rises above ?_ ?_
  · intro below other bottom replied _
    refine ends_of_over ⟨bottom, rfl⟩ fun answer same => ?_
    exact (Control.reply.inj same).symm
  · intro below message bottom panicking _
    refine ends_of_over ⟨bottom, by rw [unwind, panicking]; rfl⟩ fun answer replied => ?_
    have clash : Control.panic message = .reply answer := panicking.symm.trans replied
    cases clash

/-- What a hand-over as text replies, from what the attachment replied. -/
def answered (derived : Nat) : Reply → Reply
  | .result (.error error) => .refused error
  | _ => .made derived

section Answers

variable {allow : Machine → Move → Prop} {body : Nat} {after : Machine}

theorem ends_texting {middle : Reply → Prop}
    (above : Ends allow (.texting body machine.world.promises.size :: machine.stack)
      (fun after => ∀ reply, after.control = .reply reply → middle reply)
      (machine.begin (.text body charset))) :
    Ends allow machine.stack (fun after => ∀ answer, after.control = .reply answer →
      ∃ reply, middle reply ∧ answer = answered machine.world.promises.size reply)
      (machine.begin (.text body charset)) := by
  refine ends_frame ⟨List.suffix_refl _, by simp [begin, Machine.text]⟩ above ?_ ?_
  · intro below reply bottom replied holds
    have rises : Rises (.replying (answered machine.world.promises.size reply) :: machine.stack)
        (below.resume reply (.texting body machine.world.promises.size)) := by
      cases reply with
      | result result =>
          cases result with
          | ok => exact rises_turn.mpr (bottom ▸ List.suffix_refl _)
          | error error => exact rises_turn.mpr (bottom ▸ List.suffix_refl _)
      | _ => exact rises_turn.mpr (bottom ▸ List.suffix_refl _)
    refine (ends_replying rises).weaken fun after _ same answer replied' => ?_
    exact ⟨reply, holds reply replied, same answer replied'⟩
  · intro below message bottom panicking _
    have stack : (below.push (.rethrowing message)).stack = .rethrowing message :: machine.stack :=
      congrArg _ bottom
    have rises : Rises (.rethrowing message :: machine.stack)
        (below.unwind message (.texting body machine.world.promises.size)) :=
      rises_turn.mpr (stack ▸ List.suffix_refl _)
    refine (ends_rethrowing rises).weaken ?_
    rintro after - ⟨message, panicking⟩ answer replied
    rw [panicking] at replied
    cases replied

theorem made_text (called : Machine.Called allow (.text body charset) machine after)
    (made : after.control = .reply (.made derived)) : derived = machine.world.promises.size := by
  have above : Ends allow (.texting body machine.world.promises.size :: machine.stack)
      (fun after => ∀ reply, after.control = .reply reply → True)
      (machine.begin (.text body charset)) := fun _ _ _ _ _ => trivial
  obtain ⟨reply, -, same⟩ := ends_texting above after called.course called.ceased _ made
  unfold answered at same
  split at same
  · cases same
  · exact Reply.made.inj same

theorem refused_text
    (attached : (machine.world.accumulator (machine.world.body body).accumulator).isAttached = true)
    (called : Machine.Called allow (.text body charset) machine after) :
    after.control ≠ .reply (.made derived) := by
  have above : Ends allow (.texting body machine.world.promises.size :: machine.stack)
      (fun after => ∀ answer, after.control = .reply answer → answer = .refused .alreadyAttached)
      (machine.begin (.text body charset)) := by
    have attaching : (machine.begin (.text body charset)).tick =
        ((machine.begin (.text body charset)).push (.replying (.refused .alreadyAttached))).turn
          (.discard (.collecting (.new charset (machine.world.body body).config.textCapacity
            machine.world.promises.size))) := by
      simp only [tick, begin, Machine.text, control_turn, perform, Machine.attach]
      exact if_pos attached
    refine ends_tick (by simp [Over, begin, Machine.text, Control.isOver])
      (by simp [begin, Machine.text]) (ends_replying ?_)
    rw [attaching]
    exact rises_turn.mpr (List.suffix_refl _)
  intro made
  obtain ⟨reply, rfl, same⟩ := ends_texting above after called.course called.ceased _ made
  cases same

end Answers

end Site

end Handoff
