import Handoff.Proofs.Bodies.Collector
import Handoff.Proofs.Zones.Scope

namespace Handoff

/-! The site of a body.

The site is the body with its accumulator and its promise and, once the body was
handed over as text, the promise of the text.  A view says how the site stands.
All other objects are outside of the site; work out there does not change the
view. -/

structure Site where
  body : Nat
  accumulator : Nat
  promise : Nat
  config : Config
  /-- The promise of the text, and how the octets are read. -/
  text : Option (Nat × Charset)

inductive Flow where
  /-- No handler was attached; the stream may have ended. -/
  | idle (ending : Option Ending)
  /-- The collector waits; it was given some chunks, and others are left. -/
  | parked (taken left : List Bytes) (ending : Option Ending)
  /-- A drain has the collector. -/
  | draining (wantsEnd : Bool) (left : List Bytes) (ending : Option Ending)
  /-- A drain has read the end. -/
  | ending
  /-- The collector was let go. -/
  | ceased

structure View where
  accepted : List Bytes
  flow : Flow
  senders : Nat
  owned : Bool
  outcome : Option Outcome
  shares : Nat
  /-- Whether failures of the body are passed on to the text. -/
  linked : Bool
  text : Option Outcome
  textShares : Nat

/-- The items of a queue: chunks, and behind them the end if there is one. -/
def Item.line (chunks : List Bytes) (ending : Option Ending) : List Item :=
  chunks.map .chunk ++ ending.toList.map .ending

namespace Site

def derived? (site : Site) : Option Nat :=
  site.text.map Prod.fst

/-- Everything that is not part of the site. -/
def outside (site : Site) (panics : Prop) : Zone where
  promise index := index ≠ site.promise ∧ site.derived? ≠ some index
  accumulator index := index ≠ site.accumulator
  body index := index ≠ site.body
  channel _ := True
  panics := panics

def refusal? (site : Site) (chunks : List Bytes) : Option Error :=
  site.config.textCapacity.firstRefusal 0 chunks

def collector (site : Site) (derived : Nat) (charset : Charset) (chunks : List Bytes) : Collector :=
  .collect charset site.config.textCapacity derived chunks

/-- The handlers that may wait for the promise of the body. -/
def Hears (site : Site) (handler : CompletionHandler) : Prop :=
  handler.In (site.outside False) ∨ handler = .aborting site.accumulator ∨
    ∃ derived charset, site.text = some (derived, charset) ∧ handler = .passing derived

def Flows (site : Site) (accepted : List Bytes) : Flow → Accumulator → Prop
  | .idle ending, accumulator =>
      accumulator.stage = .unattached ∧ accumulator.queue = Item.line accepted ending ∧
        accumulator.closed = ending.isSome ∧ accumulator.wantsEnd = true
  | .parked taken left ending, accumulator =>
      (∃ derived charset, site.text = some (derived, charset) ∧
        accumulator.stage = .parked (.collecting (site.collector derived charset taken))) ∧
        accumulator.queue = Item.line left ending ∧ accumulator.closed = ending.isSome ∧
        accumulator.wantsEnd = (site.refusal? taken).isNone
  | .draining wantsEnd left ending, accumulator =>
      accumulator.stage = .draining ∧ accumulator.queue = Item.line left ending ∧
        accumulator.closed = ending.isSome ∧ accumulator.wantsEnd = wantsEnd
  | .ending, accumulator => accumulator.stage = .draining ∧ accumulator.closed = true
  | .ceased, accumulator => accumulator.stage = .released ∧ accumulator.closed = true

structure Completes (site : Site) (outcome : Option Outcome) (shares : Nat) (linked : Bool)
    (promise : Promise) : Prop where
  stored : promise.outcome? = outcome
  held : promise.shares = shares
  unowned : promise.owned = false
  heard : ∀ registration ∈ promise.waiting, site.Hears registration.handler
  aborts : outcome = none →
    ∃ registration ∈ promise.waiting, registration.handler = .aborting site.accumulator
  passes : outcome = none → linked = true → ∀ derived charset, site.text = some (derived, charset) →
    ∃ registration ∈ promise.waiting, registration.handler = .passing derived

structure Derives (site : Site) (outcome : Option Outcome) (shares : Nat) (promise : Promise) :
    Prop where
  stored : promise.outcome? = outcome
  held : promise.shares = shares
  unowned : promise.owned = false
  heard : ∀ registration ∈ promise.waiting, registration.handler.In (site.outside False)

/-- The site stands as the view says. -/
structure Shows (site : Site) (view : View) (machine : Machine) : Prop where
  outside : machine.world.In (site.outside False)
  opened : machine.world.Open (site.outside False)
  accepted : machine.accepted site.accumulator = view.accepted
  flow : site.Flows view.accepted view.flow (machine.world.accumulator site.accumulator)
  body : machine.world.body site.body =
    ⟨site.accumulator, site.promise, site.config, view.senders, view.owned⟩
  promise : site.Completes view.outcome view.shares view.linked
    (machine.world.promise site.promise)
  text : ∀ derived charset, site.text = some (derived, charset) →
    derived ≠ site.promise ∧
      site.Derives view.text view.textShares (machine.world.promise derived)

end Site

namespace Machine

theorem streamPast_note (machine : Machine) (entry : Entry) (index : Nat) :
    (machine.note entry).streamPast index =
      if entry.accumulator? = some index then machine.streamPast index ++ [entry]
      else machine.streamPast index := by
  simp only [streamPast, note, List.reverse_cons, List.filter_append, List.filter_cons,
    List.filter_nil, decide_eq_true_eq]
  split
  · rfl
  · exact List.append_nil _

theorem accepted_note (machine : Machine) (entry : Entry) (index : Nat) :
    (machine.note entry).accepted index =
      if entry.accumulator? = some index then machine.accepted index ++ entry.accepted?.toList
      else machine.accepted index := by
  rw [accepted, streamPast_note]
  split
  · rw [History.accepted_append]
    rfl
  · rfl

end Machine

namespace Promise.Extends

variable {zone : Zone} {before after : Promise}

theorem waiting (more : before.Extends zone after) {registration : Registration}
    (waits : registration ∈ after.waiting) :
    registration ∈ before.waiting ∨ registration.handler.In zone := by
  obtain ⟨later, inside, state⟩ := more.state
  cases settled : before.state with
  | settled outcome => simp [Promise.waiting, state, settled, State.extend] at waits
  | pending earlier =>
      simp only [Promise.waiting, state, settled, State.extend, List.mem_append] at waits ⊢
      exact waits.imp id (inside registration)

theorem stays (more : before.Extends zone after) {registration : Registration}
    (waits : registration ∈ before.waiting) : registration ∈ after.waiting := by
  obtain ⟨later, inside, state⟩ := more.state
  cases settled : before.state with
  | settled outcome => simp [Promise.waiting, settled] at waits
  | pending earlier =>
      simp only [Promise.waiting, state, settled, State.extend, List.mem_append] at waits ⊢
      exact .inl waits

end Promise.Extends

namespace Site

variable {site : Site} {view : View} {machine after : Machine}

theorem Completes.extends {outcome : Option Outcome} {shares : Nat} {linked : Bool}
    {before after : Promise} (completes : site.Completes outcome shares linked before)
    (more : before.Extends (site.outside False) after) :
    site.Completes outcome shares linked after where
  stored := more.outcome?.trans completes.stored
  held := more.shares.trans completes.held
  unowned := more.owned.trans completes.unowned
  heard registration member := (more.waiting member).elim (completes.heard registration) .inl
  aborts pending := by
    obtain ⟨registration, waits, same⟩ := completes.aborts pending
    exact ⟨registration, more.stays waits, same⟩
  passes pending linked derived charset texted := by
    obtain ⟨registration, waits, same⟩ := completes.passes pending linked derived charset texted
    exact ⟨registration, more.stays waits, same⟩

theorem Derives.extends {outcome : Option Outcome} {shares : Nat} {before after : Promise}
    (derives : site.Derives outcome shares before)
    (more : before.Extends (site.outside False) after) : site.Derives outcome shares after where
  stored := more.outcome?.trans derives.stored
  held := more.shares.trans derives.held
  unowned := more.owned.trans derives.unowned
  heard registration member := (more.waiting member).elim (derives.heard registration) id

namespace Shows

theorem flows (shows : site.Shows view machine) {flow : Flow} (same : view.flow = flow) :
    site.Flows view.accepted flow (machine.world.accumulator site.accumulator) :=
  same ▸ shows.flow

/-- Work outside of the site does not change how it stands. -/
theorem kept (shows : site.Shows view machine) (outside : after.world.In (site.outside False))
    (kept : machine.Kept (site.outside False) after) : site.Shows view after := by
  have accumulator := kept.accumulators site.accumulator (fun apart => apart rfl)
  refine ⟨outside, shows.opened.grown kept.grown, ?_, ?_, ?_, ?_, ?_⟩
  · rw [Machine.accepted, accumulator.2]
    exact shows.accepted
  · rw [accumulator.1]
    exact shows.flow
  · rw [kept.bodies site.body fun apart => apart rfl]
    exact shows.body
  · exact shows.promise.extends (kept.promises site.promise fun apart => apart.1 rfl)
  · intro derived charset texted
    obtain ⟨apart, derives⟩ := shows.text derived charset texted
    have own : ¬ (site.outside False).promise derived := fun apart =>
      apart.2 (by simp [derived?, texted])
    exact ⟨apart, derives.extends (kept.promises derived own)⟩

theorem same (shows : site.Shows view machine) (world : after.world = machine.world)
    (accepted : after.accepted site.accumulator = machine.accepted site.accumulator) :
    site.Shows view after := by
  obtain ⟨outside, opened, taken, flow, body, promise, text⟩ := shows
  constructor
  case accepted => exact accepted.trans taken
  all_goals
    rw [world]
    assumption

theorem note (shows : site.Shows view machine) (entry : Entry)
    (quiet : entry.accumulator? = some site.accumulator → entry.accepted? = none) :
    site.Shows view (machine.note entry) := by
  refine shows.same rfl ?_
  rw [Machine.accepted_note]
  split
  case isTrue own =>
      rw [quiet own]
      exact List.append_nil _
  case isFalse => rfl

theorem log (shows : site.Shows view machine) (notice : Notice) :
    site.Shows view (machine.log notice) :=
  shows.note _ (by simp [Entry.accumulator?])

theorem push (shows : site.Shows view machine) (frame : Frame) :
    site.Shows view (machine.push frame) :=
  shows.same rfl rfl

theorem turn (shows : site.Shows view machine) (task : Task) :
    site.Shows view (machine.turn task) :=
  shows.same rfl rfl

theorem reply (shows : site.Shows view machine) (reply : Reply) :
    site.Shows view (machine.reply reply) :=
  shows.same rfl rfl

theorem logs (shows : site.Shows view machine) (notices : List Notice) :
    site.Shows view (notices.foldl Machine.log machine) := by
  induction notices generalizing machine with
  | nil => exact shows
  | cons notice rest ih => exact ih (shows.log notice)

theorem countCauses (shows : site.Shows view machine) (causes : Nat) :
    site.Shows view (machine.withWorld { machine.world with causes }) := by
  obtain ⟨outside, opened, accepted, flow, body, promise, text⟩ := shows
  exact ⟨⟨outside.waiting, outside.parked, outside.held, outside.bodies⟩,
    ⟨opened.promises, opened.accumulators, opened.bodies, opened.channels⟩, accepted, flow, body, promise, text⟩

theorem countRegistrations (shows : site.Shows view machine) (registrations : Nat) :
    site.Shows view (machine.withWorld { machine.world with registrations }) := by
  obtain ⟨outside, opened, accepted, flow, body, promise, text⟩ := shows
  exact ⟨⟨outside.waiting, outside.parked, outside.held, outside.bodies⟩,
    ⟨opened.promises, opened.accumulators, opened.bodies, opened.channels⟩, accepted, flow, body, promise, text⟩

theorem setAccumulator (shows : site.Shows view machine) {accumulator : Accumulator} {flow : Flow}
    (flows : site.Flows view.accepted flow accumulator) :
    site.Shows { view with flow } (machine.setAccumulator site.accumulator accumulator) := by
  obtain ⟨outside, opened, accepted, -, body, promise, text⟩ := shows
  refine ⟨⟨outside.waiting, fun index own => ?_, outside.held, outside.bodies⟩,
    opened.grown (Machine.grown_setAccumulator _ _ _), accepted, ?_, body, promise, text⟩
  · rw [Machine.accumulator_setAccumulator, if_neg own]
    exact outside.parked index own
  · rw [Machine.accumulator_setAccumulator, if_pos rfl]
    exact flows

theorem accept (shows : site.Shows view machine) {accumulator : Accumulator} {flow : Flow}
    {bytes : Bytes} (flows : site.Flows (view.accepted ++ [bytes]) flow accumulator) :
    site.Shows { view with accepted := view.accepted ++ [bytes], flow }
      ((machine.setAccumulator site.accumulator accumulator).note
        (.accepted site.accumulator bytes)) := by
  obtain ⟨outside, opened, accepted, -, body, promise, text⟩ := shows
  refine ⟨⟨outside.waiting, fun index own => ?_, outside.held, outside.bodies⟩,
    opened.grown (Machine.grown_setAccumulator _ _ _), ?_, ?_, body, promise, text⟩
  · change ∀ handler, ((machine.setAccumulator site.accumulator accumulator).world.accumulator
      index).stage = _ → _
    rw [Machine.accumulator_setAccumulator, if_neg own]
    exact outside.parked index own
  · rw [Machine.accepted_note]
    have same : (machine.setAccumulator site.accumulator accumulator).accepted site.accumulator =
        machine.accepted site.accumulator := rfl
    simp [Entry.accumulator?, same, accepted]
  · change site.Flows _ _ ((machine.setAccumulator site.accumulator accumulator).world.accumulator _)
    rw [Machine.accumulator_setAccumulator, if_pos rfl]
    exact flows

theorem setBody (shows : site.Shows view machine) (senders : Nat) (owned : Bool) :
    site.Shows { view with senders, owned } (machine.setBody site.body
      { machine.world.body site.body with senders, owned }) := by
  obtain ⟨outside, opened, accepted, flow, body, promise, text⟩ := shows
  have grown : machine.world.Grown (machine.setBody site.body
      { machine.world.body site.body with senders, owned }).world :=
    ⟨Nat.le_refl _, Nat.le_refl _, by
      simp only [Machine.setBody, Machine.withWorld, World.setBody, Store.size_set]
      omega, Nat.le_refl _, fun index _ => by
      rw [Machine.body_setBody]
      split
      case isTrue same => rw [same]
      case isFalse => rfl⟩
  refine ⟨⟨outside.waiting, outside.parked, outside.held, fun index own => ?_⟩,
    opened.grown grown, accepted, flow, ?_, promise, text⟩
  · have made : index < machine.world.bodies.size := by
      by_cases made : index < machine.world.bodies.size
      · exact made
      · have size := own.2
        have bound : site.body < machine.world.bodies.size := by
          by_cases bound : site.body < machine.world.bodies.size
          · exact bound
          · exact absurd rfl (opened.bodies site.body (Nat.le_of_not_lt bound))
        simp only [Machine.setBody, Machine.withWorld, World.setBody, Store.size_set] at size
        omega
    rw [Machine.body_setBody, if_neg own.1]
    exact outside.bodies index ⟨own.1, made⟩
  · rw [Machine.body_setBody, if_pos rfl, body]

theorem setPromise (shows : site.Shows view machine) {promise : Promise} {outcome : Option Outcome}
    {shares : Nat} {linked : Bool} (completes : site.Completes outcome shares linked promise) :
    site.Shows { view with outcome, shares, linked } (machine.setPromise site.promise promise) := by
  obtain ⟨outside, opened, accepted, flow, body, -, text⟩ := shows
  refine ⟨⟨fun index own => ?_, outside.parked, outside.held, outside.bodies⟩,
    opened.grown (Machine.grown_setPromise _ _ _), accepted, flow, body, ?_, ?_⟩
  · rw [Machine.promise_setPromise, if_neg own.1]
    exact outside.waiting index own
  · rw [Machine.promise_setPromise, if_pos rfl]
    exact completes
  · intro derived charset texted
    obtain ⟨apart, derives⟩ := text derived charset texted
    rw [Machine.promise_setPromise, if_neg apart]
    exact ⟨apart, derives⟩

theorem setText (shows : site.Shows view machine) {derived : Nat} {charset : Charset}
    (texted : site.text = some (derived, charset)) {promise : Promise} {text : Option Outcome}
    {textShares : Nat} (derives : site.Derives text textShares promise) :
    site.Shows { view with text, textShares } (machine.setPromise derived promise) := by
  obtain ⟨outside, opened, accepted, flow, body, completes, both⟩ := shows
  have apart := (both derived charset texted).1
  refine ⟨⟨fun index own => ?_, outside.parked, outside.held, outside.bodies⟩,
    opened.grown (Machine.grown_setPromise _ _ _), accepted, flow, body, ?_, ?_⟩
  · have other : index ≠ derived := fun same => own.2 (by simp [derived?, texted, same])
    rw [Machine.promise_setPromise, if_neg other]
    exact outside.waiting index own
  · rw [Machine.promise_setPromise, if_neg apart.symm]
    exact completes
  · intro other named texted'
    obtain ⟨rfl, rfl⟩ : other = derived ∧ named = charset := by simpa [texted, eq_comm] using texted'
    rw [Machine.promise_setPromise, if_pos rfl]
    exact ⟨apart, derives⟩

end Shows

end Site

end Handoff
