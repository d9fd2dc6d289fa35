import Handoff.Proofs.Streams.History

namespace Handoff

/-! Zones.

A zone is a part of the objects that keeps to itself: whatever stands in it, be
it a handler, a frame or a row of a table, mentions objects of the zone only.
Work that begins in a zone stays there, and leaves everything outside as it was,
except that it may register handlers of the zone with promises outside. -/

structure Zone where
  promise : Nat → Prop
  accumulator : Nat → Prop
  body : Nat → Prop
  channel : Nat → Prop
  /-- Whether panics are part of it. -/
  panics : Prop

variable {zone : Zone}

def CompletionHandler.In (zone : Zone) : CompletionHandler → Prop
  | .mapping _ promise | .passing promise => zone.promise promise
  | .aborting accumulator => zone.accumulator accumulator
  | .forwarding channel => zone.channel channel
  | .client _ _ | .logging _ => True

def ChunkHandler.In (zone : Zone) : ChunkHandler → Prop
  | .collecting collector => zone.promise collector.promise
  | .forwarding channel => zone.channel channel
  | .client _ | .logging _ => True

/-- A body of the zone that was made. -/
def World.Holds (world : World) (zone : Zone) (body : Nat) : Prop :=
  zone.body body ∧ body < world.bodies.size

/-- A task registers with any promise, and dispatches for any promise, but only
handlers of the zone. -/
def Task.In (zone : Zone) (world : World) : Task → Prop
  | .settle promise _ | .release promise => zone.promise promise
  | .dispatch _ _ waiting => ∀ registration ∈ waiting, registration.handler.In zone
  | .tell handler _ | .register _ handler => handler.In zone
  | .forget handlers => ∀ handler ∈ handlers, handler.In zone
  | .deliver accumulator _ | .finish accumulator _ | .drain accumulator =>
      zone.accumulator accumulator
  | .attach accumulator handler | .next accumulator handler =>
      zone.accumulator accumulator ∧ handler.In zone
  | .feed handler _ | .feedEnd handler | .discard handler => handler.In zone
  | .abandon body => world.Holds zone body

def Frame.In (zone : Zone) (world : World) : Frame → Prop
  | .client _ | .replying _ | .dropping | .released => True
  | .forgetting handlers => ∀ handler ∈ handlers, handler.In zone
  | .dispatching _ _ waiting => ∀ registration ∈ waiting, registration.handler.In zone
  | .resolving promise | .releasing promise | .finishing promise _ | .settling promise _
  | .texting _ promise => zone.promise promise
  | .fed accumulator handler | .fedEnd accumulator handler =>
      zone.accumulator accumulator ∧ handler.In zone
  | .leaving body => world.Holds zone body
  | .streaming _ channel => zone.channel channel
  | .returning _ handler => handler.In zone
  | .rethrowing _ => zone.panics

def Control.In (zone : Zone) (world : World) : Control → Prop
  | .task work => work.In zone world
  | .panic _ | .stopped => zone.panics
  | .client _ | .reply _ => True

/-- What stands in the tables of a zone mentions the zone only. -/
structure World.In (zone : Zone) (world : World) : Prop where
  waiting : ∀ promise, zone.promise promise →
    ∀ registration ∈ (world.promise promise).waiting, registration.handler.In zone
  parked : ∀ accumulator, zone.accumulator accumulator →
    ∀ handler, (world.accumulator accumulator).stage = .parked handler → handler.In zone
  held : ∀ index handler, world.handler? index = some handler → handler.In zone
  bodies : ∀ body, world.Holds zone body →
    zone.accumulator (world.body body).accumulator ∧ zone.promise (world.body body).promise

/-- More handlers wait, if the promise is pending. -/
def Promise.State.extend : Promise.State → List Registration → Promise.State
  | .pending waiting, more => .pending (waiting ++ more)
  | .settled outcome, _ => .settled outcome

/-- Handlers of the zone were registered, and nothing else happened. -/
structure Promise.Extends (zone : Zone) (before after : Promise) : Prop where
  shares : after.shares = before.shares
  owned : after.owned = before.owned
  state : ∃ more : List Registration, (∀ registration ∈ more, registration.handler.In zone) ∧
    after.state = before.state.extend more

theorem Promise.Extends.refl (promise : Promise) : promise.Extends zone promise :=
  ⟨rfl, rfl, [], by simp, by cases state : promise.state <;> simp [Promise.State.extend]⟩

theorem Promise.Extends.trans {first second third : Promise} (earlier : first.Extends zone second)
    (later : second.Extends zone third) : first.Extends zone third := by
  obtain ⟨some, someIn, state⟩ := earlier.state
  obtain ⟨more, moreIn, state'⟩ := later.state
  refine ⟨later.shares.trans earlier.shares, later.owned.trans earlier.owned, some ++ more, ?_, ?_⟩
  · intro registration member
    exact (List.mem_append.mp member).elim (someIn registration) (moreIn registration)
  · rw [state', state]
    cases first.state <;> simp [Promise.State.extend]

theorem Promise.Extends.outcome? {before after : Promise} (extends' : before.Extends zone after) :
    after.outcome? = before.outcome? := by
  obtain ⟨more, -, state⟩ := extends'.state
  cases before' : before.state <;>
    simp [Promise.outcome?, state, before', Promise.State.extend]

theorem Promise.extends_enqueue (promise : Promise) {registration : Registration}
    (inside : registration.handler.In zone) :
    promise.Extends zone (promise.enqueue registration) := by
  cases state : promise.state with
  | pending waiting =>
      exact ⟨by simp [enqueue, state], by simp [enqueue, state], [registration],
        by simpa using inside, by simp [enqueue, state, State.extend]⟩
  | settled outcome =>
      have same : promise.enqueue registration = promise := by simp [enqueue, state]
      rw [same]
      exact .refl _

theorem Promise.mem_waiting_enqueue {promise : Promise} {registration other : Registration}
    (member : other ∈ (promise.enqueue registration).waiting) :
    other ∈ promise.waiting ∨ other = registration := by
  cases state : promise.state with
  | pending waiting => simpa [enqueue, Promise.waiting, state] using member
  | settled outcome => simp [enqueue, Promise.waiting, state] at member

/-- Everything that was made is still there, and bodies keep their streams. -/
structure World.Grown (before after : World) : Prop where
  promises : before.promises.size ≤ after.promises.size
  accumulators : before.accumulators.size ≤ after.accumulators.size
  bodies : before.bodies.size ≤ after.bodies.size
  channels : before.channels.size ≤ after.channels.size
  streams : ∀ body, body < before.bodies.size →
    (after.body body).accumulator = (before.body body).accumulator

theorem World.Grown.refl (world : World) : World.Grown world world :=
  ⟨Nat.le_refl _, Nat.le_refl _, Nat.le_refl _, Nat.le_refl _, fun _ _ => rfl⟩

theorem World.Grown.trans {first second third : World} (earlier : first.Grown second)
    (later : second.Grown third) : first.Grown third where
  promises := Nat.le_trans earlier.promises later.promises
  accumulators := Nat.le_trans earlier.accumulators later.accumulators
  bodies := Nat.le_trans earlier.bodies later.bodies
  channels := Nat.le_trans earlier.channels later.channels
  streams body made := (later.streams body (Nat.lt_of_lt_of_le made earlier.bodies)).trans
    (earlier.streams body made)

theorem Frame.In.grown {frame : Frame} {before after : World} (inside : frame.In zone before)
    (grown : before.Grown after) : frame.In zone after := by
  cases frame with
  | leaving body => exact ⟨inside.1, Nat.lt_of_lt_of_le inside.2 grown.bodies⟩
  | _ => exact inside

namespace Entry

/-- An entry concerns the objects of a zone. -/
def In (zone : Zone) : Entry → Prop
  | .accepted accumulator _ | .handed accumulator _ | .answered accumulator _
  | .closed accumulator _ | .ended accumulator | .released accumulator
  | .collapsed accumulator => zone.accumulator accumulator
  | .polled channel _ => zone.channel channel
  | _ => True

def poll? (channel : Nat) : Entry → Option Poll
  | .polled index poll => if index = channel then some poll else none
  | _ => none

theorem In.accumulator {entry : Entry} {index : Nat} (own : entry.In zone)
    (same : entry.accumulator? = some index) : zone.accumulator index := by
  cases entry with
  | accepted | handed | answered | closed | ended | released | collapsed =>
      obtain rfl := Option.some.inj same
      exact own
  | _ => cases same

theorem In.unpolled {entry : Entry} {index : Nat} (own : entry.In zone)
    (outside : ¬ zone.channel index) : entry.poll? index = none := by
  cases entry with
  | polled channel poll =>
      refine if_neg fun same => outside ?_
      exact same ▸ own
  | _ => rfl

end Entry

namespace Machine

section Rows

variable (machine : Machine)

theorem promise_setPromise (index other : Nat) (promise : Promise) :
    (machine.setPromise index promise).world.promise other =
      if other = index then promise else machine.world.promise other :=
  Store.get_set _ _ _ _

theorem accumulator_setAccumulator (index other : Nat) (accumulator : Accumulator) :
    (machine.setAccumulator index accumulator).world.accumulator other =
      if other = index then accumulator else machine.world.accumulator other :=
  Store.get_set _ _ _ _

theorem body_setBody (index other : Nat) (body : Body) :
    (machine.setBody index body).world.body other =
      if other = index then body else machine.world.body other :=
  Store.get_set _ _ _ _

theorem channel_setChannel (index other : Nat) (channel : Channel) :
    (machine.setChannel index channel).world.channel other =
      if other = index then channel else machine.world.channel other :=
  Store.get_set _ _ _ _

theorem handler_setHandler (index other : Nat) (handler : Option ChunkHandler) :
    (machine.setHandler index handler).world.handler? other =
      if other = index then handler else machine.world.handler? other :=
  Store.get_set _ _ _ _

end Rows

/-- What the reader of a channel got, poll by poll. -/
def polls (machine : Machine) (channel : Nat) : List Poll :=
  machine.journal.reverse.filterMap (Entry.poll? channel)

/-- What is outside the zone was left as it was. -/
structure Kept (zone : Zone) (before after : Machine) : Prop where
  accumulators : ∀ index, ¬ zone.accumulator index →
    after.world.accumulator index = before.world.accumulator index ∧
      after.streamPast index = before.streamPast index
  bodies : ∀ index, ¬ zone.body index → after.world.body index = before.world.body index
  promises : ∀ index, ¬ zone.promise index →
    (before.world.promise index).Extends zone (after.world.promise index)
  channels : ∀ index, ¬ zone.channel index →
    after.world.channel index = before.world.channel index ∧ after.polls index = before.polls index
  grown : before.world.Grown after.world

theorem grown_setPromise (machine : Machine) (index : Nat) (promise : Promise) :
    machine.world.Grown (machine.setPromise index promise).world :=
  ⟨by simp only [setPromise, withWorld, World.setPromise, Store.size_set]; omega,
    Nat.le_refl _, Nat.le_refl _, Nat.le_refl _, fun _ _ => rfl⟩

theorem grown_setAccumulator (machine : Machine) (index : Nat) (accumulator : Accumulator) :
    machine.world.Grown (machine.setAccumulator index accumulator).world :=
  ⟨Nat.le_refl _, by simp only [setAccumulator, withWorld, World.setAccumulator, Store.size_set]; omega,
    Nat.le_refl _, Nat.le_refl _, fun _ _ => rfl⟩

theorem Kept.refl (machine : Machine) : Kept zone machine machine :=
  ⟨fun _ _ => ⟨rfl, rfl⟩, fun _ _ => rfl, fun _ _ => .refl _, fun _ _ => ⟨rfl, rfl⟩, .refl _⟩

/-- Work above `base` that began with `start` and was all in the zone. -/
structure Works (zone : Zone) (base : List Frame) (start machine : Machine) : Prop where
  world : machine.world.In zone
  frames : ∃ above, machine.stack = above ++ base ∧ ∀ frame ∈ above, frame.In zone machine.world
  kept : Kept zone start machine

/-- The work goes on in the zone. -/
structure Inside (zone : Zone) (base : List Frame) (start machine : Machine) : Prop
    extends Works zone base start machine where
  control : machine.control.In zone machine.world

namespace Works

variable {base : List Frame} {start machine : Machine}

theorem push (works : Works zone base start machine) (frame : Frame)
    (inside : frame.In zone machine.world) : Works zone base start (machine.push frame) := by
  obtain ⟨above, stack, frames⟩ := works.frames
  refine ⟨works.world, ⟨frame :: above, by simp [Machine.push, stack], ?_⟩,
    works.kept.accumulators, works.kept.bodies, works.kept.promises, works.kept.channels,
    works.kept.grown⟩
  intro other member
  obtain rfl | below := List.mem_cons.mp member
  · exact inside
  · exact frames other below

theorem note (works : Works zone base start machine) (entry : Entry) (own : entry.In zone) :
    Works zone base start (machine.note entry) := by
  obtain ⟨world, frames, accumulators, bodies, promises, channels, grown⟩ := works
  refine ⟨world, frames, fun index outside => ?_, bodies, promises, fun index outside => ?_, grown⟩
  · have other : entry.accumulator? ≠ some index := fun same => outside (own.accumulator same)
    refine ⟨(accumulators index outside).1, ?_⟩
    have past : (machine.note entry).streamPast index = machine.streamPast index := by
      simp only [Machine.note, streamPast, List.reverse_cons, List.filter_append,
        List.filter_cons, decide_eq_false other, Bool.false_eq_true, if_false, List.filter_nil,
        List.append_nil]
    exact past.trans (accumulators index outside).2
  · have polls : (machine.note entry).polls index = machine.polls index := by
      simp [Machine.note, Machine.polls, own.unpolled outside]
    exact ⟨(channels index outside).1, polls.trans (channels index outside).2⟩

theorem log (works : Works zone base start machine) (notice : Notice) :
    Works zone base start (machine.log notice) :=
  works.note _ trivial

theorem withControl (works : Works zone base start machine) (control : Control) :
    Works zone base start { machine with control } where
  world := works.world
  frames := works.frames
  kept := ⟨works.kept.accumulators, works.kept.bodies, works.kept.promises, works.kept.channels,
    works.kept.grown⟩

theorem setControl (works : Works zone base start machine) {control : Control}
    (inside : control.In zone machine.world) :
    Inside zone base start { machine with control } :=
  ⟨works.withControl control, inside⟩

theorem turn (works : Works zone base start machine) {task : Task}
    (inside : task.In zone machine.world) : Inside zone base start (machine.turn task) := by
  have inside : Control.In zone machine.world (.task task) := inside
  exact works.setControl inside

theorem reply (works : Works zone base start machine) (reply : Reply) :
    Inside zone base start (machine.reply reply) := by
  have inside : Control.In zone machine.world (.reply reply) := by simp [Control.In]
  exact works.setControl inside

theorem invoke (works : Works zone base start machine) (invocation : Invocation) :
    Inside zone base start (machine.invoke invocation) := by
  have noted := works.note (.invoked invocation) trivial
  have pushed : Works zone base start ((machine.note (.invoked invocation)).push
      (.client invocation)) :=
    noted.push _ (by simp [Frame.In])
  have inside : Control.In zone machine.world (.client .called) := by simp [Control.In]
  exact pushed.setControl inside

theorem setPromise (works : Works zone base start machine) {index : Nat} (promise : Promise)
    (own : zone.promise index)
    (waiting : ∀ registration ∈ promise.waiting, registration.handler.In zone) :
    Works zone base start (machine.setPromise index promise) := by
  obtain ⟨world, frames, accumulators, bodies, promises, channels, grown⟩ := works
  have larger := grown_setPromise machine index promise
  refine ⟨⟨?_, world.parked, world.held, world.bodies⟩, frames, accumulators, bodies, ?_,
    channels, grown.trans larger⟩
  · intro other inside
    rw [promise_setPromise]
    split
    · exact waiting
    · exact world.waiting other inside
  · intro other outside
    have apart : other ≠ index := fun same => outside (same ▸ own)
    rw [promise_setPromise, if_neg apart]
    exact promises other outside

theorem enqueue (works : Works zone base start machine) (index : Nat) {registration : Registration}
    (inside : registration.handler.In zone) :
    Works zone base start
      (machine.setPromise index ((machine.world.promise index).enqueue registration)) := by
  obtain ⟨world, frames, accumulators, bodies, promises, channels, grown⟩ := works
  have larger := grown_setPromise machine index ((machine.world.promise index).enqueue registration)
  refine ⟨⟨?_, world.parked, world.held, world.bodies⟩, frames, accumulators, bodies, ?_,
    channels, grown.trans larger⟩
  · intro other insideOther
    rw [promise_setPromise]
    split
    case isTrue same =>
        subst other
        intro waiting member
        obtain earlier | rfl := Promise.mem_waiting_enqueue member
        · exact world.waiting index insideOther waiting earlier
        · exact inside
    case isFalse => exact world.waiting other insideOther
  · intro other outside
    rw [promise_setPromise]
    split
    case isTrue same =>
        subst other
        exact (promises index outside).trans (Promise.extends_enqueue _ inside)
    case isFalse => exact promises other outside

theorem setAccumulator (works : Works zone base start machine) {index : Nat}
    (accumulator : Accumulator) (own : zone.accumulator index)
    (parked : ∀ handler, accumulator.stage = .parked handler → handler.In zone) :
    Works zone base start (machine.setAccumulator index accumulator) := by
  obtain ⟨world, frames, accumulators, bodies, promises, channels, grown⟩ := works
  have larger := grown_setAccumulator machine index accumulator
  refine ⟨⟨world.waiting, ?_, world.held, world.bodies⟩, frames, ?_, bodies, promises,
    channels, grown.trans larger⟩
  · intro other inside
    rw [accumulator_setAccumulator]
    split
    · exact parked
    · exact world.parked other inside
  · intro other outside
    have apart : other ≠ index := fun same => outside (same ▸ own)
    rw [accumulator_setAccumulator, if_neg apart]
    exact accumulators other outside

theorem setBody (works : Works zone base start machine) {index : Nat} (body : Body)
    (own : machine.world.Holds zone index)
    (accumulator : body.accumulator = (machine.world.body index).accumulator)
    (promise : body.promise = (machine.world.body index).promise) :
    Works zone base start (machine.setBody index body) := by
  obtain ⟨world, frames, accumulators, bodies, promises, channels, grown⟩ := works
  have size : (machine.setBody index body).world.bodies.size = machine.world.bodies.size := by
    have made := own.2
    simp only [Machine.setBody, withWorld, World.setBody, Store.size_set]
    omega
  have holds (other : Nat) : (machine.setBody index body).world.Holds zone other ↔
      machine.world.Holds zone other := by
    simp [World.Holds, size]
  refine ⟨⟨world.waiting, world.parked, world.held, ?_⟩, ?_, accumulators, ?_, promises, channels,
    ?_⟩
  · intro other inside
    have kept := world.bodies other ((holds other).mp inside)
    rw [body_setBody]
    split
    case isTrue same =>
        subst other
        rw [accumulator, promise]
        exact kept
    case isFalse => exact kept
  · obtain ⟨above, stack, inside⟩ := frames
    refine ⟨above, stack, fun frame member => ?_⟩
    have old := inside frame member
    cases frame with
    | leaving body => exact (holds body).mpr old
    | _ => exact old
  · intro other outside
    have apart : other ≠ index := fun same => outside (same ▸ own.1)
    rw [body_setBody, if_neg apart]
    exact bodies other outside
  · refine grown.trans ⟨Nat.le_refl _, Nat.le_refl _, Nat.le_of_eq size.symm, Nat.le_refl _, ?_⟩
    intro other made
    rw [body_setBody]
    split
    case isTrue same =>
        subst other
        exact accumulator
    case isFalse => rfl

theorem setChannel (works : Works zone base start machine) {index : Nat} (channel : Channel)
    (own : zone.channel index) : Works zone base start (machine.setChannel index channel) := by
  obtain ⟨world, frames, accumulators, bodies, promises, channels, grown⟩ := works
  have larger : machine.world.Grown (machine.setChannel index channel).world := by
    refine ⟨Nat.le_refl _, Nat.le_refl _, Nat.le_refl _, ?_, fun _ _ => rfl⟩
    simp only [Machine.setChannel, withWorld, World.setChannel, Store.size_set]
    omega
  refine ⟨⟨world.waiting, world.parked, world.held, world.bodies⟩, frames, accumulators, bodies,
    promises, ?_, grown.trans larger⟩
  intro other outside
  have apart : other ≠ index := fun same => outside (same ▸ own)
  rw [channel_setChannel, if_neg apart]
  exact channels other outside

theorem setHandler (works : Works zone base start machine) (index : Nat)
    {handler : Option ChunkHandler} (inside : ∀ held, handler = some held → held.In zone) :
    Works zone base start (machine.setHandler index handler) := by
  obtain ⟨world, frames, accumulators, bodies, promises, channels, grown⟩ := works
  refine ⟨⟨world.waiting, world.parked, ?_, world.bodies⟩, frames, accumulators, bodies,
    promises, channels, grown.promises, grown.accumulators, grown.bodies, grown.channels,
    grown.streams⟩
  intro other held
  rw [handler_setHandler]
  split
  · exact inside held
  · exact world.held other held

theorem countRegistrations (works : Works zone base start machine) (registrations : Nat) :
    Works zone base start (machine.withWorld { machine.world with registrations }) := by
  obtain ⟨world, frames, accumulators, bodies, promises, channels, grown⟩ := works
  exact ⟨⟨world.waiting, world.parked, world.held, world.bodies⟩, frames, accumulators, bodies,
    promises, channels, grown.promises, grown.accumulators, grown.bodies, grown.channels,
    grown.streams⟩

theorem countCauses (works : Works zone base start machine) (causes : Nat) :
    Works zone base start (machine.withWorld { machine.world with causes }) := by
  obtain ⟨world, frames, accumulators, bodies, promises, channels, grown⟩ := works
  exact ⟨⟨world.waiting, world.parked, world.held, world.bodies⟩, frames, accumulators, bodies,
    promises, channels, grown.promises, grown.accumulators, grown.bodies, grown.channels,
    grown.streams⟩

theorem addPromise (works : Works zone base start machine) (promise : Promise)
    (own : zone.promise machine.world.promises.size) (unheard : promise.waiting = []) :
    Works zone base start (machine.withWorld (machine.world.addPromise promise)) := by
  have row (index : Nat) : (machine.world.addPromise promise).promise index =
      if index = machine.world.promises.size then promise else machine.world.promise index :=
    Store.get_add _ _ _
  obtain ⟨world, frames, accumulators, bodies, promises, channels, grown⟩ := works
  have larger : machine.world.Grown (machine.world.addPromise promise) :=
    ⟨by simp [World.addPromise], Nat.le_refl _, Nat.le_refl _, Nat.le_refl _, fun _ _ => rfl⟩
  refine ⟨⟨?_, world.parked, world.held, world.bodies⟩, frames, accumulators, bodies, ?_,
    channels, grown.trans larger⟩
  · intro index inside registration
    have waiting := world.waiting index inside registration
    simp only [withWorld, row]
    split
    · simp [unheard]
    · exact waiting
  · intro index outside
    have apart : index ≠ machine.world.promises.size := fun same => outside (same ▸ own)
    simp only [withWorld, row, if_neg apart]
    exact promises index outside

theorem addAccumulator (works : Works zone base start machine) (accumulator : Accumulator)
    (own : zone.accumulator machine.world.accumulators.size)
    (unattached : accumulator.stage = .unattached) :
    Works zone base start (machine.withWorld (machine.world.addAccumulator accumulator)) := by
  have row (index : Nat) : (machine.world.addAccumulator accumulator).accumulator index =
      if index = machine.world.accumulators.size then accumulator
      else machine.world.accumulator index :=
    Store.get_add _ _ _
  obtain ⟨world, frames, accumulators, bodies, promises, channels, grown⟩ := works
  have larger : machine.world.Grown (machine.world.addAccumulator accumulator) :=
    ⟨Nat.le_refl _, by simp [World.addAccumulator], Nat.le_refl _, Nat.le_refl _, fun _ _ => rfl⟩
  refine ⟨⟨world.waiting, ?_, world.held, world.bodies⟩, frames, ?_, bodies, promises,
    channels, grown.trans larger⟩
  · intro index inside handler
    have parked := world.parked index inside handler
    simp only [withWorld, row]
    split
    · simp [unattached]
    · exact parked
  · intro index outside
    have apart : index ≠ machine.world.accumulators.size := fun same => outside (same ▸ own)
    simp only [withWorld, row, if_neg apart]
    exact accumulators index outside

theorem addBody (works : Works zone base start machine) (body : Body)
    (own : zone.body machine.world.bodies.size) (accumulator : zone.accumulator body.accumulator)
    (promise : zone.promise body.promise) :
    Works zone base start (machine.withWorld (machine.world.addBody body)) := by
  have row (index : Nat) : (machine.world.addBody body).body index =
      if index = machine.world.bodies.size then body else machine.world.body index :=
    Store.get_add _ _ _
  have size : (machine.world.addBody body).bodies.size = machine.world.bodies.size + 1 :=
    Store.size_add _ _
  have larger : machine.world.Grown (machine.world.addBody body) :=
    ⟨Nat.le_refl _, Nat.le_refl _, by omega, Nat.le_refl _, fun index made => by
      rw [row, if_neg (Nat.ne_of_lt made)]⟩
  obtain ⟨world, frames, accumulators, bodies, promises, channels, grown⟩ := works
  refine ⟨⟨world.waiting, world.parked, world.held, ?_⟩, ?_, accumulators, ?_, promises, channels,
    ?_⟩
  · rintro index ⟨inside, made⟩
    simp only [withWorld] at made
    simp only [withWorld, row]
    split
    case isTrue => exact ⟨accumulator, promise⟩
    case isFalse apart => exact world.bodies index ⟨inside, by omega⟩
  · obtain ⟨above, stack, inside⟩ := frames
    refine ⟨above, stack, fun frame member => ?_⟩
    have old := inside frame member
    cases frame with
    | leaving body =>
        have made := old.2
        exact ⟨old.1, by simp only [withWorld]; omega⟩
    | _ => exact old
  · intro index outside
    have apart : index ≠ machine.world.bodies.size := fun same => outside (same ▸ own)
    simp only [withWorld, row, if_neg apart]
    exact bodies index outside
  · exact grown.trans larger

theorem addChannel (works : Works zone base start machine) (channel : Channel)
    (own : zone.channel machine.world.channels.size) :
    Works zone base start (machine.withWorld (machine.world.addChannel channel)) := by
  have row (index : Nat) : (machine.world.addChannel channel).channel index =
      if index = machine.world.channels.size then channel else machine.world.channel index :=
    Store.get_add _ _ _
  obtain ⟨world, frames, accumulators, bodies, promises, channels, grown⟩ := works
  have larger : machine.world.Grown (machine.world.addChannel channel) :=
    ⟨Nat.le_refl _, Nat.le_refl _, Nat.le_refl _, by simp [World.addChannel], fun _ _ => rfl⟩
  refine ⟨⟨world.waiting, world.parked, world.held, world.bodies⟩, frames, accumulators, bodies,
    promises, ?_, grown.trans larger⟩
  intro index outside
  have apart : index ≠ machine.world.channels.size := fun same => outside (same ▸ own)
  simp only [withWorld, row, if_neg apart]
  exact channels index outside

theorem addHandler (works : Works zone base start machine) {handler : ChunkHandler}
    (inside : handler.In zone) :
    Works zone base start (machine.withWorld (machine.world.addHandler handler)) := by
  obtain ⟨world, frames, accumulators, bodies, promises, channels, grown⟩ := works
  refine ⟨⟨world.waiting, world.parked, ?_, world.bodies⟩, frames, accumulators, bodies,
    promises, channels, grown.promises, grown.accumulators, grown.bodies, grown.channels,
    grown.streams⟩
  intro index held found
  have row : (machine.world.addHandler handler).handler? index =
      if index = machine.world.handlers.size then some handler else machine.world.handler? index :=
    Store.get_add _ _ _
  simp only [withWorld, row] at found
  split at found
  · obtain rfl := Option.some.inj found
    exact inside
  · exact world.held index held found

end Works

end Machine

end Handoff
