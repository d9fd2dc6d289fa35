import Handoff.Proofs.Bodies.Shutting

namespace Handoff

/-! The promise of a body is guarded by its stream.

Only calls on the body settle its promise.  Those that resolve it end the stream
first; all others settle it otherwise than by a value, and then the handler that
waits first aborts the stream.  So the stream shuts as soon as the promise is
settled, whoever settles it and whatever else is under way. -/

namespace Site

/-- Everything but a body and its promise. -/
def besides (site : Site) : Zone where
  promise index := index ≠ site.promise
  accumulator _ := True
  body index := index ≠ site.body
  channel _ := True
  panics := True

end Site

/-- The frames of calls on a body.  One that will resolve the promise stands above
a stream that shuts. -/
inductive Frame.Own (site : Site) (shuts : Prop) : Frame → Prop
  | finishing (value : String) (shut : shuts) : Own site shuts (.finishing site.promise value)
  | settling (outcome : Outcome) (fails : outcome.fails = true) :
      Own site shuts (.settling site.promise outcome)
  | releasing : Own site shuts (.releasing site.promise)
  | leaving : Own site shuts (.leaving site.body)

inductive Task.Own (site : Site) (shuts : Prop) : Task → Prop
  | settle (outcome : Outcome) (sound : outcome.fails = false → shuts) :
      Own site shuts (.settle site.promise outcome)
  | release : Own site shuts (.release site.promise)
  | abandon : Own site shuts (.abandon site.body)

theorem Frame.Own.mono {site : Site} {frame : Frame} {earlier later : Prop}
    (own : frame.Own site earlier) (implies : earlier → later) : frame.Own site later := by
  cases own with
  | finishing value shut => exact .finishing value (implies shut)
  | settling outcome fails => exact .settling outcome fails
  | releasing => exact .releasing
  | leaving => exact .leaving

/-- A call that holds the sender of a body. -/
def Frame.holds (body : Nat) : Frame → Bool
  | .leaving index => index == body
  | _ => false

theorem Frame.In.holds {site : Site} {world : World} {frame : Frame}
    (inside : frame.In site.besides world) : frame.holds site.body = false := by
  cases frame with
  | leaving index =>
      have apart : index ≠ site.body := inside.1
      simpa [Frame.holds] using apart
  | _ => rfl

namespace Machine

/-- How many calls hold the sender of a body. -/
def holders (machine : Machine) (body : Nat) : Nat :=
  machine.stack.countP (Frame.holds body)

theorem holders_push {machine : Machine} {frame : Frame} {body : Nat}
    (other : frame.holds body = false) : (machine.push frame).holders body = machine.holders body :=
  List.countP_cons_of_neg (by simp [other])

theorem holders_leaving (machine : Machine) (body : Nat) :
    (machine.push (.leaving body)).holders body = machine.holders body + 1 :=
  List.countP_cons_of_pos (by simp [Frame.holds])

end Machine

namespace Site

open Machine

variable {site : Site} {before after machine : Machine}

/-- How the tables stand. -/
structure Grounds (site : Site) (machine : Machine) : Prop where
  world : machine.world.In site.besides
  opened : machine.world.Open site.besides
  accumulator : (machine.world.body site.body).accumulator = site.accumulator
  promise : (machine.world.body site.body).promise = site.promise
  unowned : (machine.world.promise site.promise).owned = false
  heard : ∀ registration ∈ (machine.world.promise site.promise).waiting,
    registration.handler.In site.besides

/-- Control is about to register the handler that aborts the stream. -/
def Begins (site : Site) (machine : Machine) : Prop :=
  machine.control = .task (.register site.promise (.aborting site.accumulator))

/-- Nobody waits before the handler that aborts the stream. -/
def Leads (site : Site) (machine : Machine) : Prop :=
  (∃ number rest, (machine.world.promise site.promise).waiting =
    ⟨number, .aborting site.accumulator⟩ :: rest) ∨
  (machine.world.promise site.promise).waiting = [] ∧ site.Begins machine

/-- The sender is held by the client, if at all, and by the calls that run. -/
def Counts (site : Site) (machine : Machine) : Prop :=
  (machine.world.body site.body).senders =
    (machine.world.body site.body).owned.toNat + machine.holders site.body

structure Guards (site : Site) (machine : Machine) : Prop extends Grounds site machine where
  counts : site.Counts machine
  leads : (machine.world.promise site.promise).isDone = false → site.Leads machine
  shut : (machine.world.promise site.promise).isDone = true → machine.Shuts site.accumulator
  frames : ∀ frame ∈ machine.stack, frame.In site.besides machine.world ∨
    frame.Own site (machine.Shuts site.accumulator)
  control : machine.control.In site.besides machine.world ∨
    ∃ task, machine.control = .task task ∧ task.Own site (machine.Shuts site.accumulator)

namespace Grounds

theorem kept (grounds : site.Grounds before) (world : after.world.In site.besides)
    (kept : Kept site.besides before after) : site.Grounds after := by
  have row := kept.bodies site.body fun apart => apart rfl
  have more := kept.promises site.promise fun apart => apart rfl
  refine ⟨world, grounds.opened.grown kept.grown, ?_, ?_, more.owned.trans grounds.unowned, ?_⟩
  · rw [row]
    exact grounds.accumulator
  · rw [row]
    exact grounds.promise
  · exact fun registration waits => (more.waiting waits).elim (grounds.heard registration) id

theorem same (grounds : site.Grounds before) (world : after.world = before.world) :
    site.Grounds after := by
  obtain ⟨inside, opened, accumulator, promise, unowned, heard⟩ := grounds
  constructor
  all_goals
    rw [world]
    assumption

theorem body_made (grounds : site.Grounds machine) : site.body < machine.world.bodies.size := by
  by_cases made : site.body < machine.world.bodies.size
  · exact made
  · exact absurd rfl (grounds.opened.bodies _ (Nat.le_of_not_lt made))

/-- A sender of the body comes or goes. -/
theorem setBody (grounds : site.Grounds machine) (senders : Nat) (owned : Bool) :
    site.Grounds (machine.setBody site.body
      { machine.world.body site.body with senders, owned }) ∧
    machine.world.Grown (machine.setBody site.body
      { machine.world.body site.body with senders, owned }).world := by
  have made := grounds.body_made
  obtain ⟨inside, opened, accumulator, promise, unowned, heard⟩ := grounds
  have size : (machine.setBody site.body
      { machine.world.body site.body with senders, owned }).world.bodies.size =
        machine.world.bodies.size := by
    simp only [Machine.setBody, withWorld, World.setBody, Store.size_set]
    omega
  have grown : machine.world.Grown (machine.setBody site.body
      { machine.world.body site.body with senders, owned }).world := by
    refine ⟨Nat.le_refl _, Nat.le_refl _, Nat.le_of_eq size.symm, Nat.le_refl _, ?_⟩
    intro index _
    rw [body_setBody]
    split
    case isTrue same => rw [same]
    case isFalse => rfl
  refine ⟨⟨⟨inside.waiting, inside.parked, inside.held, fun index own => ?_⟩,
    opened.grown grown, ?_, ?_, unowned, heard⟩, grown⟩
  · rw [body_setBody, if_neg own.1]
    exact inside.bodies index ⟨own.1, by rw [← size]; exact own.2⟩
  · rw [body_setBody, if_pos rfl]
    exact accumulator
  · rw [body_setBody, if_pos rfl]
    exact promise

theorem setPromise (grounds : site.Grounds machine) {promise : Promise}
    (unowned : promise.owned = false)
    (heard : ∀ registration ∈ promise.waiting, registration.handler.In site.besides) :
    site.Grounds (machine.setPromise site.promise promise) := by
  obtain ⟨inside, opened, accumulator, row, -, -⟩ := grounds
  refine ⟨⟨fun index own => ?_, inside.parked, inside.held, inside.bodies⟩,
    opened.grown (grown_setPromise _ _ _), accumulator, row, ?_, ?_⟩
  · rw [promise_setPromise, if_neg own]
    exact inside.waiting index own
  · rw [promise_setPromise, if_pos rfl]
    exact unowned
  · rw [promise_setPromise, if_pos rfl]
    exact heard

theorem works (grounds : site.Grounds machine) :
    Works site.besides machine.stack machine machine :=
  ⟨grounds.world, ⟨[], rfl, by simp⟩, .refl machine⟩

end Grounds

/-- The promise got more handlers, and nothing else. -/
def Waits (site : Site) (before after : Machine) : Prop :=
  ∃ more, (after.world.promise site.promise).state =
    (before.world.promise site.promise).state.extend more

theorem Waits.refl (machine : Machine) : site.Waits machine machine :=
  ⟨[], by cases state : (machine.world.promise site.promise).state <;>
    simp [Promise.State.extend]⟩

theorem Waits.isDone (waits : site.Waits before after) :
    (after.world.promise site.promise).isDone = (before.world.promise site.promise).isDone := by
  obtain ⟨more, state⟩ := waits
  cases earlier : (before.world.promise site.promise).state <;>
    simp [Promise.isDone, Promise.outcome?, state, earlier, Promise.State.extend]

theorem Leads.waits (leads : site.Leads before) (unborn : ¬ site.Begins before)
    (pending : (before.world.promise site.promise).isDone = false)
    (waits : site.Waits before after) : site.Leads after := by
  obtain ⟨number, rest, first⟩ := leads.resolve_right fun begins => unborn begins.2
  obtain ⟨more, state⟩ := waits
  refine .inl ⟨number, rest ++ more, ?_⟩
  cases earlier : (before.world.promise site.promise).state with
  | pending waiting =>
      simp only [Promise.waiting, earlier] at first
      simp [Promise.waiting, state, earlier, Promise.State.extend, first]
  | settled outcome => simp [Promise.isDone, Promise.outcome?, earlier] at pending

theorem unborn {task : Task} (working : before.control = .task task)
    (other : task ≠ .register site.promise (.aborting site.accumulator)) : ¬ site.Begins before := by
  intro begins
  rw [Begins, working] at begins
  exact other (Control.task.inj begins)

namespace Guards

/-- A step that does not settle the promise. -/
theorem go (guards : site.Guards before) (moved : before.Moved after)
    (handled : (before.strand site.accumulator).Handled)
    (born : site.Begins before → (after.world.promise site.promise).isDone = false →
      site.Leads after)
    (grounds : site.Grounds after) (counts : site.Counts after)
    (grown : before.world.Grown after.world) (waits : site.Waits before after)
    (frames : ∀ frame ∈ after.stack, frame ∈ before.stack ∨
      frame.In site.besides after.world ∨ frame.Own site (after.Shuts site.accumulator))
    (control : after.control.In site.besides after.world ∨
      ∃ task, after.control = .task task ∧ task.Own site (after.Shuts site.accumulator)) :
    site.Guards after where
  toGrounds := grounds
  counts := counts
  leads pending := by
    by_cases begins : site.Begins before
    · exact born begins pending
    · have pending : (before.world.promise site.promise).isDone = false := waits.isDone ▸ pending
      exact (guards.leads pending).waits begins pending waits
  shut settled := (guards.shut (waits.isDone ▸ settled)).moved handled moved
  frames frame member := by
    rcases frames frame member with earlier | later
    · exact (guards.frames frame earlier).imp (fun inside => inside.grown grown)
        (fun own => own.mono fun shuts => shuts.moved handled moved)
    · exact later
  control := control

/-- A step besides the body. -/
theorem inside (guards : site.Guards before) (start : Machine) (moved : before.Moved after)
    (handled : (before.strand site.accumulator).Handled)
    (born : site.Begins before → (after.world.promise site.promise).isDone = false →
      site.Leads after)
    (world : start.world = before.world) (journal : start.journal = before.journal)
    (below : ∀ frame ∈ start.stack, frame ∈ before.stack)
    (holders : start.holders site.body = before.holders site.body)
    (inside : Inside site.besides start.stack start after) : site.Guards after := by
  have kept : Kept site.besides before after := by
    obtain ⟨accumulators, bodies, promises, channels, grown⟩ := inside.kept
    simp only [world, streamPast, polls, journal] at accumulators bodies promises channels grown
    exact ⟨accumulators, bodies, promises, channels, grown⟩
  obtain ⟨more, -, state⟩ := (kept.promises site.promise fun apart => apart rfl).state
  obtain ⟨above, stack, within⟩ := inside.frames
  have counts : site.Counts after := by
    have none : above.countP (Frame.holds site.body) = 0 :=
      List.countP_eq_zero.mpr fun frame member => by simp [(within frame member).holds]
    have same : after.holders site.body = before.holders site.body := by
      rw [← holders, Machine.holders, stack, List.countP_append, none, Nat.zero_add]
      rfl
    rw [Counts, kept.bodies site.body fun apart => apart rfl, same]
    exact guards.counts
  refine guards.go moved handled born (guards.toGrounds.kept inside.world kept) counts kept.grown
    ⟨more, state⟩ (fun frame member => ?_) (.inl inside.control)
  rw [stack] at member
  rcases List.mem_append.mp member with high | low
  · exact .inr (.inl (within frame high))
  · exact .inl (below frame low)

/-- A step that leaves the tables as they are. -/
theorem still (guards : site.Guards before) (moved : before.Moved after)
    (handled : (before.strand site.accumulator).Handled) (unborn : ¬ site.Begins before)
    (world : after.world = before.world)
    (holders : after.holders site.body = before.holders site.body)
    (frames : ∀ frame ∈ after.stack, frame ∈ before.stack ∨
      frame.In site.besides after.world ∨ frame.Own site (after.Shuts site.accumulator))
    (control : after.control.In site.besides after.world ∨
      ∃ task, after.control = .task task ∧ task.Own site (after.Shuts site.accumulator)) :
    site.Guards after := by
  have waits : site.Waits before after := by
    rw [Waits, world]
    exact Waits.refl before
  have counts : site.Counts after := by
    rw [Counts, world, holders]
    exact guards.counts
  exact guards.go moved handled (fun begins => absurd begins unborn) (guards.toGrounds.same world)
    counts (by rw [world]; exact .refl _) waits frames control

variable {task : Task}

theorem begins_register (guards : site.Guards before)
    (handled : (before.strand site.accumulator).Handled) (begins : site.Begins before) :
    site.Guards (before.perform (.register site.promise (.aborting site.accumulator))) := by
  have aborts : (CompletionHandler.aborting site.accumulator).In site.besides := trivial
  have works := guards.toGrounds.works.register site.promise aborts
  refine guards.inside before (.perform begins) handled (fun _ pending => ?_) rfl rfl (fun _ member => member)
    rfl works
  cases state : (before.world.promise site.promise).state with
  | settled outcome =>
      have done : ((before.register site.promise (.aborting site.accumulator)).world.promise
          site.promise).isDone = true := by
        have more := (works.kept.promises site.promise fun apart => apart rfl).outcome?
        rw [Promise.isDone, more]
        simp [Promise.outcome?, state]
      exact absurd (pending.symm.trans done) Bool.false_ne_true
  | pending waiting =>
      have stored : (before.world.promise site.promise).isDone = false := by
        simp [Promise.isDone, Promise.outcome?, state]
      have joined : ((before.register site.promise (.aborting site.accumulator)).world.promise
          site.promise).waiting =
            waiting ++ [⟨before.world.registrations, .aborting site.accumulator⟩] := by
        simp only [Machine.register, state]
        refine (congrArg Promise.waiting ((promise_setPromise _ _ _ _).trans (if_pos rfl))).trans ?_
        simp [Promise.waiting, Promise.enqueue, state]
      have earlier : (before.world.promise site.promise).waiting = waiting := by
        simp [Promise.waiting, state]
      rcases guards.leads stored with ⟨number, rest, first⟩ | ⟨nobody, -⟩
      · refine .inl ⟨number, rest ++ [⟨before.world.registrations, .aborting site.accumulator⟩], ?_⟩
        exact joined.trans (by rw [← earlier, first]; rfl)
      · exact .inl ⟨before.world.registrations, [], joined.trans (by rw [← earlier, nobody]; rfl)⟩

/-- The promise is settled.  Unless that is by a value, the handler that aborts the
stream is told next. -/
theorem settle (guards : site.Guards before) (handled : (before.strand site.accumulator).Handled)
    {outcome : Outcome} (working : before.control = .task (.settle site.promise outcome))
    (sound : outcome.fails = false → before.Shuts site.accumulator) :
    site.Guards (before.settle site.promise outcome) := by
  have moved : before.Moved (before.settle site.promise outcome) := .perform working
  have unborn : ¬ site.Begins before := unborn working (by simp)
  cases state : (before.world.promise site.promise).state with
  | settled first =>
      simp only [Machine.settle, state] at moved ⊢
      exact guards.inside before moved handled (fun begins => absurd begins unborn) rfl rfl
        (fun _ member => member) rfl ((guards.toGrounds.works.log _).reply _)
  | pending waiting =>
      have pending : (before.world.promise site.promise).isDone = false := by
        simp [Promise.isDone, Promise.outcome?, state]
      have earlier : (before.world.promise site.promise).waiting = waiting := by
        simp [Promise.waiting, state]
      obtain ⟨number, rest, first⟩ :=
        (guards.leads pending).resolve_right fun begins => unborn begins.2
      rw [earlier] at first
      have shuts : (before.settle site.promise outcome).Shuts site.accumulator := by
        cases fails : outcome.fails with
        | false => exact (sound fails).moved handled moved
        | true =>
            refine .inr ?_
            simp only [Machine.settle, state]
            exact ⟨fails, number, rest, first⟩
      simp only [Machine.settle, state] at moved shuts ⊢
      have grounds : site.Grounds (before.setPromise site.promise
          ((before.world.promise site.promise).settle outcome)) :=
        guards.toGrounds.setPromise guards.unowned (by simp [Promise.waiting, Promise.settle])
      have row : ((before.setPromise site.promise
          ((before.world.promise site.promise).settle outcome)).world.promise site.promise).isDone =
            true := by
        rw [promise_setPromise, if_pos rfl]
        rfl
      refine ⟨grounds.same rfl, guards.counts, fun pending => ?_, fun _ => shuts,
        fun frame member => ?_, .inl ?_⟩
      · exact absurd (pending.symm.trans row) Bool.false_ne_true
      · exact (guards.frames frame member).imp (fun inside => inside.grown (grown_setPromise _ _ _))
          fun own => own.mono fun earlier => shuts
      · intro registration waits
        exact guards.heard registration (earlier ▸ waits)

theorem release (guards : site.Guards before) (handled : (before.strand site.accumulator).Handled)
    (working : before.control = .task (.release site.promise)) :
    site.Guards (before.release site.promise) := by
  have moved : before.Moved (before.release site.promise) := .perform working
  have unborn : ¬ site.Begins before := unborn working (by simp)
  have grounds : site.Grounds (before.setPromise site.promise
      (before.world.promise site.promise).removeShare) :=
    guards.toGrounds.setPromise guards.unowned guards.heard
  have waits : site.Waits before (before.setPromise site.promise
      (before.world.promise site.promise).removeShare) := by
    obtain ⟨more, state⟩ : site.Waits before before := .refl before
    refine ⟨more, Eq.trans ?_ state⟩
    rw [promise_setPromise, if_pos rfl]
    rfl
  simp only [Machine.release] at moved ⊢
  split at moved
  case isTrue last =>
      rw [if_pos last]
      have counts : site.Counts (((before.setPromise site.promise
          (before.world.promise site.promise).removeShare).push .dropping).turn
            (.settle site.promise (.cancelled false))) :=
        guards.counts.trans (congrArg _ (holders_push rfl).symm)
      refine guards.go moved handled (fun begins => absurd begins unborn) (grounds.same rfl) counts
        (grown_setPromise _ _ _) waits (fun frame member => ?_)
        (.inr ⟨_, rfl, .settle _ fun sound => by cases sound⟩)
      rcases List.mem_cons.mp member with rfl | below
      · exact .inr (.inl trivial)
      · exact .inl below
  case isFalse more =>
      rw [if_neg more]
      exact guards.go moved handled (fun begins => absurd begins unborn) (grounds.same rfl)
        guards.counts (grown_setPromise _ _ _) waits (fun frame member => .inl member)
        (.inl trivial)

theorem abandon (guards : site.Guards before) (handled : (before.strand site.accumulator).Handled)
    (working : before.control = .task (.abandon site.body)) :
    site.Guards (before.abandon site.body) := by
  have moved : before.Moved (before.abandon site.body) := .perform working
  have unborn : ¬ site.Begins before := unborn working (by simp)
  simp only [Machine.abandon, guards.accumulator, guards.promise] at moved ⊢
  split at moved
  case isTrue done =>
      rw [if_pos done]
      exact guards.still moved handled unborn rfl rfl (fun frame member => .inl member)
        (.inr ⟨_, rfl, .release⟩)
  case isFalse pending =>
      rw [if_neg pending]
      refine guards.still moved handled unborn rfl (holders_push rfl) (fun frame member => ?_)
        (.inl trivial)
      rcases List.mem_cons.mp member with rfl | below
      · exact .inr (.inr .releasing)
      · exact .inl below

theorem perform (guards : site.Guards before) (handled : (before.strand site.accumulator).Handled)
    (working : before.control = .task task) : site.Guards (before.perform task) := by
  by_cases begins : site.Begins before
  · obtain rfl : task = .register site.promise (.aborting site.accumulator) := by
      rw [Begins, working] at begins
      exact Control.task.inj begins
    exact guards.begins_register handled begins
  · rcases guards.control with own | ⟨other, same, own⟩
    · rw [working] at own
      exact guards.inside before (.perform working) handled (fun started => absurd started begins) rfl rfl
        (fun _ member => member) rfl (guards.toGrounds.works.perform own)
    · obtain rfl : task = other := Control.task.inj (working.symm.trans same)
      cases own with
      | settle outcome sound => exact guards.settle handled working sound
      | release => exact guards.release handled working
      | abandon => exact guards.abandon handled working

/-! Frames.  The machine before a frame is met again has it on top. -/

variable {below start : Machine} {frame next : Frame}

theorem leave (guards : site.Guards before) {otherwise : Control}
    (moved : before.Moved (start.leave site.body next otherwise))
    (handled : (before.strand site.accumulator).Handled) (unborn : ¬ site.Begins before)
    (grounds : site.Grounds start) (grown : before.world.Grown start.world)
    (promises : start.world.promises = before.world.promises)
    (counts : (start.world.body site.body).senders =
      (start.world.body site.body).owned.toNat + start.holders site.body + 1)
    (below : ∀ frame ∈ start.stack, frame ∈ before.stack) (free : next.holds site.body = false)
    (pushed : ∀ world, next.In site.besides world)
    (resting : ∀ world, otherwise.In site.besides world) :
    site.Guards (start.leave site.body next otherwise) := by
  obtain ⟨left, larger⟩ := grounds.setBody ((start.world.body site.body).senders - 1)
    (start.world.body site.body).owned
  have left : site.Grounds (start.setBody site.body (start.world.body site.body).removeSender) :=
    left
  have grown := grown.trans larger
  have counts : site.Counts (start.setBody site.body (start.world.body site.body).removeSender) := by
    rw [Counts, body_setBody, if_pos rfl]
    exact (congrArg (· - 1) counts).trans (Nat.add_sub_cancel _ _)
  have waits : site.Waits before (start.setBody site.body
      (start.world.body site.body).removeSender) := by
    obtain ⟨more, state⟩ : site.Waits before before := .refl before
    refine ⟨more, Eq.trans ?_ state⟩
    simp [Machine.setBody, withWorld, World.setBody, World.promise, promises]
  simp only [Machine.leave] at moved ⊢
  split at moved
  case isTrue last =>
      rw [if_pos last]
      have pushed' : site.Counts (((start.setBody site.body
          (start.world.body site.body).removeSender).push next).turn (.abandon site.body)) :=
        counts.trans (congrArg _ (holders_push free).symm)
      refine guards.go moved handled (fun begins => absurd begins unborn) (left.same rfl) pushed'
        grown waits (fun frame member => ?_) (.inr ⟨_, rfl, .abandon⟩)
      rcases List.mem_cons.mp member with rfl | low
      · exact .inr (.inl (pushed _))
      · exact .inl (below frame low)
  case isFalse more =>
      rw [if_neg more]
      exact guards.go moved handled (fun begins => absurd begins unborn) (left.same rfl) counts
        grown waits (fun frame member => .inl (below frame member)) (.inl (resting _))

theorem resume (guards : site.Guards (below.push frame))
    (handled : ((below.push frame).strand site.accumulator).Handled) {reply : Reply}
    (replied : below.control = .reply reply) : site.Guards (below.resume reply frame) := by
  have moved : (below.push frame).Moved (below.resume reply frame) := .resume replied
  have unborn : ¬ site.Begins (below.push frame) := by
    have control : (below.push frame).control = .reply reply := replied
    simp [Begins, control]
  have lower : ∀ frame' ∈ below.stack, frame' ∈ (below.push frame).stack :=
    fun _ member => List.mem_cons_of_mem _ member
  have grounds : site.Grounds below := guards.toGrounds.same rfl
  rcases guards.frames frame (List.mem_cons_self ..) with own | own
  · have inside := grounds.works.resume reply own
    exact guards.inside below moved handled (fun begins => absurd begins unborn) rfl rfl lower
      (holders_push own.holds).symm inside
  · cases own with
    | finishing value shut =>
        simp only [Machine.resume] at moved ⊢
        split at moved
        case h_1 =>
            exact guards.still moved handled unborn rfl (holders_push rfl).symm
              (fun frame member => .inl (lower frame member))
              (.inl trivial)
        case h_2 =>
            refine guards.still moved handled unborn rfl (holders_push rfl).symm
              (fun frame member => .inl (lower frame member)) (.inr ⟨_, rfl, .settle _ fun _ => ?_⟩)
            exact shut.moved handled moved
    | settling outcome fails =>
        refine guards.still moved handled unborn rfl (holders_push rfl).symm
          (fun frame member => .inl (lower frame member))
          (.inr ⟨_, rfl, .settle _ fun sound => ?_⟩)
        rw [fails] at sound
        cases sound
    | releasing =>
        exact guards.still moved handled unborn rfl (holders_push rfl).symm
          (fun frame member => .inl (lower frame member))
          (.inr ⟨_, rfl, .release⟩)
    | leaving =>
        have counts := guards.counts
        rw [Counts, holders_leaving] at counts
        exact guards.leave moved handled unborn grounds (.refl _) rfl counts lower rfl
          (fun _ => trivial) (fun _ => trivial)

theorem unwind (guards : site.Guards (below.push frame))
    (handled : ((below.push frame).strand site.accumulator).Handled) {message : String}
    (panicking : below.control = .panic message) : site.Guards (below.unwind message frame) := by
  have moved : (below.push frame).Moved (below.unwind message frame) := .unwind panicking
  have unborn : ¬ site.Begins (below.push frame) := by
    have control : (below.push frame).control = .panic message := panicking
    simp [Begins, control]
  have lower : ∀ frame' ∈ below.stack, frame' ∈ (below.push frame).stack :=
    fun _ member => List.mem_cons_of_mem _ member
  have grounds : site.Grounds below := guards.toGrounds.same rfl
  have still : below.control.In site.besides below.world := by
    rw [panicking]
    trivial
  rcases guards.frames frame (List.mem_cons_self ..) with own | own
  · have inside := grounds.works.unwind trivial panicking own
    exact guards.inside below moved handled (fun begins => absurd begins unborn) rfl rfl lower
      (holders_push own.holds).symm inside
  · cases own with
    | finishing value shut =>
        exact guards.still moved handled unborn rfl (holders_push rfl).symm
          (fun frame member => .inl (lower frame member))
          (.inl still)
    | settling outcome fails =>
        exact guards.still moved handled unborn rfl (holders_push rfl).symm
          (fun frame member => .inl (lower frame member))
          (.inl still)
    | releasing =>
        have same : ((below.push (.rethrowing message)).turn (.release site.promise)).holders
            site.body = (below.push (.releasing site.promise)).holders site.body :=
          (holders_push rfl).trans (holders_push rfl).symm
        refine guards.still moved handled unborn rfl same (fun frame member => ?_)
          (.inr ⟨_, rfl, .release⟩)
        rcases List.mem_cons.mp member with rfl | low
        · exact .inr (.inl trivial)
        · exact .inl (lower frame low)
    | leaving =>
        have counts := guards.counts
        rw [Counts, holders_leaving] at counts
        exact guards.leave moved handled unborn grounds (.refl _) rfl counts lower rfl
          (fun _ => trivial) (fun _ => trivial)

/-! Calls.  A call on the body holds its sender until it is over. -/

theorem held (guards : site.Guards before) (task : Task) (frames : List Frame)
    (moved : before.Moved { before.hold site.body with
      stack := frames ++ (before.hold site.body).stack, control := .task task })
    (handled : (before.strand site.accumulator).Handled) (unborn : ¬ site.Begins before)
    (inside : task.In site.besides (before.hold site.body).world)
    (free : ∀ frame ∈ frames, frame.holds site.body = false)
    (own : ∀ frame ∈ frames, frame.Own site (Shuts { before.hold site.body with
      stack := frames ++ (before.hold site.body).stack, control := .task task } site.accumulator)) :
    site.Guards { before.hold site.body with
      stack := frames ++ (before.hold site.body).stack, control := .task task } := by
  obtain ⟨grounds, grown⟩ := guards.toGrounds.setBody ((before.world.body site.body).senders + 1)
    (before.world.body site.body).owned
  have waits : site.Waits before { before.hold site.body with
      stack := frames ++ (before.hold site.body).stack, control := .task task } := Waits.refl before
  have counts : site.Counts { before.hold site.body with
      stack := frames ++ (before.hold site.body).stack, control := .task task } := by
    have none : frames.countP (Frame.holds site.body) = 0 :=
      List.countP_eq_zero.mpr fun frame member => by simp [free frame member]
    have more : Machine.holders { before.hold site.body with
        stack := frames ++ (before.hold site.body).stack, control := .task task } site.body =
          before.holders site.body + 1 := by
      rw [Machine.holders, List.countP_append, none, Nat.zero_add]
      exact holders_leaving _ _
    have row : (before.hold site.body).world.body site.body =
        (before.world.body site.body).addSender :=
      (body_setBody _ _ _ _).trans (if_pos rfl)
    rw [Counts, more, row]
    exact congrArg (· + 1) guards.counts
  refine guards.go moved handled (fun begins => absurd begins unborn) (grounds.same rfl) counts
    grown waits (fun frame member => ?_) (.inl inside)
  rcases List.mem_append.mp member with above | member
  · exact .inr (.inr (own frame above))
  · rcases List.mem_cons.mp member with rfl | low
    · exact .inr (.inr .leaving)
    · exact .inl low

theorem begin (guards : site.Guards before) (handled : (before.strand site.accumulator).Handled)
    {sight : Sight} {call : Call} (idle : before.control = .client sight)
    (admitted : before.world.admits call = true) : site.Guards (before.begin call) := by
  have moved : before.Moved (before.begin call) := .begin idle admitted
  have unborn : ¬ site.Begins before := by
    simp [Begins, idle]
  have unowned {promise : Nat} (named : ¬ promise ≠ site.promise)
      (owned : (before.world.promise promise).owned = true) : site.Guards (before.begin call) := by
    rw [Classical.not_not.mp named, guards.unowned] at owned
    cases owned
  by_cases own : call.In site.besides
  · exact guards.inside before moved handled (fun begins => absurd begins unborn) rfl rfl
      (fun _ member => member) rfl
      (guards.toGrounds.works.begin admitted own (guards.opened.fresh _))
  · cases call with
    | settle promise outcome => exact unowned own admitted
    | dropSink promise => exact unowned own admitted
    | newHandler handler =>
        cases handler with
        | collecting charset capacity promise => exact unowned own admitted
        | _ => exact absurd trivial own
    | cancel promise force =>
        obtain rfl : promise = site.promise := Classical.not_not.mp own
        exact guards.still moved handled unborn rfl rfl (fun frame member => .inl member)
          (.inr ⟨_, rfl, .settle _ fun sound => by cases sound⟩)
    | send body bytes =>
        obtain rfl : body = site.body := Classical.not_not.mp own
        exact guards.held (.deliver (before.world.body site.body).accumulator bytes) [] moved handled
          unborn trivial (by simp) (by simp)
    | complete body value =>
        obtain rfl : body = site.body := Classical.not_not.mp own
        have shuts : Control.shuts site.accumulator
            (.task (.finish (before.world.body site.body).accumulator .finished)) :=
          guards.accumulator
        refine guards.held (.finish (before.world.body site.body).accumulator .finished)
          [.finishing (before.world.body site.body).promise value] moved handled unborn trivial
          (by simp [Frame.holds]) ?_
        intro frame member
        rw [List.mem_singleton.mp member, guards.promise]
        exact .finishing value (.inr shuts)
    | fail body outcome =>
        obtain rfl : body = site.body := Classical.not_not.mp own
        refine guards.held (.finish (before.world.body site.body).accumulator .aborted)
          [.settling (before.world.body site.body).promise outcome] moved handled unborn trivial
          (by simp [Frame.holds]) ?_
        intro frame member
        rw [List.mem_singleton.mp member, guards.promise]
        refine .settling outcome ?_
        cases outcome with
        | resolved value => simp [World.admits, Outcome.status] at admitted
        | failed cause => rfl
        | cancelled force => rfl
    | dropSender body =>
        obtain rfl : body = site.body := Classical.not_not.mp own
        obtain ⟨grounds, grown⟩ := guards.toGrounds.setBody
          (before.world.body site.body).senders false
        refine guards.leave moved handled unborn grounds grown rfl ?_ (fun _ member => member) rfl
          (fun _ => trivial) (fun _ => trivial)
        have counts := guards.counts
        have owned : (before.world.body site.body).owned = true := admitted
        rw [Counts, owned] at counts
        rw [body_setBody, if_pos rfl]
        change (before.world.body site.body).senders = 0 + before.holders site.body + 1
        rw [counts, Bool.toNat_true]
        omega
    | text body charset =>
        obtain rfl : body = site.body := Classical.not_not.mp own
        have fresh := guards.opened.promises before.world.promises.size (Nat.le_refl _)
        have works := (guards.toGrounds.works.addPromise (.inside 2) fresh rfl).push
          (.texting site.body before.world.promises.size) fresh
        exact guards.inside before moved handled (fun begins => absurd begins unborn) rfl rfl
          (fun _ member => member) rfl (works.turn ⟨trivial, fresh⟩)
    | chunks body =>
        obtain rfl : body = site.body := Classical.not_not.mp own
        have works := (guards.toGrounds.works.addChannel .new trivial).push
          (.streaming site.body before.world.channels.size) trivial
        exact guards.inside before moved handled (fun begins => absurd begins unborn) rfl rfl
          (fun _ member => member) rfl (works.turn ⟨trivial, trivial⟩)
    | _ => exact absurd trivial own

/-- Whatever the machine does, the promise stays guarded. -/
theorem moved (guards : site.Guards before) (handled : (before.strand site.accumulator).Handled)
    (moved : before.Moved after) : site.Guards after := by
  have idleBorn {sight : Sight} (idle : before.control = .client sight) : ¬ site.Begins before := by
    simp [Begins, idle]
  have lower {below : Machine} {frame : Frame} :
      ∀ frame' ∈ below.stack, frame' ∈ (below.push frame).stack :=
    fun _ member => List.mem_cons_of_mem _ member
  cases moved with
  | rest => exact guards
  | perform working => exact guards.perform handled working
  | resume replied => exact guards.resume handled replied
  | unwind panicking => exact guards.unwind handled panicking
  | surface empty ceased =>
      have unborn : ¬ site.Begins before := by
        intro begins
        rw [Begins] at begins
        rw [begins] at ceased
        cases ceased
      exact guards.still (.surface empty ceased) handled unborn rfl rfl (fun _ member => .inl member)
        (.inl trivial)
  | begin idle admitted => exact guards.begin handled idle admitted
  | describe description idle =>
      have works := guards.toGrounds.works.describe description
      have control : Control.In site.besides (before.describe description).2.world
          (before.describe description).2.control := by
        have still : (before.describe description).2.control = before.control := rfl
        rw [still, idle]
        trivial
      exact guards.inside before (.describe description idle) handled
        (fun begins => absurd begins (idleBorn idle)) rfl rfl (fun _ member => member) rfl
        ⟨works, control⟩
  | answer idle accepted =>
      exact guards.still (.answer idle accepted) handled (idleBorn idle) rfl
        (holders_push rfl).symm (fun frame member => .inl (lower frame member)) (.inl trivial)
  | panic idle =>
      exact guards.still (.panic idle) handled (idleBorn idle) rfl
        (holders_push rfl).symm (fun frame member => .inl (lower frame member)) (.inl trivial)

end Guards

end Site

end Handoff
