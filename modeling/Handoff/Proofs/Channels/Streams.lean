import Handoff.Proofs.Channels.Closing
import Handoff.Proofs.Channels.Shelter

namespace Handoff

/-! A body that is used as a stream of chunks.

Between what the library does by itself, client code may run at a few points only,
and there the stream is at rest: it goes on as long as the body is pending, and the
forwarder of the outcome waits for its promise, or for its turn in the dispatch. -/

/-- A frame that concerns the body. -/
inductive Frame.Bound (site : Site) (link : Option Nat) (outcome : Option Outcome) : Frame → Prop
  | leaving : Bound site link outcome (.leaving site.body)
  | dispatching {result : Outcome} {waiting : List Registration} (settled : outcome = some result)
      (follows : ∀ registration ∈ waiting, site.Follows link registration.handler) :
      Bound site link outcome (.dispatching site.promise result waiting)

inductive Task.Bound (site : Site) (link : Option Nat) (outcome : Option Outcome) : Task → Prop
  | dispatch {result : Outcome} {waiting : List Registration} (settled : outcome = some result)
      (follows : ∀ registration ∈ waiting, site.Follows link registration.handler) :
      Bound site link outcome (.dispatch site.promise result waiting)
  | attach {handler : ChunkHandler} (inside : handler.In (site.beyond link)) :
      Bound site link outcome (.attach site.accumulator handler)

theorem Frame.Bound.mono {site : Site} {link : Option Nat} {earlier later : Option Outcome}
    {frame : Frame} (bound : frame.Bound site link earlier)
    (stored : ∀ outcome, earlier = some outcome → later = some outcome) :
    frame.Bound site link later := by
  cases bound with
  | leaving => exact .leaving
  | dispatching settled follows => exact .dispatching (stored _ settled) follows

/-- The forwarder of an outcome waits for its turn in a dispatch. -/
def Bequest (stack : List Frame) (channel : Nat) : Prop :=
  ∃ promise outcome waiting, .dispatching promise outcome waiting ∈ stack ∧
    ∃ registration ∈ waiting, registration.handler = .forwarding channel

theorem Bequest.mono {stack other : List Frame} {channel : Nat} (bequest : Bequest stack channel)
    (more : ∀ frame ∈ stack, frame ∈ other) : Bequest other channel := by
  obtain ⟨promise, outcome, waiting, waits, heir⟩ := bequest
  exact ⟨promise, outcome, waiting, more _ waits, heir⟩

namespace Machine

def Bequeaths (machine : Machine) (channel : Nat) : Prop :=
  Bequest machine.stack channel ∨ ∃ promise outcome waiting,
    machine.control = .task (.dispatch promise outcome waiting) ∧
      ∃ registration ∈ waiting, registration.handler = .forwarding channel

end Machine

namespace Site

open Machine

structure Streams (site : Site) (link : Option Nat) (current : Current) (machine : Machine) :
    Prop where
  carries : site.Carries link current machine
  calm : current.Calm link
  frames : ∀ frame ∈ machine.stack, frame.In (site.beyond link) machine.world ∨
    frame.Bound site link current.outcome
  control : machine.control.In (site.beyond link) machine.world ∨
    ∃ task, machine.control = .task task ∧ task.Bound site link current.outcome
  heir : ∀ channel, link = some channel → current.opened = true → current.outcome.isSome = true →
    machine.Bequeaths channel

/-- The stream is at rest, in some way. -/
def Flowing (site : Site) (link : Option Nat) (machine : Machine) : Prop :=
  ∃ current, site.Streams link current machine

variable {site : Site} {link : Option Nat} {current final : Current}
  {before after start machine : Machine}

namespace Streams

theorem land (streams : site.Streams link current before) (carries : site.Carries link final after)
    (calm : final.Calm link) (grown : before.world.Grown after.world)
    (stored : ∀ outcome, current.outcome = some outcome → final.outcome = some outcome)
    (frames : ∀ frame ∈ after.stack, frame ∈ before.stack ∨
      frame.In (site.beyond link) after.world ∨ frame.Bound site link final.outcome)
    (control : after.control.In (site.beyond link) after.world ∨
      ∃ task, after.control = .task task ∧ task.Bound site link final.outcome)
    (heir : ∀ channel, link = some channel → final.opened = true → final.outcome.isSome = true →
      after.Bequeaths channel) : site.Streams link final after where
  carries := carries
  calm := calm
  frames frame member := by
    rcases frames frame member with earlier | later
    · exact (streams.frames frame earlier).imp (fun inside => inside.grown grown)
        (fun bound => bound.mono stored)
    · exact later
  control := control
  heir := heir

theorem not_in_beyond {channel : Nat} (linked : link = some channel) :
    ¬ (CompletionHandler.forwarding channel).In (site.beyond link) :=
  fun inside => inside linked

theorem works (streams : site.Streams link current machine) :
    Works (site.beyond link) machine.stack machine machine :=
  ⟨streams.carries.beyond, ⟨[], rfl, by simp⟩, .refl machine⟩

/-- Work beyond the site, done by one step. -/
theorem past (streams : site.Streams link current before) (start : Machine)
    (world : start.world = before.world) (journal : start.journal = before.journal)
    (below : ∀ frame ∈ start.stack, frame ∈ before.stack)
    (kept : ∀ channel, link = some channel → before.Bequeaths channel → Bequest start.stack channel)
    (works : Works (site.beyond link) start.stack start after)
    (control : after.control.In (site.beyond link) after.world ∨
      ∃ task, after.control = .task task ∧ task.Bound site link current.outcome) :
    site.Streams link current after := by
  have along : Kept (site.beyond link) before after := by
    obtain ⟨accumulators, bodies, promises, channels, grown⟩ := works.kept
    simp only [world, streamPast, polls, journal] at accumulators bodies promises channels grown
    exact ⟨accumulators, bodies, promises, channels, grown⟩
  obtain ⟨above, stack, within⟩ := works.frames
  refine streams.land (streams.carries.kept works.world along) streams.calm along.grown
    (fun _ same => same) (fun frame member => ?_) control fun channel linked opened settled => ?_
  · rw [stack] at member
    rcases List.mem_append.mp member with high | low
    · exact .inr (.inl (within frame high))
    · exact .inl (below frame low)
  · have bequest := kept channel linked (streams.heir channel linked opened settled)
    exact .inl (bequest.mono fun frame member => stack ▸ List.mem_append_right _ member)

/-- What the library does by itself comes to a point at which the stream is at
rest. -/
theorem serves (streams : site.Streams link current before) (reached : before.Reached) {move : Move}
    {stack : List Frame} {goal : Reply → Current → Prop} (acted : before.act move = after)
    (serves : site.Serves link [] stack goal after)
    (calm : ∀ reply final, goal reply final → final.Calm link ∧
      ∀ outcome, current.outcome = some outcome → final.outcome = some outcome)
    (frames : ∀ frame ∈ stack, frame ∈ before.stack ∨
      (∀ world, frame.In (site.beyond link) world) ∨
        ∀ reply final, goal reply final → frame.Bound site link final.outcome)
    (heir : ∀ reply final channel, goal reply final → link = some channel → final.opened = true →
      final.outcome.isSome = true → Bequest stack channel) : Soon (site.Flowing link) after := by
  obtain ⟨between, reply, final, solo, bottom, replied, carries, holds⟩ := serves
  obtain ⟨later, same⟩ := solo.reached
  have grown : before.world.Grown between.world := by
    have grown := (reached.rooted.run (move :: later)).2
    rwa [run_cons, acted, same] at grown
  obtain ⟨calm, stored⟩ := calm reply final holds
  refine solo.soon (.now ⟨final, streams.land carries calm grown stored (fun frame member => ?_)
    (.inl (by rw [replied]; trivial)) fun channel linked opened settled => ?_⟩)
  · rw [bottom] at member
    rcases frames frame member with earlier | inside | bound
    · exact .inl earlier
    · exact .inr (.inl (inside _))
    · exact .inr (.inr (bound reply final holds))
  · exact .inl (bottom ▸ heir reply final channel holds linked opened settled)

/-- The body is settled, and the dispatch has come to the handlers behind the first. -/
theorem settles (streams : site.Streams link current before) (reached : before.Reached)
    {move : Move} {stack : List Frame} {outcome : Outcome} {between : Current}
    (acted : before.act move = after) (pending : current.outcome = none)
    (linked : between.linked = true)
    (settles : site.Settles link [] stack outcome between after)
    (frames : ∀ frame ∈ stack, frame ∈ before.stack ∨
      (∀ world, frame.In (site.beyond link) world) ∨ frame = .leaving site.body) :
    Soon (site.Flowing link) after := by
  obtain ⟨waiting, follows, heirs, serves⟩ := settles
  refine streams.serves reached acted serves ?_ ?_ ?_
  · rintro reply final ⟨pipe, sent, opened, senders, rfl, rests⟩
    refine ⟨⟨fun unsettled => ?_, fun result same => ?_, linked⟩, fun result same => ?_⟩
    · cases unsettled
    · obtain rfl := Option.some.inj same
      exact .inl rests
    · rw [pending] at same
      cases same
  · intro frame member
    rcases List.mem_cons.mp member with rfl | below
    · refine .inr (.inr ?_)
      rintro reply final ⟨pipe, sent, opened, senders, rfl, rests⟩
      exact .dispatching rfl follows
    · rcases frames frame below with earlier | inside | rfl
      · exact .inl earlier
      · exact .inr (.inl inside)
      · exact .inr (.inr fun _ _ _ => .leaving)
  · intro reply final channel _ joined _ _
    exact ⟨site.promise, outcome, waiting, List.mem_cons_self .., heirs channel joined linked⟩

end Streams

end Site

end Handoff
