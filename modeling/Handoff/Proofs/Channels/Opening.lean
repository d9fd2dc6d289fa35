import Handoff.Proofs.Bodies.Handing
import Handoff.Proofs.Channels.Calls

namespace Handoff

/-! A body is handed over as a stream of chunks.

The hand-over is the library's own work.  A stream without a handler gets the
forwarder, which sends everything that waits; then the forwarder of the outcome is
registered, and if the body was settled before it is told at once. -/

/-- Everything but one channel. -/
def Zone.off (channel : Nat) : Zone :=
  ⟨fun _ => True, fun _ => True, fun _ => True, (· ≠ channel), True⟩

namespace Machine

variable {machine : Machine} {channel : Nat}

theorem Rooted.within_off (rooted : machine.Rooted)
    (unmade : machine.world.channels.size ≤ channel) : machine.Within (.off channel) :=
  rooted _ trivial ⟨fun _ _ => trivial, fun _ _ => trivial, fun _ _ => trivial,
    fun _ made => Nat.ne_of_lt (Nat.lt_of_lt_of_le made unmade)⟩

/-- A channel that was not made was not read. -/
theorem Reached.unread (reached : machine.Reached)
    (unmade : machine.world.channels.size ≤ channel) : machine.polls channel = [] := by
  have later (moves : List Move) (before : Machine) (rooted : before.Rooted)
      (unread : before.polls channel = [])
      (unmade : (before.run moves).world.channels.size ≤ channel) :
      (before.run moves).polls channel = [] := by
    induction moves generalizing before with
    | nil => exact unread
    | cons move moves ih =>
        have later := (rooted.act move).run moves
        have next := Nat.le_trans later.2.channels unmade
        have first := Nat.le_trans (rooted.grown move).channels next
        refine ih _ (rooted.act move) ?_ unmade
        have within (world : World) (free : world.channels.size ≤ channel) :
            world.Within (.off channel) :=
          ⟨fun _ _ => trivial, fun _ _ => trivial, fun _ _ => trivial,
            fun _ made => Nat.ne_of_lt (Nat.lt_of_lt_of_le made free)⟩
        have acted := rooted.acted trivial (within _ first) (within _ next)
        exact ((acted.kept.channels channel fun apart => apart rfl).2).trans unread
  obtain ⟨moves, rfl⟩ := reached
  exact later moves initial (fun zone _ _ => within_initial zone) rfl unmade

end Machine

namespace Site

open Machine

variable {site : Site} {base : List Frame} {current : Current} {channel : Nat}
  {machine before between : Machine} {outcome : Outcome} {sight : Sight}
  {allow : Machine → Move → Prop}

theorem meet_beyond (site : Site) (channel : Nat) :
    (site.beyond none).Meet (.off channel) (site.beyond (some channel)) where
  promise _ own _ := own
  accumulator _ own _ := own
  body _ own _ := own
  channel _ _ apart same := apart (Option.some.inj same).symm
  panics _ _ := trivial
  promises _ own := ⟨own, trivial⟩
  accumulators _ own := ⟨own, trivial⟩
  bodies _ own := ⟨own, trivial⟩

/-- A channel is made for the stream; nothing else mentions it. -/
theorem Carries.addChannel (carries : site.Carries none current machine)
    (reached : machine.Reached) :
    site.Carries (some machine.world.channels.size)
      { current with linked := false, sent := [], opened := true, senders := 2 }
      (machine.withWorld (machine.world.addChannel .new)) := by
  have apart := (reached.rooted.within_off (Nat.le_refl _)).world
  have meet := site.meet_beyond machine.world.channels.size
  have beyond := meet.world carries.beyond apart
  refine ⟨⟨beyond.waiting, beyond.parked, beyond.held, beyond.bodies⟩,
    ⟨carries.free.promises, carries.free.accumulators, carries.free.bodies, fun index late same => ?_⟩,
    carries.accepted, ?_, ⟨carries.promise.stored, carries.promise.held, fun pending => ?_⟩,
    fun index own => ?_⟩
  · obtain rfl := Option.some.inj same
    have late : machine.world.channels.size + 1 ≤ machine.world.channels.size :=
      Nat.le_trans (Nat.le_of_eq (Store.size_add _ _).symm) late
    exact absurd late (Nat.not_succ_le_self _)
  · have fits := carries.pipe
    cases pipe : current.pipe with
    | parked left ending =>
        rw [pipe] at fits
        obtain ⟨⟨_, none, -⟩, -⟩ := fits
        cases none
    | _ => rwa [pipe] at fits
  · obtain ⟨number, rest, waiting, follows, -⟩ := carries.promise.waits pending
    refine ⟨number, rest, waiting, fun registration member => .inl ?_, fun _ _ joined => ?_⟩
    · have inside := (follows registration member).resolve_right (by simp)
      refine meet.completion inside (apart.waiting site.promise trivial registration ?_)
      rw [waiting]
      exact List.mem_cons_of_mem _ member
    · cases joined
  · obtain rfl := Option.some.inj own
    have row : (machine.world.addChannel .new).channel machine.world.channels.size = .new :=
      (Store.get_add _ _ _).trans (if_pos rfl)
    have unread : (machine.withWorld (machine.world.addChannel .new)).yields
        machine.world.channels.size = [] :=
      congrArg (List.filterMap Poll.item?) (reached.unread (Nat.le_refl _))
    have row : (machine.withWorld (machine.world.addChannel .new)).world.channel
        machine.world.channels.size = .new := row
    rw [row, unread]
    exact ⟨rfl, rfl, fun _ => rfl, fun unheard => by cases unheard⟩

/-- No handler waits for a promise that is settled. -/
theorem Carries.link {link : Option Nat} (carries : site.Carries link current machine)
    (concluded : current.outcome = some outcome) :
    site.Carries link { current with linked := true } machine := by
  obtain ⟨beyond, free, accepted, pipe, promise, conveys⟩ := carries
  refine ⟨beyond, free, accepted, pipe, ⟨promise.stored, promise.held, fun pending => ?_⟩,
    fun index own => ?_⟩
  · exact absurd (concluded.symm.trans pending) (by simp)
  · obtain ⟨opened, senders, heard, unheard⟩ := conveys index own
    exact ⟨opened, senders, heard, unheard⟩

/-- The forwarder of the outcome is registered. -/
theorem serves_register (part : base <:+ machine.stack)
    (carries : site.Carries (some channel) current machine)
    (pending : current.outcome = none → current.Rests (some channel) none ∧ current.shares = 1)
    (settled : ∀ outcome, current.outcome = some outcome →
      current.Rests (some channel) (some outcome.ending)) :
    site.Serves (some channel) base machine.stack
      (fun _ final => final.Calm (some channel) ∧ final.outcome = current.outcome ∧
        (final.outcome.isSome = true → final.opened = false))
      (machine.register site.promise (.forwarding channel)) := by
  have counted := (carries.countRegistrations (machine.world.registrations + 1)).note
    (.registered site.promise machine.world.registrations) rfl fun _ => rfl
  simp only [Machine.register]
  cases concluded : current.outcome with
  | none =>
      obtain ⟨waiting, state⟩ :=
        Promise.outcome?_eq_none.mp (carries.promise.stored.trans concluded)
      have enqueued : site.Concludes (some channel) { current with linked := true }
          ((machine.world.promise site.promise).enqueue
            ⟨machine.world.registrations, .forwarding channel⟩) := by
        obtain ⟨number, rest, first, follows, -⟩ := carries.promise.waits concluded
        rw [Promise.waiting, state] at first
        subst first
        refine ⟨?_, ?_, fun _ => ⟨number,
          rest ++ [⟨machine.world.registrations, .forwarding channel⟩], ?_, ?_, ?_⟩⟩
        · simpa [Promise.enqueue, state, Promise.outcome?] using concluded.symm
        · simpa [Promise.enqueue, state] using carries.promise.held
        · simp [Promise.enqueue, state, Promise.waiting]
        · intro registration member
          rcases List.mem_append.mp member with old | new
          · exact follows registration old
          · obtain rfl := List.mem_singleton.mp new
            exact .inr ⟨channel, rfl, rfl⟩
        · rintro other same -
          obtain rfl := Option.some.inj same
          exact ⟨_, List.mem_append_right _ (List.mem_singleton_self _), rfl⟩
      have linked := counted.setPromise enqueued
      simp only [state]
      refine serves_reply linked.stands ⟨⟨fun _ => pending concluded, fun outcome same => ?_, rfl⟩,
        concluded, fun same => ?_⟩
      · exact absurd (concluded.symm.trans same) (by simp)
      · simp [concluded] at same
  | some outcome =>
      have state : (machine.world.promise site.promise).state = .settled outcome :=
        Promise.outcome?_eq_some.mp (carries.promise.stored.trans concluded)
      have told := counted.note (.told site.promise machine.world.registrations outcome) rfl
        fun _ => rfl
      simp only [state]
      obtain ⟨after, reply, final, solo, bottom, replied, stands, sent, senders, rfl, ends⟩ :=
        @serves_telling site base { current with linked := true } (((machine.withWorld
          { machine.world with registrations := machine.world.registrations + 1 }).note
            (.registered site.promise machine.world.registrations)).note
              (.told site.promise machine.world.registrations outcome)) channel outcome part
                (told.link concluded) (.inl (settled outcome concluded))
      refine ⟨after, reply, _, solo, bottom, replied, stands, ⟨fun pending => ?_, fun result same => ?_,
        rfl⟩, concluded, fun _ => rfl⟩
      · exact absurd (concluded.symm.trans pending) (by simp)
      · obtain rfl := Option.some.inj (concluded.symm.trans same)
        exact .inr ⟨rfl, ends⟩

/-- The handler of the outcome is registered, and the client gets the channel. -/
theorem serves_streaming (carries : site.Carries (some channel) current machine)
    (promise : (machine.world.body site.body).promise = site.promise)
    (rests : current.Rests (some channel) (current.outcome.map Outcome.ending))
    (shares : current.outcome = none → current.shares = 1) :
    site.Serves (some channel) machine.stack machine.stack
      (fun reply final => reply = .made channel ∧ final.Calm (some channel) ∧
        final.outcome = current.outcome ∧ (final.outcome.isSome = true → final.opened = false))
      (machine.resume .ok (.streaming site.body channel)) := by
  have resumed : machine.resume .ok (.streaming site.body channel) =
      (machine.push (.replying (.made channel))).turn
        (.register site.promise (.forwarding channel)) := by
    rw [← promise]
    rfl
  have registered : site.Serves (some channel) machine.stack
      (.replying (.made channel) :: machine.stack)
      (fun _ final => final.Calm (some channel) ∧ final.outcome = current.outcome ∧
        (final.outcome.isSome = true → final.opened = false))
      ((machine.push (.replying (.made channel))).turn
        (.register site.promise (.forwarding channel))) := by
    refine serves_turn (@serves_register site _ current _ ((machine.push _).turn _)
      (List.suffix_cons _ _) carries.stands (fun pending => ?_) fun outcome concluded => ?_)
    · rw [pending] at rests
      exact ⟨rests, shares pending⟩
    · rwa [concluded] at rests
  rw [resumed]
  refine serves_frame (List.suffix_refl _) registered
    fun below reply final bottom replied stands holds => ?_
  rw [← bottom]
  exact serves_reply stands ⟨rfl, holds⟩

section Opening

variable (streams : site.Streams none current before) (reached : before.Reached)
  (guards : site.Guards before)

include streams reached guards

/-- The forwarder is attached, and sends what waits in the queue. -/
theorem serves_attached : site.Serves (some before.world.channels.size) before.stack
    (.streaming site.body before.world.channels.size :: before.stack)
    (fun reply final => reply = .ok ∧ ∃ pipe sent opened senders,
      ({ current with pipe, linked := false, sent, opened, senders } : Current).Rests
        (some before.world.channels.size) (current.outcome.map Outcome.ending) ∧
          final = { current with pipe, linked := false, sent, opened, senders })
    (before.begin (.chunks site.body)) := by
  have pipe : current.pipe = .idle (current.outcome.map Outcome.ending) := by
    cases concluded : current.outcome with
    | none => exact (streams.calm.pending concluded).1
    | some outcome => exact (streams.calm.settled outcome concluded).resolve_right (by simp)
  have fits := streams.carries.pipe
  rw [pipe] at fits
  obtain ⟨unattached, queue, closed, wantsEnd⟩ := fits
  have added := streams.carries.addChannel reached
  have fits : Pipe.Fits (some before.world.channels.size) current.accepted
      (.parked current.accepted (current.outcome.map Outcome.ending))
      ((before.world.accumulator site.accumulator).park (.forwarding before.world.channels.size)) :=
    ⟨⟨_, rfl, rfl⟩, queue, closed, wantsEnd⟩
  have parked := (added.setAccumulator fits).log
    (.handlerAttached (before.world.accumulator site.accumulator).queue.length)
  have attaching : (before.begin (.chunks site.body)).perform
      (.attach site.accumulator (.forwarding before.world.channels.size)) =
        ((((((before.withWorld (before.world.addChannel .new)).push
          (.streaming site.body before.world.channels.size)).setAccumulator site.accumulator
            ((before.world.accumulator site.accumulator).park
              (.forwarding before.world.channels.size))).log
                (.handlerAttached (before.world.accumulator site.accumulator).queue.length)).push
                  (.replying .ok)).turn (.drain site.accumulator)) := by
    have free : (before.world.accumulator site.accumulator).isAttached = false := by
      simp [Accumulator.isAttached, unattached]
    simp only [perform, Machine.attach]
    exact if_neg (by rw [Bool.not_eq_true]; exact free)
  simp only [Machine.begin, Machine.chunks, guards.accumulator] at attaching ⊢
  refine serves_turn ?_
  rw [attaching]
  exact serves_joined (List.suffix_cons _ _) parked.stands ⟨current.accepted, rfl, rfl, rfl, rfl⟩
    fun pipe sent opened senders rests => ⟨rfl, pipe, sent, opened, senders, rests, rfl⟩

/-- The hand-over goes on to its end by itself. -/
theorem serves_chunks (idle : before.control = .client sight)
    (admitted : before.world.admits (.chunks site.body) = true) :
    site.Serves (some before.world.channels.size) before.stack before.stack
      (fun reply final => reply = .made before.world.channels.size ∧
        final.Calm (some before.world.channels.size) ∧ final.outcome = current.outcome ∧
          (final.outcome.isSome = true → final.opened = false))
      (before.begin (.chunks site.body)) := by
  obtain ⟨below, reply, final, bottom, replied, stands, holds, solo⟩ :=
    (serves_attached streams reached guards).through
  obtain ⟨rfl, pipe, sent, opened, senders, rests, rfl⟩ := holds
  -- The body is still the one that was handed over.
  have promise : (below.world.body site.body).promise = site.promise := by
    obtain ⟨moves, same⟩ := solo.reached
    rw [← act_call idle admitted] at same
    have guards := guards.run reached (.call (.chunks site.body) :: moves)
    rw [run_cons, same] at guards
    exact guards.promise
  have made := serves_streaming stands promise rests fun pending => (streams.calm.pending pending).2
  rw [bottom] at made
  obtain ⟨after, last, final, later, rest⟩ := made
  exact ⟨after, last, final, solo.trans (.frame (bottom ▸ List.suffix_refl _) replied later), rest⟩

/-- A body whose stream has no handler is handed over as a stream of chunks. -/
theorem Streams.chunks (called : Machine.Called allow (.chunks site.body) before between) :
    between.control = .reply (.made before.world.channels.size) ∧
      site.Flowing (some before.world.channels.size) between := by
  obtain ⟨sight, idle⟩ := called.idle
  obtain ⟨after, reply, final, solo, bottom, replied, carries, rfl, calm, stored, ends⟩ :=
    serves_chunks streams reached guards idle called.admitted
  have ceased : Over before.stack after := ⟨bottom, by rw [replied]; rfl⟩
  have arrives : Ends allow before.stack (· = after) (before.begin (.chunks site.body)) :=
    solo.ends (ends_of_over ceased rfl)
  obtain rfl := arrives between called.course called.ceased
  refine ⟨replied, final, carries, calm, fun frame member => ?_, .inl (by rw [replied]; trivial),
    fun channel linked opened concluded => ?_⟩
  · have meet := site.meet_beyond before.world.channels.size
    have off := reached.rooted.within_off (Nat.le_refl _)
    obtain ⟨above, stack, within⟩ := off.frames
    rw [List.append_nil] at stack
    rw [bottom] at member
    have inside := within frame (stack ▸ member)
    obtain ⟨moves, same⟩ := called.reached
    have grown : before.world.Grown between.world := same ▸ (reached.rooted.run moves).2
    rcases streams.frames frame member with beyond | bound
    · exact .inl ((meet.frame beyond inside).grown grown)
    · refine .inr ?_
      cases bound with
      | leaving => exact .leaving
      | dispatching settled follows =>
          refine .dispatching (stored.trans settled) fun registration member => .inl ?_
          exact meet.completion ((follows registration member).resolve_right (by simp))
            (inside registration member)
  · exact absurd (opened.symm.trans (ends concluded)) (by simp)

end Opening

/-- A stream that has a handler is not handed over. -/
theorem refused_chunks {body : Nat}
    (attached : (before.world.accumulator (before.world.body body).accumulator).isAttached = true)
    (called : Machine.Called allow (.chunks body) before between) :
    between.control ≠ .reply (.made channel) := by
  have above : Ends allow (.streaming body before.world.channels.size :: before.stack)
      (fun after => ∀ answer, after.control = .reply answer → answer = .refused .alreadyAttached)
      (before.begin (.chunks body)) := by
    have attaching : (before.begin (.chunks body)).tick =
        ((before.begin (.chunks body)).push (.replying (.refused .alreadyAttached))).turn
          (.discard (.forwarding before.world.channels.size)) := by
      simp only [tick, Machine.begin, Machine.chunks, control_turn, Machine.perform, Machine.attach]
      exact if_pos attached
    refine ends_tick (by simp [Over, Machine.begin, Machine.chunks, Control.isOver])
      (by simp [Machine.begin, Machine.chunks]) (ends_replying ?_)
    rw [attaching]
    exact rises_turn.mpr (List.suffix_refl _)
  have refused : Ends allow before.stack
      (fun after => ∀ answer, after.control = .reply answer → answer = .refused .alreadyAttached)
      (before.begin (.chunks body)) := by
    refine ends_frame ⟨List.suffix_refl _, by simp [Machine.begin, Machine.chunks]⟩ above ?_ ?_
    · intro below reply bottom replied holds
      obtain rfl := holds reply replied
      exact ends_of_over ⟨bottom, rfl⟩ fun answer same => (Control.reply.inj same).symm
    · intro below message bottom panicking _
      have still : (below.unwind message (.streaming body before.world.channels.size)).control =
          .panic message := panicking
      refine ends_of_over ⟨bottom, by rw [still]; rfl⟩ fun answer replied => ?_
      rw [still] at replied
      cases replied
  intro made
  cases refused between called.course called.ceased _ made

end Site

end Handoff
