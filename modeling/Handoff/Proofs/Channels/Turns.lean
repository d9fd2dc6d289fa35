import Handoff.Proofs.Bodies.Births
import Handoff.Proofs.Channels.Streams

namespace Handoff

/-! The library's own turns.

The channel is told of the outcome once, by the forwarder that waits for the
promise, and the stream has ended by then.  Everything else the library does for the
body by itself was dealt with before: this is where it begins. -/

namespace Current.Conveys

variable {current : Current} {row : Channel} {yields : List (Except Error Bytes)}

theorem send_shut (conveys : current.Conveys row yields) (shut : current.opened = false)
    (item : Except Error Bytes) : row.send item = row := by
  simp [Channel.send, conveys.opened.trans shut]

end Current.Conveys

namespace Site

open Machine

variable {site : Site} {link : Option Nat} {base : List Frame} {current : Current}
  {before after start below machine : Machine} {channel : Nat} {outcome : Outcome}

/-- A panic is about to go through the dispatch of the body's outcome while the
forwarder of the outcome still waits there. -/
def Deserts (site : Site) (channel : Nat) (machine : Machine) : Prop :=
  ∃ message outcome waiting below, machine.control = .panic message ∧
    machine.stack = .dispatching site.promise outcome waiting :: below ∧
      ∃ registration ∈ waiting, registration.handler = .forwarding channel

theorem Deserts.unsheltered (deserts : site.Deserts channel machine) : ¬ machine.Shelters := by
  obtain ⟨message, outcome, waiting, below, panicking, stack, -⟩ := deserts
  intro shelters
  have quiet := shelters.control (by rw [stack]; rfl)
  rw [panicking] at quiet
  exact quiet

/-- The forwarder of the outcome closes the channel, behind an error if there is one. -/
theorem tell_forwarding (carries : site.Carries (some channel) current machine)
    (stands : current.Rests (some channel) (some outcome.ending) ∨ current.Told outcome) :
    ∃ row sent, machine.tell (.forwarding channel) outcome =
        (machine.setChannel channel row).reply .done ∧
      ({ current with sent, opened := false } : Current).Conveys row (machine.yields channel) ∧
        ({ current with sent, opened := false } : Current).Told outcome := by
  have conveys := carries.channel channel rfl
  have failing (error : Error) (result : outcome.result = .error error)
      (aborted : outcome.ending = .aborted) (parting : outcome.parting = [.error error]) :
      ∃ row sent, machine.tell (.forwarding channel) outcome =
          (machine.setChannel channel row).reply .done ∧
        ({ current with sent, opened := false } : Current).Conveys row (machine.yields channel) ∧
          ({ current with sent, opened := false } : Current).Told outcome := by
    have told : machine.tell (.forwarding channel) outcome = (machine.setChannel channel
        ((machine.world.channel channel).send (.error error)).close).reply .done := by
      simp only [Machine.tell, result]
    rcases stands with ⟨ceased, opened, sent⟩ | stands
    · have opened : current.opened = true := by simpa [aborted] using opened
      refine ⟨_, _, told, (conveys.send opened (.error error)).close, ceased, rfl, ?_⟩
      rw [sent, parting]
    · rw [conveys.send_shut stands.opened] at told
      exact ⟨_, _, told, conveys.close, stands.pipe, rfl, stands.sent⟩
  cases outcome with
  | failed cause => exact failing _ rfl rfl rfl
  | cancelled force => exact failing _ rfl rfl rfl
  | resolved value =>
      refine ⟨_, _, rfl, conveys.close, ?_⟩
      rcases stands with ⟨ceased, -, sent⟩ | stands
      · exact ⟨ceased, rfl, sent.trans (List.append_nil _).symm⟩
      · exact ⟨stands.pipe, rfl, stands.sent⟩

/-- The forwarder of the outcome is told, and let go. -/
theorem serves_telling (part : base <:+ machine.stack)
    (carries : site.Carries (some channel) current machine)
    (stands : current.Rests (some channel) (some outcome.ending) ∨ current.Told outcome) :
    site.Serves (some channel) base machine.stack
      (fun _ final => ∃ sent senders, final = { current with sent, opened := false, senders } ∧
        final.Told outcome)
      ((machine.push (.forgetting [.forwarding channel])).turn
        (.tell (.forwarding channel) outcome)) := by
  have carries : site.Carries (some channel) current
      ((machine.push (.forgetting [.forwarding channel])).turn
        (.tell (.forwarding channel) outcome)) := carries.stands
  obtain ⟨row, sent, same, conveys, told⟩ := tell_forwarding carries stands
  have above : site.Serves (some channel) base
      (.forgetting [.forwarding channel] :: machine.stack)
      (fun _ final => final = { current with sent, opened := false })
      ((machine.push (.forgetting [.forwarding channel])).turn
        (.tell (.forwarding channel) outcome)) := by
    refine serves_turn ?_
    rw [perform, same]
    exact serves_reply (carries.setChannel conveys) rfl
  refine serves_frame part above fun below reply final bottom replied stands same => ?_
  subst same
  have left := stands.setChannel (stands.channel channel rfl).leave
  rw [← bottom]
  exact serves_turn (serves_reply left.stands ⟨_, _, rfl, told.pipe, rfl, told.sent⟩)

namespace Streams

theorem dispatch (streams : site.Streams link current before) (reached : before.Reached)
    {move : Move} {waiting : List Registration}
    (working : before.control = .task (.dispatch site.promise outcome waiting))
    (settled : current.outcome = some outcome)
    (follows : ∀ registration ∈ waiting, site.Follows link registration.handler)
    (acted : before.act move = before.dispatch site.promise outcome waiting) :
    Soon (site.Flowing link) (before.dispatch site.promise outcome waiting) := by
  have turn {channel : Nat} (bequeaths : before.Bequeaths channel) :
      Bequest before.stack channel ∨
        ∃ registration ∈ waiting, registration.handler = .forwarding channel := by
    refine bequeaths.imp id ?_
    rintro ⟨promise, result, others, same, heir⟩
    rw [working] at same
    cases same
    exact heir
  cases waiting with
  | nil =>
      refine .now ⟨current, streams.past before rfl rfl (fun _ member => member)
        (fun channel linked bequeaths => ?_) (streams.works.reply .ok).toWorks (.inl trivial)⟩
      exact (turn bequeaths).resolve_right (by simp)
  | cons registration waiting =>
      obtain ⟨first, rest⟩ := List.forall_mem_cons.mp follows
      have told := streams.carries.note (.told site.promise registration.number outcome) rfl
        fun _ => rfl
      rcases first with inside | ⟨channel, rfl, forwards⟩
      · refine .now ⟨current, streams.land told.stands streams.calm (.refl _) (fun _ same => same)
          (fun frame member => ?_) (.inl inside) fun channel linked opened concluded => ?_⟩
        · rcases List.mem_cons.mp member with rfl | member
          · exact .inr (.inl (by simpa [Frame.In] using inside))
          · rcases List.mem_cons.mp member with rfl | below
            · exact .inr (.inr (.dispatching settled rest))
            · exact .inl below
        · rcases turn (streams.heir channel linked opened concluded) with low | ⟨heir, member, same⟩
          · exact .inl (low.mono fun frame member =>
              List.mem_cons_of_mem _ (List.mem_cons_of_mem _ member))
          · rcases List.mem_cons.mp member with rfl | later
            · exact absurd inside (same ▸ not_in_beyond linked)
            · exact .inl ⟨site.promise, outcome, waiting, by simp [Machine.dispatch], heir, later,
                same⟩
      · simp only [Machine.dispatch, forwards] at acted ⊢
        have stands := (streams.calm.settled outcome settled).imp id And.right
        have serves := @serves_telling site [] current
          ((before.note (.told site.promise registration.number outcome)).push
            (.dispatching site.promise outcome waiting)) channel outcome (List.nil_suffix)
          told.stands stands
        refine streams.serves reached acted serves ?_ ?_ ?_
        · rintro reply final ⟨sent, senders, rfl, told⟩
          refine ⟨⟨fun pending => ?_, fun result same => ?_, streams.calm.linked⟩,
            fun result same => same⟩
          · exact absurd (settled.symm.trans pending) (by simp)
          · obtain rfl := Option.some.inj (settled.symm.trans same)
            exact .inr ⟨rfl, told⟩
        · intro frame member
          rcases List.mem_cons.mp member with rfl | below
          · refine .inr (.inr ?_)
            rintro reply final ⟨sent, senders, rfl, told⟩
            exact .dispatching settled rest
          · exact .inl below
        · rintro reply final other ⟨sent, senders, rfl, told⟩ _ opened
          cases opened

/-- A stream of chunks has a handler. -/
theorem attached (streams : site.Streams (some channel) current machine) :
    (machine.world.accumulator site.accumulator).isAttached = true := by
  have fits := streams.carries.pipe
  have ceased (pipe : current.pipe = .ceased) :
      (machine.world.accumulator site.accumulator).isAttached = true := by
    rw [pipe] at fits
    simp [Accumulator.isAttached, fits.1]
  cases concluded : current.outcome with
  | none =>
      rw [(streams.calm.pending concluded).1.1] at fits
      obtain ⟨⟨_, -, parked⟩, -⟩ := fits
      simp [Accumulator.isAttached, parked]
  | some outcome =>
      rcases streams.calm.settled outcome concluded with rests | ⟨-, told⟩
      · exact ceased rests.1
      · exact ceased told.pipe

theorem attach (streams : site.Streams link current before) {handler : ChunkHandler}
    (working : before.control = .task (.attach site.accumulator handler))
    (inside : handler.In (site.beyond link)) :
    site.Streams link current (before.attach site.accumulator handler) ∨ link = none ∧
      ((before.attach site.accumulator handler).world.accumulator site.accumulator).isAttached =
        true := by
  simp only [Machine.attach]
  split
  case isTrue attached =>
      have own : (Task.discard handler).In (site.beyond link) before.world := inside
      have works := (streams.works.push (.replying (.refused .alreadyAttached)) trivial).turn own
      refine .inl (streams.past before rfl rfl (fun _ member => member)
        (fun channel linked bequeaths => ?_) works.toWorks (.inl works.control))
      refine bequeaths.resolve_right ?_
      rintro ⟨promise, outcome, waiting, same, -⟩
      rw [working] at same
      cases same
  case isFalse unattached =>
      cases link with
      | some channel => exact absurd streams.attached unattached
      | none =>
          have row := accumulator_setAccumulator_own before site.accumulator
            ((before.world.accumulator site.accumulator).park handler)
          have attached : ((before.world.accumulator site.accumulator).park handler).isAttached =
              true := rfl
          rw [← row] at attached
          exact .inr ⟨rfl, attached⟩

/-- The sender goes: a body that is pending is cancelled. -/
theorem abandon (streams : site.Streams link current before) (reached : before.Reached)
    (grounds : site.Grounds start) {move : Move}
    (acted : before.act move = start.turn (.abandon site.body))
    (carries : site.Carries link current start)
    (frames : ∀ frame ∈ start.stack, frame ∈ before.stack ∨
      ∀ world, frame.In (site.beyond link) world)
    (heir : ∀ channel, link = some channel → current.opened = true →
      current.outcome.isSome = true → Bequest start.stack channel) :
    Soon (site.Flowing link) (start.turn (.abandon site.body)) := by
  have carries : site.Carries link current (start.turn (.abandon site.body)) := carries.stands
  have ground : site.Grounds (start.turn (.abandon site.body)) := grounds.same rfl
  cases concluded : current.outcome with
  | none =>
      have settles : site.Settles link [] (.dropping :: start.stack) (.cancelled false)
          { current with shares := 0 } (start.turn (.abandon site.body)) :=
        Settles.turn (@settles_abandon site link [] (start.turn (.abandon site.body)) current
          List.nil_suffix carries streams.calm concluded ground.accumulator ground.promise)
      have linked : ({ current with shares := 0 } : Current).linked = true := streams.calm.linked
      refine streams.settles reached acted concluded linked settles fun frame member => ?_
      rcases List.mem_cons.mp member with rfl | member
      · exact .inr (.inl fun _ => trivial)
      · exact (frames frame member).imp id .inl
  | some outcome =>
      have done : ((start.turn (.abandon site.body)).world.promise site.promise).isDone = true := by
        have stored := carries.promise.stored.trans concluded
        exact congrArg Option.isSome stored
      have serves : site.Serves link [] start.stack
          (fun _ final => final = { current with shares := current.shares - 1 })
          (start.turn (.abandon site.body)) := by
        refine serves_turn ?_
        simp only [perform, Machine.abandon, ground.promise, done, if_pos]
        exact serves_turn (serves_release carries.stands concluded rfl)
      refine streams.serves reached acted serves ?_ ?_ ?_
      · rintro reply final rfl
        refine ⟨⟨fun pending => ?_, fun result same => ?_, streams.calm.linked⟩,
          fun result same => same⟩
        · exact absurd (concluded.symm.trans pending) (by simp)
        · refine (streams.calm.settled result same).imp (fun rests => ?_) (And.imp id ?_)
          · cases link <;> exact rests
          · exact fun told => ⟨told.pipe, told.opened, told.sent⟩
      · exact fun frame member => (frames frame member).imp id .inl
      · rintro reply final channel rfl linked opened settled
        exact heir channel linked opened settled

/-- A share of the sender goes, and with the last one the sender. -/
theorem leave (streams : site.Streams link current before) (reached : before.Reached)
    (grounds : site.Grounds start) {move : Move} {next : Frame} {otherwise : Control}
    (acted : before.act move = start.leave site.body next otherwise)
    (carries : site.Carries link current start) (grown : before.world.Grown start.world)
    (below : ∀ frame ∈ start.stack, frame ∈ before.stack)
    (heir : ∀ channel, link = some channel → before.Bequeaths channel → Bequest start.stack channel)
    (pushed : ∀ world, next.In (site.beyond link) world)
    (resting : ∀ world, otherwise.In (site.beyond link) world) :
    Soon (site.Flowing link) (start.leave site.body next otherwise) := by
  obtain ⟨left, larger⟩ := grounds.setBody ((start.world.body site.body).senders - 1)
    (start.world.body site.body).owned
  have left : site.Grounds (start.setBody site.body (start.world.body site.body).removeSender) :=
    left
  have carries := carries.setBody grounds.body_made (start.world.body site.body).removeSender
  have heirs (channel : Nat) (linked : link = some channel) (opened : current.opened = true)
      (concluded : current.outcome.isSome = true) : Bequest start.stack channel :=
    heir channel linked (streams.heir channel linked opened concluded)
  simp only [Machine.leave] at acted ⊢
  split at acted
  case isTrue last =>
      rw [if_pos last]
      refine streams.abandon reached (left.same rfl) acted carries.stands (fun frame member => ?_)
        fun channel linked opened concluded => (heirs channel linked opened concluded).mono
          fun frame member => List.mem_cons_of_mem _ member
      rcases List.mem_cons.mp member with rfl | low
      · exact .inr pushed
      · exact .inl (below frame low)
  case isFalse more =>
      rw [if_neg more]
      exact .now ⟨current, streams.land carries.stands streams.calm (grown.trans larger)
        (fun _ same => same) (fun frame member => .inl (below frame member)) (.inl (resting _))
        fun channel linked opened concluded => .inl (heirs channel linked opened concluded)⟩

/-- Work that is beyond the site leaves no dispatch without the forwarder. -/
theorem waits (idle : before.control.In (site.beyond link) before.world) (channel : Nat)
    (linked : link = some channel) (bequeaths : before.Bequeaths channel) :
    Bequest before.stack channel := by
  refine bequeaths.resolve_right ?_
  rintro ⟨promise, outcome, waiting, same, registration, member, forwards⟩
  rw [same] at idle
  exact not_in_beyond linked (forwards ▸ idle registration member)

theorem perform (streams : site.Streams link current before) (reached : before.Reached)
    {move : Move} {task : Task} (working : before.control = .task task)
    (acted : before.act move = before.perform task) :
    Soon (site.Flowing link) (before.perform task) ∨ link = none ∧
      ((before.perform task).world.accumulator site.accumulator).isAttached = true := by
  rcases streams.control with inside | ⟨other, same, bound⟩
  · have idle := inside
    rw [working] at inside
    have step := streams.works.perform inside
    exact .inl (.now ⟨current, streams.past before rfl rfl (fun _ member => member)
      (waits idle) step.toWorks (.inl step.control)⟩)
  · obtain rfl : task = other := Control.task.inj (working.symm.trans same)
    cases bound with
    | dispatch settled follows => exact .inl (streams.dispatch reached working settled follows acted)
    | attach inside =>
        exact (streams.attach working inside).imp (fun streams => .now ⟨current, streams⟩) id

/-! Frames.  The machine before a frame is met again has it on top. -/

variable {frame : Frame}

/-- What waited below a frame beyond the site still waits when the frame is gone. -/
theorem waits_below
    (idle : (below.push frame).control.In (site.beyond link) (below.push frame).world)
    (apart : frame.In (site.beyond link) below.world ∨ frame = .leaving site.body) (channel : Nat)
    (linked : link = some channel) (bequeaths : (below.push frame).Bequeaths channel) :
    Bequest below.stack channel := by
  obtain ⟨promise, outcome, waiting, waits, registration, member, forwards⟩ :=
    waits idle channel linked bequeaths
  rcases List.mem_cons.mp waits with same | low
  · subst same
    have inside := apart.resolve_right (by simp)
    exact absurd (forwards ▸ inside registration member) (not_in_beyond linked)
  · exact ⟨promise, outcome, waiting, low, registration, member, forwards⟩

theorem resume (streams : site.Streams link current (below.push frame))
    (reached : (below.push frame).Reached) (grounds : site.Grounds below) {move : Move}
    {reply : Reply} (replied : below.control = .reply reply)
    (acted : (below.push frame).act move = below.resume reply frame) :
    Soon (site.Flowing link) (below.resume reply frame) := by
  have idle : (below.push frame).control.In (site.beyond link) (below.push frame).world := by
    change Control.In _ _ below.control
    rw [replied]
    trivial
  have lower (other : Frame) (member : other ∈ below.stack) : other ∈ (below.push frame).stack :=
    List.mem_cons_of_mem _ member
  have works : Works (site.beyond link) below.stack below below :=
    ⟨streams.carries.beyond, ⟨[], rfl, by simp⟩, .refl below⟩
  rcases streams.frames frame (List.mem_cons_self ..) with inside | bound
  · have step := works.resume reply inside
    exact .now ⟨current, streams.past below rfl rfl lower (waits_below idle (.inl inside))
      step.toWorks (.inl step.control)⟩
  · cases bound with
    | leaving =>
        exact streams.leave reached grounds acted streams.carries.stands (.refl _) lower
          (waits_below idle (.inr rfl)) (fun _ => trivial) (fun _ => trivial)
    | @dispatching result waiting settled follows =>
        refine .now ⟨current, streams.land streams.carries.stands streams.calm (.refl _)
          (fun _ same => same) (fun frame member => .inl (lower frame member))
          (.inr ⟨_, rfl, .dispatch settled follows⟩) fun channel linked opened concluded => ?_⟩
        obtain ⟨promise, outcome, others, waits, heir⟩ :=
          waits idle channel linked (streams.heir channel linked opened concluded)
        rcases List.mem_cons.mp waits with same | low
        · cases same
          exact .inr ⟨site.promise, result, waiting, rfl, heir⟩
        · exact .inl ⟨promise, outcome, others, low, heir⟩

theorem unwind (streams : site.Streams link current (below.push frame))
    (reached : (below.push frame).Reached) (grounds : site.Grounds below)
    (spared : ∀ channel, link = some channel → ¬ site.Deserts channel (below.push frame))
    {move : Move} {message : String}
    (panicking : below.control = .panic message)
    (acted : (below.push frame).act move = below.unwind message frame) :
    Soon (site.Flowing link) (below.unwind message frame) := by
  have idle : (below.push frame).control.In (site.beyond link) (below.push frame).world := by
    change Control.In _ _ below.control
    rw [panicking]
    trivial
  have lower (other : Frame) (member : other ∈ below.stack) : other ∈ (below.push frame).stack :=
    List.mem_cons_of_mem _ member
  have works : Works (site.beyond link) below.stack below below :=
    ⟨streams.carries.beyond, ⟨[], rfl, by simp⟩, .refl below⟩
  rcases streams.frames frame (List.mem_cons_self ..) with inside | bound
  · have step := works.unwind trivial panicking inside
    exact .now ⟨current, streams.past below rfl rfl lower (waits_below idle (.inl inside))
      step.toWorks (.inl step.control)⟩
  · cases bound with
    | leaving =>
        exact streams.leave reached grounds acted streams.carries.stands (.refl _) lower
          (waits_below idle (.inr rfl)) (fun _ => trivial) (fun _ => trivial)
    | @dispatching result waiting settled follows =>
        have forwarded (channel : Nat) (linked : link = some channel) :
            ¬ ∃ registration ∈ waiting, registration.handler = .forwarding channel :=
          fun heir => spared channel linked
            ⟨message, result, waiting, below.stack, panicking, rfl, heir⟩
        -- Whoever else waits is let go, and none of them concerns the body.
        have others (handler : CompletionHandler)
            (member : handler ∈ waiting.map Registration.handler) :
            handler.In (site.beyond link) := by
          obtain ⟨registration, waits, rfl⟩ := List.mem_map.mp member
          refine (follows registration waits).resolve_right ?_
          rintro ⟨channel, linked, forwards⟩
          exact forwarded channel linked ⟨registration, waits, forwards⟩
        have own : (Task.forget (waiting.map Registration.handler)).In (site.beyond link)
            below.world := others
        have step := (works.push (.rethrowing message) trivial).turn own
        refine .now ⟨current, streams.past below rfl rfl lower (fun channel linked bequeaths => ?_)
          step.toWorks (.inl step.control)⟩
        obtain ⟨promise, outcome, others, waits, heir⟩ := waits idle channel linked bequeaths
        rcases List.mem_cons.mp waits with same | low
        · cases same
          exact absurd heir (forwarded channel linked)
        · exact ⟨promise, outcome, others, low, heir⟩

end Streams

end Site

end Handoff
