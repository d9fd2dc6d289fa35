import Handoff.Proofs.Channels.Turns

namespace Handoff.Site

/-! What the client asks of a body that is used as a stream of chunks.

Every call on the body leaves its stream at rest before client code runs again, and
so does every use of the channel. -/

open Machine

variable {site : Site} {link : Option Nat} {current : Current} {before start after : Machine}
  {move : Move} {outcome : Outcome} {sight : Sight}

/-- A call is under way, and may hold the sender. -/
structure Asked (site : Site) (link : Option Nat) (current : Current) (before start : Machine) :
    Prop where
  carries : site.Carries link current start
  above : ∀ frame ∈ start.stack, frame ∈ before.stack ∨ frame = .leaving site.body
  below : ∀ frame ∈ before.stack, frame ∈ start.stack

theorem Streams.asked (streams : site.Streams link current before) :
    site.Asked link current before before :=
  ⟨streams.carries, fun _ member => .inl member, fun _ member => member⟩

theorem Streams.asked_hold (streams : site.Streams link current before)
    (grounds : site.Grounds before) : site.Asked link current before (before.hold site.body) where
  carries := (streams.carries.setBody grounds.body_made _).stands
  above _ member := (List.mem_cons.mp member).symm
  below _ member := List.mem_cons_of_mem _ member

/-- A body is settled once. -/
theorem serves_settled {base : List Frame} {machine : Machine}
    (carries : site.Carries link current machine) (concluded : current.outcome.isSome = true)
    (failing : Outcome) :
    site.Serves link base machine.stack (fun _ final => final = current)
      (machine.settle site.promise failing) := by
  have done : (machine.world.promise site.promise).isDone = true :=
    (congrArg Option.isSome carries.promise.stored).trans concluded
  rw [settle_done done]
  exact serves_reply (carries.log _) rfl

namespace Asked

variable (asked : site.Asked link current before start)
  (streams : site.Streams link current before) (reached : before.Reached)
  (idle : before.control = .client sight)

include asked streams idle in
theorem heir (channel : Nat) (linked : link = some channel) (opened : current.opened = true)
    (concluded : current.outcome.isSome = true) : Bequest start.stack channel := by
  have idle : before.control.In (site.beyond link) before.world := by
    rw [idle]
    trivial
  exact (Streams.waits idle channel linked (streams.heir channel linked opened concluded)).mono
    asked.below

section

include asked streams reached

theorem settles {between : Current} (acted : before.act move = after)
    (pending : current.outcome = none) (linked : between.linked = true)
    (settles : site.Settles link [] start.stack outcome between after) :
    Soon (site.Flowing link) after :=
  streams.settles reached acted pending linked settles fun frame member =>
    (asked.above frame member).imp id .inr

end

include asked streams reached idle

/-- A call that is refused. -/
theorem still (acted : before.act move = after)
    (serves : site.Serves link [] start.stack (fun _ final => final = current) after) :
    Soon (site.Flowing link) after := by
  refine streams.serves reached acted serves ?_ ?_ ?_
  · rintro reply final rfl
    exact ⟨streams.calm, fun _ same => same⟩
  · intro frame member
    refine (asked.above frame member).imp id fun same => .inr fun _ _ _ => ?_
    exact same ▸ .leaving
  · rintro reply final channel rfl linked opened concluded
    exact asked.heir streams idle channel linked opened concluded

theorem deliver {bytes : Bytes} (acted : before.act move =
    start.turn (.deliver site.accumulator bytes)) :
    Soon (site.Flowing link) (start.turn (.deliver site.accumulator bytes)) := by
  have carries : site.Carries link current (start.turn (.deliver site.accumulator bytes)) :=
    asked.carries.stands
  have delivered : site.Serves link [] start.stack
      (fun _ final => final = current ∨ current.outcome = none ∧ ∃ pipe sent opened senders,
        final = { current with
          accepted := current.accepted ++ [bytes], pipe, sent, opened, senders } ∧
            final.Rests link none) (start.turn (.deliver site.accumulator bytes)) :=
    serves_turn (serves_deliver List.nil_suffix carries streams.calm bytes (fun _ => .inl rfl)
      fun pending pipe sent opened senders rests =>
        .inr ⟨pending, pipe, sent, opened, senders, rfl, rests⟩)
  refine streams.serves reached acted delivered ?_ ?_ ?_
  · rintro reply final (rfl | ⟨pending, pipe, sent, opened, senders, rfl, rests⟩)
    · exact ⟨streams.calm, fun _ same => same⟩
    · have undone (result : Outcome) : current.outcome ≠ some result := by simp [pending]
      exact ⟨⟨fun _ => ⟨rests, (streams.calm.pending pending).2⟩,
        fun result same => absurd same (undone result), streams.calm.linked⟩,
          fun result same => absurd same (undone result)⟩
  · intro frame member
    refine (asked.above frame member).imp id fun same => .inr fun _ _ _ => ?_
    exact same ▸ .leaving
  · rintro reply final channel (rfl | ⟨pending, pipe, sent, opened, senders, rfl, rests⟩) linked
      opened' concluded
    · exact asked.heir streams idle channel linked opened' concluded
    · simp [pending] at concluded

/-- The promise is settled otherwise than by a value. -/
theorem cancel (fails : outcome.fails = true)
    (acted : before.act move = start.turn (.settle site.promise outcome)) :
    Soon (site.Flowing link) (start.turn (.settle site.promise outcome)) := by
  have carries : site.Carries link current (start.turn (.settle site.promise outcome)) :=
    asked.carries.stands
  cases concluded : current.outcome with
  | some first =>
      exact asked.still streams reached idle acted
        (serves_turn (serves_settled carries (by simp [concluded]) outcome))
  | none =>
      have settled : site.Settles link [] start.stack outcome current
          (start.turn (.settle site.promise outcome)) :=
        Settles.turn (@settles_settle site link [] (start.turn (.settle site.promise outcome))
          current List.nil_suffix carries concluded outcome
            (.inl ⟨(streams.calm.pending concluded).1, fails⟩))
      exact asked.settles streams reached acted concluded streams.calm.linked settled

/-- The stream is ended, and then the promise is settled. -/
theorem conclude {frame : Frame} {ending : Ending}
    (acted : before.act move = (start.push frame).turn (.finish site.accumulator ending))
    (ends : outcome.ending = ending)
    (resumed : ∀ below : Machine, below.control = .reply .ok →
      below.resume .ok frame = below.turn (.settle site.promise outcome))
    (refused : ∀ below : Machine, current.outcome.isSome = true →
      below.control = .reply (.refused .streamClosed) → below.stack = start.stack →
        site.Carries link current below → site.Serves link [] start.stack
          (fun _ final => final = current) (below.resume (.refused .streamClosed) frame)) :
    Soon (site.Flowing link) ((start.push frame).turn (.finish site.accumulator ending)) := by
  have carries : site.Carries link current
      ((start.push frame).turn (.finish site.accumulator ending)) := asked.carries.stands
  cases concluded : current.outcome with
  | some first =>
      have shut : (start.world.accumulator site.accumulator).closed = true :=
        asked.carries.closed streams.calm concluded
      have finished : site.Serves link [] (frame :: start.stack)
          (fun reply final => reply = .refused .streamClosed ∧ final = current)
          ((start.push frame).turn (.finish site.accumulator ending)) := by
        have declined := @finish_closed ((start.push frame).turn (.finish site.accumulator ending)) _
          shut ending
        refine serves_turn ?_
        rw [perform, declined]
        exact serves_reply carries.stands ⟨rfl, rfl⟩
      refine asked.still streams reached idle acted
        (serves_frame List.nil_suffix finished fun below reply final bottom replied stands same => ?_)
      obtain ⟨rfl, rfl⟩ := same
      exact refused below (by simp [concluded]) replied bottom stands
  | none =>
      have rests := (streams.calm.pending concluded).1
      have finished : site.Serves link [] (frame :: start.stack)
          (fun reply final => reply = .ok ∧ ∃ pipe sent opened senders,
            ({ current with pipe, sent, opened, senders } : Current).Rests link (some ending) ∧
              final = { current with pipe, sent, opened, senders })
          ((start.push frame).turn (.finish site.accumulator ending)) :=
        serves_turn (serves_finish List.nil_suffix carries.stands rests ending
          fun pipe sent opened senders rests => ⟨rfl, pipe, sent, opened, senders, rests, rfl⟩)
      obtain ⟨below, reply, final, bottom, replied, stands, same, arrived⟩ := finished.through
      obtain ⟨rfl, pipe, sent, opened, senders, rests, rfl⟩ := same
      have linked : ({ current with pipe, sent, opened, senders } : Current).linked = true :=
        streams.calm.linked
      rw [← ends] at rests
      have settled : site.Settles link [] start.stack outcome
          { current with pipe, sent, opened, senders }
          (below.turn (.settle site.promise outcome)) := by
        rw [← bottom]
        exact Settles.turn (@settles_settle site link [] (below.turn (.settle site.promise outcome))
          { current with pipe, sent, opened, senders } List.nil_suffix stands.stands concluded outcome
            (.inr rests))
      rw [← resumed below replied] at settled
      obtain ⟨waiting, follows, heirs, between, last, final, solo, rest⟩ := settled
      exact asked.settles streams reached acted concluded linked
        ⟨waiting, follows, heirs, between, last, final,
          arrived.trans (.frame List.nil_suffix replied solo), rest⟩

end Asked

/-! The reader. -/

theorem Carries.poll {channel : Nat} {machine : Machine}
    (carries : site.Carries (some channel) current machine)
    (listening : (machine.world.channel channel).listening = true) :
    site.Carries (some channel) current
      ((machine.setChannel channel (machine.world.channel channel).poll.2).note
        (.polled channel (machine.world.channel channel).poll.1)) := by
  have yields : ((machine.setChannel channel (machine.world.channel channel).poll.2).note
      (.polled channel (machine.world.channel channel).poll.1)).yields channel =
        machine.yields channel ++ (machine.world.channel channel).poll.1.item?.toList := by
    cases item : (machine.world.channel channel).poll.1.item? <;>
      simp [Machine.yields, Machine.polls, Machine.note, Machine.setChannel, withWorld, Entry.poll?, item]
  refine carries.convey rfl ?_ ?_
  · rw [accepted_note]
    exact if_neg (by simp [Entry.accumulator?])
  · rw [yields]
    exact (carries.channel channel rfl).poll listening

theorem grown_act (reached : before.Reached) (acted : before.act move = after) :
    before.world.Grown after.world :=
  acted ▸ reached.rooted.grown move

namespace Streams

/-- A call of the client. -/
theorem begin (streams : site.Streams link current before) (reached : before.Reached)
    (grounds : site.Grounds before) {call : Call} (idle : before.control = .client sight)
    (admitted : before.world.admits call = true)
    (kept : ∀ ending, call ≠ .finish site.accumulator ending)
    (acted : before.act move = before.begin call) : Soon (site.Flowing link) (before.begin call) := by
  have resting : before.control.In (site.beyond link) before.world := by
    rw [idle]
    trivial
  have past (works : Works (site.beyond link) before.stack before (before.begin call))
      (control : (before.begin call).control.In (site.beyond link) (before.begin call).world ∨
        ∃ task, (before.begin call).control = .task task ∧
          task.Bound site link current.outcome) : Soon (site.Flowing link) (before.begin call) :=
    .now ⟨current, streams.past before rfl rfl (fun _ member => member) (waits resting) works control⟩
  by_cases own : call.In (site.beyond link)
  · have step := streams.works.begin admitted own (streams.carries.free.fresh _)
    exact past step.toWorks (.inl step.control)
  · cases call with
    | settle promise outcome =>
        obtain rfl : promise = site.promise := Classical.not_not.mp own
        exact absurd (grounds.unowned.symm.trans admitted) (by simp)
    | dropSink promise =>
        obtain rfl : promise = site.promise := Classical.not_not.mp own
        exact absurd (grounds.unowned.symm.trans admitted) (by simp)
    | newHandler handler =>
        cases handler with
        | collecting charset capacity promise =>
            obtain rfl : promise = site.promise := Classical.not_not.mp own
            exact absurd (grounds.unowned.symm.trans admitted) (by simp)
        | _ => exact absurd trivial own
    | cancel promise force =>
        obtain rfl : promise = site.promise := Classical.not_not.mp own
        exact streams.asked.cancel streams reached idle rfl acted
    | deliver accumulator bytes =>
        obtain rfl : accumulator = site.accumulator := Classical.not_not.mp own
        exact streams.asked.deliver streams reached idle acted
    | finish accumulator ending =>
        obtain rfl : accumulator = site.accumulator := Classical.not_not.mp own
        exact absurd rfl (kept ending)
    | attach accumulator index =>
        obtain rfl : accumulator = site.accumulator := Classical.not_not.mp own
        obtain ⟨taken, inside⟩ := streams.works.takeHandler index
        exact past (taken.withControl _) (.inr ⟨_, rfl, .attach inside⟩)
    | send body bytes =>
        obtain rfl : body = site.body := Classical.not_not.mp own
        simp only [Machine.begin, grounds.accumulator] at acted ⊢
        exact (streams.asked_hold grounds).deliver streams reached idle acted
    | complete body value =>
        obtain rfl : body = site.body := Classical.not_not.mp own
        simp only [Machine.begin, grounds.accumulator, grounds.promise] at acted ⊢
        refine (streams.asked_hold grounds).conclude streams reached idle acted rfl
          (fun _ _ => rfl) fun below _ _ bottom carries => ?_
        rw [← bottom]
        exact serves_reply carries rfl
    | fail body outcome =>
        obtain rfl : body = site.body := Classical.not_not.mp own
        have fails : outcome.fails = true := by
          cases outcome with
          | resolved value => simp [World.admits, Outcome.status] at admitted
          | _ => rfl
        simp only [Machine.begin, grounds.accumulator, grounds.promise] at acted ⊢
        refine (streams.asked_hold grounds).conclude streams reached idle acted
          (Outcome.ending_of_fails fails) (fun _ _ => rfl)
          fun below concluded _ bottom carries => ?_
        rw [← bottom]
        exact serves_turn (serves_settled carries.stands concluded outcome)
    | dropSender body =>
        obtain rfl : body = site.body := Classical.not_not.mp own
        obtain ⟨ground, grown⟩ := grounds.setBody (before.world.body site.body).senders false
        exact streams.leave reached ground acted (streams.carries.setBody grounds.body_made _) grown
          (fun _ member => member) (waits resting) (fun _ => trivial) (fun _ => trivial)
    | text body charset =>
        obtain rfl : body = site.body := Classical.not_not.mp own
        have fresh := streams.carries.free.promises before.world.promises.size (Nat.le_refl _)
        have works := (streams.works.addPromise (.inside 2) fresh rfl).push
          (.texting site.body before.world.promises.size) fresh
        simp only [Machine.begin, Machine.text, grounds.accumulator] at past ⊢
        exact past (works.withControl _) (.inr ⟨_, rfl, .attach fresh⟩)
    | chunks body =>
        obtain rfl : body = site.body := Classical.not_not.mp own
        have fresh := streams.carries.free.channels before.world.channels.size (Nat.le_refl _)
        have works := (streams.works.addChannel .new fresh).push
          (.streaming site.body before.world.channels.size) fresh
        simp only [Machine.begin, Machine.chunks, grounds.accumulator] at past ⊢
        exact past (works.withControl _) (.inr ⟨_, rfl, .attach fresh⟩)
    | poll channel =>
        obtain rfl : link = some channel := Classical.not_not.mp own
        exact .now ⟨current, streams.land (streams.carries.poll admitted).stands streams.calm
          (grown_act reached acted) (fun _ same => same) (fun _ member => .inl member)
          (.inl trivial) fun other linked opened concluded =>
            .inl (waits resting other linked (streams.heir other linked opened concluded))⟩
    | dropStream channel =>
        obtain rfl : link = some channel := Classical.not_not.mp own
        have carries := streams.carries.setChannel (streams.carries.channel channel rfl).abandon
        exact .now ⟨current, streams.land carries.stands streams.calm
          (grown_act reached acted) (fun _ same => same) (fun _ member => .inl member)
          (.inl trivial) fun other linked opened concluded =>
            .inl (waits resting other linked (streams.heir other linked opened concluded))⟩
    | _ => exact absurd trivial own

/-- Client code returns, or panics. -/
theorem depart {below : Machine} {invocation : Invocation} {control : Control}
    (streams : site.Streams link current (below.push (.client invocation)))
    (idle : below.control = .client sight)
    (inside : control.In (site.beyond link) below.world) :
    site.Streams link current { below with control } := by
  have resting : (below.push (.client invocation)).control.In (site.beyond link)
      (below.push (.client invocation)).world := by
    change Control.In _ _ below.control
    rw [idle]
    trivial
  exact streams.past { below with control } rfl rfl (fun _ member => List.mem_cons_of_mem _ member)
    (waits_below resting (.inl trivial)) ⟨streams.carries.beyond, ⟨[], rfl, by simp⟩, .refl _⟩
    (.inl inside)

/-- The library goes on. -/
theorem tick (streams : site.Streams link current before) (reached : before.Reached)
    (grounds : site.Grounds before)
    (spared : ∀ channel, link = some channel → ¬ site.Deserts channel before)
    (working : ∀ sight, before.control ≠ .client sight) :
    Soon (site.Flowing link) before.tick ∨ link = none ∧
      (before.tick.world.accumulator site.accumulator).isAttached = true := by
  have moved := before.moved_tick
  have acted : before.act .tick = before.tick := rfl
  generalize before.tick = after at moved acted ⊢
  cases moved with
  | rest => exact .inl (.now ⟨current, streams⟩)
  | perform performing => exact streams.perform reached performing acted
  | resume replied => exact .inl (streams.resume reached (grounds.same rfl) replied acted)
  | unwind panicking =>
      exact .inl (streams.unwind reached (grounds.same rfl) spared panicking acted)
  | surface empty ceased =>
      have bequest (channel : Nat) (_ : link = some channel) (bequeaths : before.Bequeaths channel) :
          Bequest before.stack channel := by
        refine bequeaths.resolve_right ?_
        rintro ⟨promise, outcome, waiting, same, -⟩
        rw [same] at ceased
        cases ceased
      exact .inl (.now ⟨current, streams.past before rfl rfl (fun _ member => member) bequest
        (streams.works.withControl _) (.inl trivial)⟩)
  | begin idle admitted => exact absurd idle (working _)
  | describe description idle => exact absurd idle (working _)
  | answer idle accepted => exact absurd idle (working _)
  | panic idle => exact absurd idle (working _)

/-- Whatever happens next, the stream is soon at rest. -/
theorem act (streams : site.Streams link current before) (reached : before.Reached)
    (grounds : site.Grounds before)
    (spared : ∀ channel, link = some channel → ¬ site.Deserts channel before)
    (kept : ∀ ending, move ≠ .call (.finish site.accumulator ending)) :
    Soon (site.Flowing link) (before.act move) ∨ link = none ∧
      ((before.act move).world.accumulator site.accumulator).isAttached = true := by
  have acted := before.acted move
  generalize same : before.act move = after at acted
  cases acted with
  | rest => exact .inl (.now ⟨current, streams⟩)
  | tick _ working => exact streams.tick reached grounds spared working
  | call idle admitted =>
      exact .inl (streams.begin reached grounds idle admitted
        (fun ending same => kept ending (congrArg Move.call same)) same)
  | describe description idle =>
      have works := streams.works.describe description
      have resting : before.control.In (site.beyond link) before.world := by
        rw [idle]
        trivial
      refine .inl (.now ⟨current, streams.past before rfl rfl (fun _ member => member)
        (waits resting) works (.inl ?_)⟩)
      have still : (before.describe description).2.control = _ := idle
      rw [still]
      trivial
  | @answer _ _ reply below idle top accepted =>
      obtain ⟨world, stack, control, journal⟩ := before
      obtain rfl := top
      exact .inl (.now ⟨current, @depart _ _ _ _ ⟨world, below, control, journal⟩ _
        (.reply reply) streams idle trivial⟩)
  | @panic _ _ message below idle top =>
      obtain ⟨world, stack, control, journal⟩ := before
      obtain rfl := top
      exact .inl (.now ⟨current, @depart _ _ _ _ ⟨world, below, control, journal⟩ _
        (.panic message) streams idle trivial⟩)

end Streams

end Handoff.Site
