import Handoff.Proofs.Bodies.Calls
import Handoff.Proofs.Channels.Solo

namespace Handoff

/-! The stream of a body on its way to a channel.

A body may be handed over as a stream of chunks: then a channel joins its site.
A current says how the stream stands: what was accepted, how far it has come, how
the body ended, and what was sent into the channel.  Before the hand-over there is
no channel, and only the stream and the promise of the body matter. -/

inductive Pipe where
  /-- No handler was attached; the stream may have ended. -/
  | idle (ending : Option Ending)
  /-- The forwarder waits; some chunks are left. -/
  | parked (left : List Bytes) (ending : Option Ending)
  /-- A drain has the forwarder. -/
  | draining (left : List Bytes) (ending : Option Ending)
  /-- A drain has read the end. -/
  | closing
  /-- The forwarder was let go. -/
  | ceased

structure Current where
  accepted : List Bytes
  pipe : Pipe
  outcome : Option Outcome
  shares : Nat
  /-- Whether the channel hears of the outcome of the body. -/
  linked : Bool
  /-- All that was sent into the channel. -/
  sent : List (Except Error Bytes)
  opened : Bool
  senders : Nat

/-- What a poll gave to the reader. -/
def Poll.item? : Poll → Option (Except Error Bytes)
  | .chunk bytes => some (.ok bytes)
  | .error reason => some (.error reason)
  | .pending | .ended => none

/-- What the reader of a channel was given, in order. -/
def Machine.yields (machine : Machine) (channel : Nat) : List (Except Error Bytes) :=
  (machine.polls channel).filterMap Poll.item?

/-- What a stream of chunks ends with, behind the chunks. -/
def Outcome.parting : Outcome → List (Except Error Bytes)
  | .resolved _ => []
  | .failed cause => [.error (.producerFailed cause)]
  | .cancelled force => [.error (.cancelled force)]

def Pipe.Fits (link : Option Nat) (accepted : List Bytes) : Pipe → Accumulator → Prop
  | .idle ending, accumulator =>
      accumulator.stage = .unattached ∧ accumulator.queue = Item.line accepted ending ∧
        accumulator.closed = ending.isSome ∧ accumulator.wantsEnd = true
  | .parked left ending, accumulator =>
      (∃ channel, link = some channel ∧ accumulator.stage = .parked (.forwarding channel)) ∧
        accumulator.queue = Item.line left ending ∧ accumulator.closed = ending.isSome ∧
        accumulator.wantsEnd = true
  | .draining left ending, accumulator =>
      accumulator.stage = .draining ∧ accumulator.queue = Item.line left ending ∧
        accumulator.closed = ending.isSome ∧ accumulator.wantsEnd = true
  | .closing, accumulator => accumulator.stage = .draining ∧ accumulator.closed = true
  | .ceased, accumulator => accumulator.stage = .released ∧ accumulator.closed = true

namespace Current

/-- How a current rests between the calls on its body. -/
def Rests (current : Current) : Option Nat → Option Ending → Prop
  | none, ending => current.pipe = .idle ending
  | some _, none =>
      current.pipe = .parked [] none ∧ current.opened = true ∧ current.senders = 2 ∧
        current.sent = current.accepted.map .ok
  | some _, some ending =>
      current.pipe = .ceased ∧ current.opened = decide (ending = .aborted) ∧
        current.sent = current.accepted.map .ok

/-- How a current stands before a drain. -/
def Moves (current : Current) : Option Nat → Option Ending → Prop
  | none, ending => current.pipe = .idle ending
  | some _, ending => ∃ left, current.pipe = .parked left ending ∧ current.opened = true ∧
      current.senders = 2 ∧ current.sent ++ left.map .ok = current.accepted.map .ok

/-- The channel was told how the body ended. -/
structure Told (current : Current) (outcome : Outcome) : Prop where
  pipe : current.pipe = .ceased
  opened : current.opened = false
  sent : current.sent = current.accepted.map .ok ++ outcome.parting

structure Calm (current : Current) (link : Option Nat) : Prop where
  pending : current.outcome = none → current.Rests link none ∧ current.shares = 1
  settled : ∀ outcome, current.outcome = some outcome →
    current.Rests link (some outcome.ending) ∨ link.isSome ∧ current.Told outcome
  linked : current.linked = true

end Current

namespace Site

open Machine

/-- Everything but the body with its stream and its promise, and the channel. -/
def beyond (site : Site) (link : Option Nat) : Zone where
  promise index := index ≠ site.promise
  accumulator index := index ≠ site.accumulator
  body index := index ≠ site.body
  channel index := link ≠ some index
  panics := True

/-- The handlers that may wait behind the one that aborts the stream. -/
def Follows (site : Site) (link : Option Nat) (handler : CompletionHandler) : Prop :=
  handler.In (site.beyond link) ∨ ∃ channel, link = some channel ∧ handler = .forwarding channel

/-- How the promise of the body stands. -/
structure Concludes (site : Site) (link : Option Nat) (current : Current) (promise : Promise) : Prop where
  stored : promise.outcome? = current.outcome
  held : promise.shares = current.shares
  waits : current.outcome = none → ∃ number rest,
    promise.waiting = ⟨number, .aborting site.accumulator⟩ :: rest ∧
      (∀ registration ∈ rest, site.Follows link registration.handler) ∧
        ∀ channel, link = some channel → current.linked = true →
          ∃ registration ∈ rest, registration.handler = .forwarding channel

end Site

/-- How a channel stands, and what its reader got. -/
structure Current.Conveys (current : Current) (channel : Channel)
    (yields : List (Except Error Bytes)) : Prop where
  opened : channel.opened = current.opened
  senders : channel.senders = current.senders
  heard : channel.listening = true → yields ++ channel.items = current.sent
  unheard : channel.listening = false → yields <+: current.sent

namespace Current.Conveys

variable {current : Current} {row : Channel} {yields : List (Except Error Bytes)}

theorem send (conveys : current.Conveys row yields) (opened : current.opened = true)
    (item : Except Error Bytes) :
    ({ current with sent := current.sent ++ [item] } : Current).Conveys (row.send item) yields := by
  obtain ⟨row_opened, senders, heard, unheard⟩ := conveys
  have opened' : row.opened = true := row_opened.trans opened
  cases listening : row.listening with
  | true =>
      have sent : row.send item = { row with items := row.items ++ [item] } := by
        simp [Channel.send, opened', listening]
      rw [sent]
      refine ⟨row_opened, senders, fun _ => ?_, fun deaf => ?_⟩
      · exact (List.append_assoc ..).symm.trans (congrArg (· ++ [item]) (heard listening))
      · exact absurd (listening.symm.trans deaf) (by simp)
  | false =>
      have sent : row.send item = row := by simp [Channel.send, listening]
      rw [sent]
      refine ⟨row_opened, senders, fun hears => ?_, fun _ => ?_⟩
      · exact absurd (listening.symm.trans hears) (by simp)
      · exact (unheard listening).trans (List.prefix_append _ _)

theorem close (conveys : current.Conveys row yields) :
    ({ current with opened := false } : Current).Conveys row.close yields :=
  ⟨rfl, conveys.senders, conveys.heard, conveys.unheard⟩

theorem leave (conveys : current.Conveys row yields) :
    ({ current with
      opened := current.opened && current.senders > 1
      senders := current.senders - 1 } : Current).Conveys row.leave yields := by
  obtain ⟨opened, senders, heard, unheard⟩ := conveys
  refine ⟨?_, ?_, heard, unheard⟩
  · simp only [Channel.leave, opened, senders]
  · simp only [Channel.leave, senders]

theorem poll (conveys : current.Conveys row yields) (listening : row.listening = true) :
    current.Conveys row.poll.2 (yields ++ row.poll.1.item?.toList) := by
  obtain ⟨opened, senders, heard, -⟩ := conveys
  have whole := heard listening
  have deaf {goal : Prop} (deaf : row.listening = false) : goal :=
    absurd (listening.symm.trans deaf) (by simp)
  simp only [Channel.poll]
  split
  case h_1 bytes rest items =>
      refine ⟨opened, senders, fun _ => ?_, deaf⟩
      simpa [items, Poll.item?] using whole
  case h_2 error rest items =>
      refine ⟨opened, senders, fun _ => ?_, deaf⟩
      simpa [items, Poll.item?] using whole
  case h_3 items =>
      refine ⟨opened, senders, fun _ => ?_, deaf⟩
      split <;> simpa [Poll.item?] using whole

/-- The reader goes; what it got remains. -/
theorem abandon (conveys : current.Conveys row yields) : current.Conveys row.abandon yields := by
  obtain ⟨opened, senders, heard, unheard⟩ := conveys
  refine ⟨opened, senders, (by cases ·), fun _ => ?_⟩
  cases listening : row.listening with
  | true => exact ⟨row.items, heard listening⟩
  | false => exact unheard listening

end Current.Conveys

namespace Site

open Machine

structure Carries (site : Site) (link : Option Nat) (current : Current) (machine : Machine) :
    Prop where
  beyond : machine.world.In (site.beyond link)
  free : machine.world.Open (site.beyond link)
  accepted : machine.accepted site.accumulator = current.accepted
  pipe : current.pipe.Fits link current.accepted (machine.world.accumulator site.accumulator)
  promise : site.Concludes link current (machine.world.promise site.promise)
  channel : ∀ channel, link = some channel →
    current.Conveys (machine.world.channel channel) (machine.yields channel)

variable {site : Site} {link : Option Nat} {current : Current} {machine after : Machine}

theorem Concludes.extends {before after : Promise} (concludes : site.Concludes link current before)
    (more : before.Extends (site.beyond link) after) : site.Concludes link current after where
  stored := more.outcome?.trans concludes.stored
  held := more.shares.trans concludes.held
  waits pending := by
    obtain ⟨number, rest, waiting, follows, linked⟩ := concludes.waits pending
    obtain ⟨later, inside, state⟩ := more.state
    have stored := Promise.outcome?_eq_none.mp (concludes.stored.trans pending)
    obtain ⟨first, earlier⟩ := stored
    rw [Promise.waiting, earlier] at waiting
    refine ⟨number, rest ++ later, ?_, fun registration member => ?_, fun channel own joined => ?_⟩
    · rw [Promise.waiting, state, earlier, Promise.State.extend]
      exact congrArg (· ++ later) waiting
    · rcases List.mem_append.mp member with old | new
      · exact follows registration old
      · exact .inl (inside registration new)
    · obtain ⟨registration, member, forwards⟩ := linked channel own joined
      exact ⟨registration, List.mem_append_left _ member, forwards⟩

namespace Carries

/-- Work beyond the site does not change how its stream stands. -/
theorem kept (carries : site.Carries link current machine)
    (beyond : after.world.In (site.beyond link)) (kept : machine.Kept (site.beyond link) after) :
    site.Carries link current after := by
  have accumulator := kept.accumulators site.accumulator (fun apart => apart rfl)
  refine ⟨beyond, carries.free.grown kept.grown, ?_, ?_, ?_, fun channel own => ?_⟩
  · rw [Machine.accepted, accumulator.2]
    exact carries.accepted
  · rw [accumulator.1]
    exact carries.pipe
  · exact carries.promise.extends (kept.promises site.promise fun apart => apart rfl)
  · have row := kept.channels channel fun apart => apart own
    rw [row.1, yields, row.2]
    exact carries.channel channel own

theorem same (carries : site.Carries link current machine) (world : after.world = machine.world)
    (accepted : after.accepted site.accumulator = machine.accepted site.accumulator)
    (polls : ∀ channel, after.polls channel = machine.polls channel) :
    site.Carries link current after := by
  obtain ⟨beyond, free, taken, pipe, promise, conveys⟩ := carries
  refine ⟨?_, ?_, accepted.trans taken, ?_, ?_, fun channel own => ?_⟩
  case refine_5 =>
      rw [yields, polls, world]
      exact conveys channel own
  all_goals
    rw [world]
    assumption

theorem note (carries : site.Carries link current machine) (entry : Entry)
    (quiet : entry.accepted? = none) (unpolled : ∀ channel, entry.poll? channel = none) :
    site.Carries link current (machine.note entry) := by
  refine carries.same rfl ?_ fun channel => ?_
  · rw [Machine.accepted_note]
    split
    case isTrue => rw [quiet]; exact List.append_nil _
    case isFalse => rfl
  · simp [Machine.polls, Machine.note, unpolled]

theorem log (carries : site.Carries link current machine) (notice : Notice) :
    site.Carries link current (machine.log notice) :=
  carries.note _ rfl fun _ => rfl

theorem stands (carries : site.Carries link current machine) {stack : List Frame}
    {control : Control} : site.Carries link current { machine with stack, control } :=
  carries.same rfl rfl fun _ => rfl

theorem countRegistrations (carries : site.Carries link current machine) (registrations : Nat) :
    site.Carries link current (machine.withWorld { machine.world with registrations }) := by
  obtain ⟨beyond, free, accepted, pipe, promise, conveys⟩ := carries
  exact ⟨⟨beyond.waiting, beyond.parked, beyond.held, beyond.bodies⟩,
    ⟨free.promises, free.accumulators, free.bodies, free.channels⟩, accepted, pipe, promise, conveys⟩

theorem setAccumulator (carries : site.Carries link current machine) {accumulator : Accumulator}
    {pipe : Pipe} (fits : pipe.Fits link current.accepted accumulator) :
    site.Carries link { current with pipe }
      (machine.setAccumulator site.accumulator accumulator) := by
  obtain ⟨beyond, free, accepted, -, promise, conveys⟩ := carries
  refine ⟨⟨beyond.waiting, fun index own => ?_, beyond.held, beyond.bodies⟩,
    free.grown (grown_setAccumulator _ _ _), accepted, ?_, ⟨promise.stored, promise.held, promise.waits⟩,
    fun channel own => ?_⟩
  · rw [accumulator_setAccumulator, if_neg own]
    exact beyond.parked index own
  · rw [accumulator_setAccumulator, if_pos rfl]
    exact fits
  · obtain ⟨opened, senders, heard, unheard⟩ := conveys channel own
    exact ⟨opened, senders, heard, unheard⟩

theorem accept (carries : site.Carries link current machine) {accumulator : Accumulator}
    {pipe : Pipe} {bytes : Bytes} (fits : pipe.Fits link (current.accepted ++ [bytes]) accumulator) :
    site.Carries link { current with accepted := current.accepted ++ [bytes], pipe }
      ((machine.setAccumulator site.accumulator accumulator).note
        (.accepted site.accumulator bytes)) := by
  obtain ⟨beyond, free, accepted, -, promise, conveys⟩ := carries
  refine ⟨⟨beyond.waiting, fun index own => ?_, beyond.held, beyond.bodies⟩,
    free.grown (grown_setAccumulator _ _ _), ?_, ?_, ⟨promise.stored, promise.held, promise.waits⟩,
    fun channel own => ?_⟩
  · change ∀ handler, ((machine.setAccumulator site.accumulator accumulator).world.accumulator
      index).stage = _ → _
    rw [accumulator_setAccumulator, if_neg own]
    exact beyond.parked index own
  · rw [accepted_note]
    have same : (machine.setAccumulator site.accumulator accumulator).accepted site.accumulator =
        machine.accepted site.accumulator := rfl
    simp [Entry.accumulator?, same, accepted]
  · change Pipe.Fits _ _ _ ((machine.setAccumulator site.accumulator accumulator).world.accumulator _)
    rw [accumulator_setAccumulator, if_pos rfl]
    exact fits
  · obtain ⟨opened, senders, heard, unheard⟩ := conveys channel own
    have polls : ((machine.setAccumulator site.accumulator accumulator).note
        (.accepted site.accumulator bytes)).polls channel = machine.polls channel := by
      simp [Machine.polls, Machine.note, Entry.poll?, Machine.setAccumulator, withWorld]
    refine ⟨opened, senders, ?_, ?_⟩
    · rw [yields, polls]
      exact heard
    · rw [yields, polls]
      exact unheard

theorem setPromise (carries : site.Carries link current machine) {promise : Promise}
    {outcome : Option Outcome} {shares : Nat} {linked : Bool}
    (concludes : site.Concludes link { current with outcome, shares, linked } promise) :
    site.Carries link { current with outcome, shares, linked }
      (machine.setPromise site.promise promise) := by
  obtain ⟨beyond, free, accepted, pipe, -, conveys⟩ := carries
  refine ⟨⟨fun index own => ?_, beyond.parked, beyond.held, beyond.bodies⟩,
    free.grown (grown_setPromise _ _ _), accepted, pipe, ?_, fun channel own => ?_⟩
  · rw [promise_setPromise, if_neg own]
    exact beyond.waiting index own
  · rw [promise_setPromise, if_pos rfl]
    exact concludes
  · obtain ⟨opened, senders, heard, unheard⟩ := conveys channel own
    exact ⟨opened, senders, heard, unheard⟩

theorem setBody (carries : site.Carries link current machine)
    (made : site.body < machine.world.bodies.size) (body : Body) :
    site.Carries link current (machine.setBody site.body body) := by
  have size : (machine.setBody site.body body).world.bodies.size = machine.world.bodies.size := by
    simp only [Machine.setBody, withWorld, World.setBody, Store.size_set]
    omega
  obtain ⟨beyond, free, accepted, pipe, promise, conveys⟩ := carries
  refine ⟨⟨beyond.waiting, beyond.parked, beyond.held, fun index own => ?_⟩,
    ⟨free.promises, free.accumulators, fun index late => free.bodies index (size ▸ late),
      free.channels⟩, accepted, pipe, promise, conveys⟩
  rw [body_setBody, if_neg own.1]
  exact beyond.bodies index ⟨own.1, size ▸ own.2⟩

/-- The channel changes, or its reader looks into it. -/
theorem convey {channel : Nat} (carries : site.Carries (some channel) current machine)
    {row : Channel} {sent : List (Except Error Bytes)} {opened : Bool} {senders : Nat}
    (world : after.world = (machine.setChannel channel row).world)
    (taken : after.accepted site.accumulator = machine.accepted site.accumulator)
    (conveys : ({ current with sent, opened, senders } : Current).Conveys row
      (after.yields channel)) :
    site.Carries (some channel) { current with sent, opened, senders } after := by
  obtain ⟨beyond, free, accepted, pipe, promise, -⟩ := carries
  have grown : machine.world.Grown (machine.setChannel channel row).world := by
    refine ⟨Nat.le_refl _, Nat.le_refl _, Nat.le_refl _, ?_, fun _ _ => rfl⟩
    simp only [Machine.setChannel, withWorld, World.setChannel, Store.size_set]
    omega
  refine ⟨?_, ?_, taken.trans accepted, ?_, ?_, fun index own => ?_⟩
  · rw [world]
    exact ⟨beyond.waiting, beyond.parked, beyond.held, beyond.bodies⟩
  · rw [world]
    exact free.grown grown
  · rw [world]
    exact pipe
  · rw [world]
    exact ⟨promise.stored, promise.held, promise.waits⟩
  · obtain rfl := Option.some.inj own
    rw [world, channel_setChannel, if_pos rfl]
    exact conveys

theorem setChannel {channel : Nat} (carries : site.Carries (some channel) current machine)
    {row : Channel} {sent : List (Except Error Bytes)} {opened : Bool} {senders : Nat}
    (conveys : ({ current with sent, opened, senders } : Current).Conveys row
      (machine.yields channel)) :
    site.Carries (some channel) { current with sent, opened, senders }
      (machine.setChannel channel row) :=
  carries.convey rfl rfl conveys

theorem shut (carries : site.Carries link current machine) {ending : Ending}
    (rests : current.Rests link (some ending)) :
    (machine.world.accumulator site.accumulator).closed = true := by
  have fits := carries.pipe
  cases link with
  | none =>
      have pipe : current.pipe = .idle (some ending) := rests
      rw [pipe] at fits
      exact fits.2.2.1
  | some channel =>
      rw [rests.1] at fits
      exact fits.2

theorem closed (carries : site.Carries link current machine) (calm : current.Calm link)
    {outcome : Outcome} (settled : current.outcome = some outcome) :
    (machine.world.accumulator site.accumulator).closed = true := by
  rcases calm.settled outcome settled with rests | ⟨-, told⟩
  · exact carries.shut rests
  · have fits := carries.pipe
    rw [told.pipe] at fits
    exact fits.2

theorem unclosed (carries : site.Carries link current machine) (rests : current.Rests link none) :
    (machine.world.accumulator site.accumulator).closed = false := by
  have fits := carries.pipe
  cases link with
  | none =>
      have pipe : current.pipe = .idle none := rests
      rw [pipe] at fits
      exact fits.2.2.1
  | some channel =>
      rw [rests.1] at fits
      exact fits.2.2.1

end Carries

end Site

end Handoff
