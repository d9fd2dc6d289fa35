import Handoff.Proofs.Sessions.Grants

namespace Handoff

/-! A chunk handler that panics.

The panic meets the call of the handler wherever the drain was and whatever nested
calls had put behind it.  What it leaves is a stream that is over: nothing is queued,
nobody has a handler to call, and whoever comes later is refused.  A refusal cannot
change that, so it stays so for the rest of the run. -/

namespace Machine

variable {machine : Machine} {index : Nat} {base : List Frame} {handler : ChunkHandler}
  {frame : Frame} {message : String}

/-- An accumulator that lost its handler to a panic, and what it has for an answer. -/
structure Defunct (machine : Machine) (index : Nat) : Prop where
  attached : (machine.world.accumulator index).isAttached = true
  closed : (machine.world.accumulator index).closed = true
  chunks : (machine.world.accumulator index).bufferedChunks = 0
  bytes : (machine.world.accumulator index).queuedBytes = 0
  /-- Nobody is calling the handler, and the accumulator has none to be called. -/
  idle : machine.handlerCalls index = []
  gone : (machine.world.accumulator index).stage = .released
  deliver (bytes : Bytes) :
    (machine.turn (.deliver index bytes)).tick = machine.reply (.refused .streamClosed)
  finish (ending : Ending) :
    (machine.turn (.finish index ending)).tick = machine.reply (.refused .streamClosed)
  /-- A second handler is let go before the refusal is replied. -/
  attach (handler : ChunkHandler) : (machine.turn (.attach index handler)).tick =
    (machine.push (.replying (.refused .alreadyAttached))).turn (.discard handler)
  refused (allow : Machine → Move → Prop) (handler : ChunkHandler) :
    Replies allow machine.stack (· = .refused .alreadyAttached)
      (machine.turn (.attach index handler))
  returned (number : Nat) :
    (machine.turn (.attach index (.client number))).run [.tick, .tick, .tick] =
      (machine.note (.dropped number)).reply (.refused .alreadyAttached)

theorem attach_attached (attached : (machine.world.accumulator index).isAttached = true)
    (handler : ChunkHandler) : machine.attach index handler =
      (machine.push (.replying (.refused .alreadyAttached))).turn (.discard handler) := by
  simp [Machine.attach, attached]

theorem defunct_of_released (gone : (machine.world.accumulator index).stage = .released)
    (closed : (machine.world.accumulator index).closed = true)
    (empty : (machine.world.accumulator index).queue = [])
    (bytes : (machine.world.accumulator index).queuedBytes = 0)
    (idle : machine.handlerCalls index = []) : machine.Defunct index := by
  have attached : (machine.world.accumulator index).isAttached = true := by
    simp [Accumulator.isAttached, gone]
  have pushed (handler : ChunkHandler) := @attach_attached (machine.turn (.attach index handler))
    index attached handler
  refine ⟨attached, closed, ?_, bytes, idle, gone, ?_, ?_, pushed, ?_, ?_⟩
  · simp [Accumulator.bufferedChunks, Accumulator.queued, empty]
  · intro bytes
    exact @deliver_refused (machine.turn (.deliver index bytes)) _ _ _ (refusal?_closed closed bytes)
  · intro ending
    exact @finish_closed (machine.turn (.finish index ending)) _ closed ending
  · intro allow handler
    apply Replies.task
    rw [perform, pushed handler]
    exact replies_replying (rises_pushed rfl) rfl
  · intro number
    change (((machine.turn (.attach index (.client number))).attach index
      (.client number)).tick).tick = _
    rw [pushed]
    rfl

/-- What a panic makes of a call of a handler. -/
theorem tick_collapse (calling : machine.stack = frame :: base)
    (own : frame = .fed index handler ∨ frame = .fedEnd index handler)
    (panicking : machine.control = .panic message) :
    machine.tick = ((({ machine with stack := base }).collapse index).push
      (.rethrowing message)).turn (.discard handler) := by
  obtain ⟨world, stack, control, journal⟩ := machine
  obtain rfl : stack = frame :: base := calling
  obtain rfl : control = .panic message := panicking
  rcases own with rfl | rfl <;> rfl

theorem strand_collapse (machine : Machine) (index : Nat) (handler : ChunkHandler)
    (message : String) :
    ((((machine.collapse index).push (.rethrowing message)).turn (.discard handler)).strand index) =
      (((machine.strand index).become (machine.world.accumulator index).collapse).note
        (.collapsed index)).look .away := by
  simp [collapse]

/-- The panic is the last thing in the past of the stream, and nothing is left of
the stream. -/
theorem defunct_run (reached : machine.Reached) (calling : machine.stack = frame :: base)
    (own : frame = .fed index handler ∨ frame = .fedEnd index handler)
    (panicking : machine.control = .panic message) (later : List Move) :
    (machine.tick.run later).Defunct index ∧
      (machine.tick.run later).streamPast index =
        machine.streamPast index ++ [.collapsed index] := by
  have broken : machine.tick.Reached := reached.run [.tick]
  have strand := strand_collapse { machine with stack := base } index handler message
  rw [← tick_collapse calling own panicking] at strand
  have row : machine.tick.world.accumulator index =
      (machine.world.accumulator index).collapse := congrArg Strand.accumulator strand
  have past : machine.tick.streamPast index = machine.streamPast index ++ [.collapsed index] :=
    congrArg Strand.past strand
  have gone : (machine.tick.world.accumulator index).stage = .released := by
    rw [row]
    rfl
  obtain ⟨kept, same, idle⟩ :=
    still_of_released (broken.handled index) (broken.marked index) gone later
  rw [← kept] at row
  refine ⟨defunct_of_released ?_ ?_ ?_ ?_ idle, same.trans past⟩
  all_goals
    rw [row]
    rfl

/-- A panic that let a handler go goes on. -/
theorem ends_collapse {allow : Machine → Move → Prop} (calling : machine.stack = frame :: base)
    (own : frame = .fed index handler ∨ frame = .fedEnd index handler)
    (panicking : machine.control = .panic message) :
    Ends allow base (fun after => ∃ message, after.control = .panic message) machine := by
  apply ends_tick
  · intro ceased
    have longer := congrArg List.length (calling.symm.trans ceased.1)
    simp at longer
  · intro sight idle
    cases panicking.symm.trans idle
  · rw [tick_collapse calling own panicking]
    exact ends_rethrowing (rises_pushed rfl)

/-- When a call of its handler panics, a stream is over for good.  The chunks that
were handed over until then, the one of the call included, are the first of those
that were accepted.  The handler is let go, a client's before the panic goes on
through the call that was draining, which cannot stop it.  Whatever happens then, the
handler is not called again, nothing is queued, and the stream refuses chunks, endings
and handlers. -/
theorem broken_for_good (reached : machine.Reached) (calling : machine.stack = frame :: base)
    (own : frame = .fed index handler ∨ frame = .fedEnd index handler)
    (panicking : machine.control = .panic message) :
    (machine.handed index <+: machine.accepted index ∧
      (machine.handed index).length =
        (machine.answers index).length + (machine.handlerCalls index).count .chunk) ∧
    (∀ later : List Move, (machine.tick.run later).Defunct index ∧
      (machine.tick.run later).streamPast index =
        machine.streamPast index ++ [.collapsed index] ∧
      (machine.tick.run later).handed index = machine.handed index ∧
      (machine.tick.run later).accepted index = machine.accepted index) ∧
    (∀ allow, Ends allow base (fun after => ∃ message, after.control = .panic message) machine) ∧
    ∀ number, handler = .client number → ∃ journal,
      machine.run [.tick, .tick, .tick] =
        ⟨(machine.collapse index).world, base, .panic message, .dropped number :: journal⟩ := by
  have handled := reached.handled index
  have running : (machine.strand index).calls ≠ [] := by
    change machine.stack.filterMap _ ≠ []
    rw [calling]
    rcases own with rfl | rfl <;> simp
  have whole : History.collapses (machine.streamPast index) = 0 := by
    apply (reached.marked index).whole
    intro released
    cases (handled.calling running).1.symm.trans released
  refine ⟨⟨?_, ((reached.told index).answered whole).symm⟩, ?_, ?_, ?_⟩
  · obtain ⟨lost, parts, -⟩ := reached.accounted index
    exact ⟨_, (parts.trans (List.append_assoc ..)).symm⟩
  · intro later
    obtain ⟨defunct, past⟩ := defunct_run reached calling own panicking later
    refine ⟨defunct, past, ?_, ?_⟩
    · simp [handed, past]
    · simp [accepted, past]
  · exact fun allow => ends_collapse calling own panicking
  · rintro number rfl
    refine ⟨(machine.collapse index).journal, ?_⟩
    rw [run_cons, act, tick_collapse calling own panicking]
    rfl

/-- A handler queues a chunk and the end behind the chunk it was called with, and then
panics. -/
def nestedPanic : List Move :=
  [.call (.newAccumulator none), .tick, .call (.newHandler (.client 7)), .tick,
    .call (.attach 0 0), .tick, .tick, .tick, .tick, .tick, .tick,
    .call (.deliver 0 [1]), .tick, .tick, .tick, .tick,
    .call (.deliver 0 [2]), .tick, .tick, .tick, .tick,
    .call (.finish 0 .finished), .tick, .tick, .tick, .tick, .panic "boom"]

theorem broken_for_good_nested :
    let machine := initial.run nestedPanic
    machine.handed 0 = [[1]] ∧ machine.accepted 0 = [[1], [2]] ∧
      machine.handed 0 <+: machine.accepted 0 ∧
      (machine.tick.run [.tick, .tick, .tick, .tick, .call (.deliver 0 [3]), .tick]).Defunct 0 ∧
      (machine.tick.run [.tick, .tick, .tick, .tick]).handed 0 = [[1]] := by
  have law := @broken_for_good (initial.run nestedPanic) 0 [.replying .ok] (.client 7)
    (.fed 0 (.client 7)) "boom" ⟨nestedPanic, rfl⟩ rfl (.inl rfl) rfl
  obtain ⟨⟨first, -⟩, later, -, -⟩ := law
  exact ⟨by decide, by decide, first, (later _).1, (later _).2.2.1.trans (by decide)⟩

end Machine

end Handoff
