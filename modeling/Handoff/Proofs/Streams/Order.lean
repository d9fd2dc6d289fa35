import Handoff.Proofs.Streams.Custody

namespace Handoff

/-! Chunks are handed over in order, each once.

Every accepted chunk was handed over, is queued, or was lost to a panic of the
handler, and these come in the order of acceptance. -/

namespace Accumulator

variable (accumulator : Accumulator)

theorem queued_enqueue (bytes : Bytes) :
    (accumulator.enqueue bytes).queued = accumulator.queued ++ [bytes] := by
  simp [queued, enqueue]

theorem queued_close (ending : Ending) :
    (accumulator.close ending).queued = accumulator.queued := by
  simp [queued, close]

theorem queued_dequeue {accumulator : Accumulator} {bytes : Bytes} {rest : List Item}
    (first : accumulator.queue = .chunk bytes :: rest) :
    accumulator.queued = bytes :: (accumulator.dequeue bytes rest).queued := by
  simp [queued, dequeue, first]

end Accumulator

namespace Strand

variable {index : Nat} {strand after : Strand}

def Accounted (strand : Strand) : Prop :=
  ∃ lost, History.accepted strand.past =
      History.handed strand.past ++ strand.accumulator.queued ++ lost ∧
    (History.collapses strand.past = 0 → lost = [])

theorem Accounted.step (step : Step index strand after) (handled : strand.Handled)
    (marked : strand.Marked) (accounted : strand.Accounted) : after.Accounted := by
  obtain ⟨lost, parts, whole⟩ := accounted
  cases step with
  | still made => exact ⟨lost, parts, whole⟩
  | pass draining absent => exact ⟨lost, parts, whole⟩
  | attach handler idle first => exact ⟨lost, parts, whole⟩
  | take handler draining parked => exact ⟨lost, parts, whole⟩
  | park handler turning dry => exact ⟨lost, parts, whole⟩
  | make ceiling fresh =>
      obtain ⟨blank, empty, idle⟩ := handled.unmade fresh
      exact ⟨[], by simp [become, empty, History.accepted, History.handed, Accumulator.new,
        Accumulator.queued], fun _ => rfl⟩
  | accept bytes idle fits =>
      -- A handler that panicked left the stream closed, so nothing is lost yet.
      obtain ⟨early, unclosed, sound⟩ := marked.opened (Accumulator.closed_of_accepts fits)
      have nothing := whole sound
      subst nothing
      exact ⟨[], by simp [look, note, become, parts, Accumulator.queued_enqueue], fun _ => rfl⟩
  | close ending idle opened =>
      exact ⟨lost, by simp [look, note, become, parts, Accumulator.queued_close],
        by simpa [look, note, become] using whole⟩
  | hand bytes rest turning first =>
      rw [Accumulator.queued_dequeue first] at parts
      exact ⟨lost, by simp [look, note, become, enter, parts],
        by simpa [look, note, become, enter] using whole⟩
  | answer wantsEnd calls idle running =>
      exact ⟨lost, by simpa [look, note, become, leave, Accumulator.queued] using parts,
        by simpa [look, note, become, leave] using whole⟩
  | tell rest turning first wanted =>
      refine ⟨lost, ?_, by simpa [look, note, become, enter] using whole⟩
      simpa [look, note, become, enter, Accumulator.queued, first] using parts
  | release ending rest turning first unwanted =>
      -- The marker stands alone, so the queue holds no chunk that could be lost.
      obtain ⟨-, nothing⟩ := marked.alone first
      refine ⟨lost, ?_, by simpa [look, note, become] using whole⟩
      simpa [look, note, become, Accumulator.queued, Accumulator.release, first, nothing] using parts
  | dismiss calls idle running =>
      obtain ⟨nothing, -⟩ := marked.spent (.inr (by simp [running]))
      refine ⟨lost, ?_, by simpa [look, note, become, leave] using whole⟩
      simpa [look, note, become, leave, Accumulator.queued, Accumulator.release, nothing] using parts
  | collapse call calls idle running =>
      refine ⟨strand.accumulator.queued ++ lost, ?_, by simp [look, note, become, leave]⟩
      simp [look, note, become, leave, Accumulator.queued, Accumulator.collapse,
        Accumulator.release, parts]

theorem Accounted.blank : Strand.blank.Accounted :=
  ⟨[], rfl, fun _ => rfl⟩

end Strand

namespace Machine

theorem strand_accounted (index : Nat) (moves : List Move) :
    ((initial.run moves).strand index).Accounted := by
  have kept (before after) (step : Strand.Step index before after)
      (law : before.Handled ∧ before.Marked ∧ before.Accounted) :
      after.Handled ∧ after.Marked ∧ after.Accounted :=
    ⟨law.1.step step, law.2.1.step step law.1, law.2.2.step step law.1 law.2.1⟩
  exact (strand_run kept ⟨.blank, .blank, .blank⟩ moves).2.2

/-- Nobody is at work on an accumulator: no task of a drain is next, and no call
of its handler is under way. -/
def resting (machine : Machine) (index : Nat) : Prop :=
  machine.control.attention index = .away ∧ machine.handlerCalls index = []

theorem queue_of_resting {machine : Machine} {index : Nat}
    (handled : (machine.strand index).Handled) (marked : (machine.strand index).Marked)
    (resting : machine.resting index)
    (attached : (machine.world.accumulator index).isAttached = true) :
    (machine.world.accumulator index).queue = [] := by
  obtain ⟨away, idle⟩ := resting
  have away : (machine.strand index).attention = .away := away
  have idle : (machine.strand index).calls = [] := idle
  cases stage : (machine.world.accumulator index).stage with
  | unattached => simp [Accumulator.isAttached, stage] at attached
  | parked handler => simpa [away] using handled.dry handler stage
  | draining => simpa [away, idle] using handled.taken stage
  | released => exact (marked.spent (.inl stage)).1

/-- Chunks are handed over in the order they were accepted, each exactly once;
calls of the handler do not nest; and whenever nobody is at work on an
accumulator with a handler, everything accepted was handed over.  This holds at
every point of every run in which no call of the handler panicked. -/
theorem handed_append_queued (moves : List Move) (index : Nat)
    (whole : (initial.run moves).collapses index = 0) :
    (initial.run moves).handed index ++ ((initial.run moves).world.accumulator index).queued =
        (initial.run moves).accepted index ∧
      ((initial.run moves).handlerCalls index).length ≤ 1 ∧
      ((initial.run moves).resting index →
        ((initial.run moves).world.accumulator index).isAttached = true →
        ((initial.run moves).world.accumulator index).queue = [] ∧
          (initial.run moves).handed index = (initial.run moves).accepted index) := by
  obtain ⟨handled, marked⟩ := strand_custody index moves
  obtain ⟨lost, parts, kept⟩ := strand_accounted index moves
  have nothing := kept whole
  have order : (initial.run moves).handed index ++
      ((initial.run moves).world.accumulator index).queued = (initial.run moves).accepted index := by
    rw [nothing, List.append_nil] at parts
    exact parts.symm
  refine ⟨order, ?_, ?_⟩
  · by_cases idle : (initial.run moves).handlerCalls index = []
    · simp [idle]
    · exact Nat.le_of_eq (handled.calling idle).2
  · intro resting attached
    have dry := queue_of_resting handled marked resting attached
    refine ⟨dry, ?_⟩
    rw [← order]
    simp [Accumulator.queued, dry]

/-- A handler that is attached late delivers a third chunk from its first call. -/
def nestedDelivery : List Move :=
  [.call (.newAccumulator none), .tick, .call (.newHandler (.client 7)), .tick,
    .call (.deliver 0 [1]), .tick, .tick, .tick, .tick,
    .call (.deliver 0 [2]), .tick, .tick, .tick, .tick,
    .call (.attach 0 0), .tick, .tick, .tick, .tick,
    .call (.deliver 0 [3]), .tick, .tick, .tick, .tick,
    .answer (.flag true), .tick, .tick]

theorem handed_append_queued_nested :
    (initial.run nestedDelivery).collapses 0 = 0 ∧
      (initial.run nestedDelivery).handed 0 ++
        ((initial.run nestedDelivery).world.accumulator 0).queued = [[1], [2], [3]] :=
  ⟨by decide, (handed_append_queued nestedDelivery 0 (by decide)).1.trans (by decide)⟩

end Machine

end Handoff
