import Handoff.Proofs.Streams.Order

namespace Handoff

/-! The end of a stream.

The last answer of the handler decides whether it is told of the end, and the
terminal marker is read with that answer.  A handler that was let go leaves an
accumulator that no move changes any more. -/

namespace Strand

variable {index : Nat} {strand after : Strand}

structure Told (strand : Strand) : Prop where
  answered : History.collapses strand.past = 0 →
    (History.answers strand.past).length + strand.calls.count .chunk =
      (History.handed strand.past).length
  wanting : strand.accumulator.wantsEnd = (History.answers strand.past).getLast?.getD true
  few : History.ends strand.past ≤ 1 ∧ History.releases strand.past ≤ 1
  early : ¬ strand.ceased → History.ends strand.past = 0 ∧ History.releases strand.past = 0
  telling : .ending ∈ strand.calls →
    History.ends strand.past = 1 ∧ History.releases strand.past = 0 ∧
      History.closings strand.past = [.finished] ∧ strand.accumulator.wantsEnd = true
  gone : strand.accumulator.stage = .released → History.collapses strand.past = 0 →
    History.releases strand.past = 1 ∧
      (History.ends strand.past = 1 ↔
        History.closings strand.past = [.finished] ∧ strand.accumulator.wantsEnd = true)

theorem Told.step (step : Step index strand after) (handled : strand.Handled)
    (marked : strand.Marked) (told : strand.Told) : after.Told := by
  obtain ⟨answered, wanting, few, early, telling, gone⟩ := told
  cases step with
  | still made => exact ⟨answered, wanting, few, early, telling, gone⟩
  | pass draining absent => exact ⟨answered, wanting, few, early, telling, gone⟩
  | make ceiling fresh =>
      obtain ⟨blank, empty, idle⟩ := handled.unmade fresh
      constructor <;> simp [ceased, become, Accumulator.new, empty, idle, History.closings,
        History.ends, History.releases, History.answers, History.handed]
  | accept bytes away fits =>
      exact ⟨by simpa [look, note, become] using answered,
        by simpa [look, note, become, Accumulator.enqueue] using wanting,
        by simpa [look, note, become] using few,
        by simpa [look, note, become, ceased, Accumulator.enqueue] using early,
        by simpa [look, note, become, Accumulator.enqueue] using telling,
        by simpa [look, note, become, Accumulator.enqueue] using gone⟩
  | close ending away isOpen =>
      obtain ⟨unread, -, -⟩ := marked.opened isOpen
      exact ⟨by simpa [look, note, become] using answered,
        by simpa [look, note, become, Accumulator.close] using wanting,
        by simpa [look, note, become] using few,
        by simpa [look, note, become, ceased, Accumulator.close] using early,
        fun calling => absurd (.inr calling) unread, fun released => absurd (.inl released) unread⟩
  | attach handler away first =>
      have unattached := Accumulator.unattached_of_not_attached first
      have unread : ¬ strand.ceased := by simp [ceased, unattached, handled.idle]
      exact ⟨answered, wanting, few, fun _ => early unread, telling,
        by simp [look, become, Accumulator.park]⟩
  | take handler draining parked =>
      have unread : ¬ strand.ceased := by simp [ceased, parked, handled.idle]
      exact ⟨answered, wanting, few, fun _ => early unread, telling,
        by simp [look, become]⟩
  | park handler turning dry =>
      obtain ⟨drains, none⟩ := handled.turning turning
      have unread := not_ceased_of_turning drains none
      exact ⟨answered, wanting, few, fun _ => early unread, telling,
        by simp [look, become, Accumulator.park]⟩
  | hand bytes rest turning first =>
      obtain ⟨drains, none⟩ := handled.turning turning
      have unread := not_ceased_of_turning drains none
      refine ⟨fun whole => ?_,
        by simpa [look, note, enter, become, Accumulator.dequeue] using wanting,
        by simpa [look, note, enter, become] using few,
        fun _ => by simpa [look, note, enter, become] using early unread,
        fun calling => ?_, fun released => ?_⟩
      · have same := answered (by simpa [look, note, enter, become] using whole)
        simp only [look, note, enter, become, History.answers_append, History.handed_append,
          List.count_cons_self, List.length_append]
        simp only [Entry.answered?, Entry.handed?, Option.toList, List.length_nil, List.length_cons]
        omega
      · simp [look, note, enter, become, none] at calling
      · cases drains.symm.trans released
  | answer wantsEnd calls away running =>
      obtain ⟨drains, none⟩ := handled.last running
      have unread : ¬ strand.ceased := by simp [ceased, drains, running, none]
      refine ⟨fun whole => ?_, by simp [look, note, leave, become],
        by simpa [look, note, leave, become] using few,
        fun _ => by simpa [look, note, leave, become] using early unread,
        fun calling => ?_, fun released => ?_⟩
      · have same := answered (by simpa [look, note, leave, become] using whole)
        rw [running, List.count_cons_self] at same
        simp only [look, note, leave, become, History.answers_append, History.handed_append,
          List.length_append]
        simp only [Entry.answered?, Entry.handed?, Option.toList, List.length_nil, List.length_cons]
        omega
      · simp [look, note, leave, become, none] at calling
      · cases drains.symm.trans released
  | tell rest turning first wanted =>
      obtain ⟨drains, none⟩ := handled.turning turning
      obtain ⟨closing, -⟩ := marked.alone first
      obtain ⟨untold, held⟩ := early (not_ceased_of_turning drains none)
      refine ⟨by simpa [look, note, enter, become] using answered,
        by simpa [look, note, enter, become] using wanting,
        by simp [look, note, enter, become, untold, held],
        fun unread => absurd (.inr (List.mem_cons_self ..)) unread,
        fun _ => by simp [look, note, enter, become, untold, held, closing, wanted],
        fun released => ?_⟩
      cases drains.symm.trans released
  | release ending rest turning first unwanted =>
      obtain ⟨drains, none⟩ := handled.turning turning
      obtain ⟨closing, -⟩ := marked.alone first
      obtain ⟨untold, held⟩ := early (not_ceased_of_turning drains none)
      refine ⟨by simpa [look, note, become] using answered,
        by simpa [look, note, become, Accumulator.release] using wanting,
        by simp [look, note, become, untold, held], fun unread => absurd (.inl rfl) unread,
        fun calling => ?_, fun _ _ => ?_⟩
      · simp [look, note, become, none] at calling
      · simpa [look, note, become, Accumulator.release, untold, held, closing] using unwanted
  | dismiss calls away running =>
      obtain ⟨drains, none⟩ := handled.last running
      obtain ⟨told, held, closing, wanted⟩ := telling (by simp [running])
      have uncounted : strand.calls.count .chunk = calls.count .chunk := by simp [running]
      refine ⟨by simpa [look, note, leave, become, uncounted] using answered,
        by simpa [look, note, leave, become, Accumulator.release] using wanting,
        by simp [look, note, leave, become, told, held], fun unread => absurd (.inl rfl) unread,
        fun calling => ?_, fun _ _ => ?_⟩
      · simp [look, note, leave, become, none] at calling
      · simp [look, note, leave, become, Accumulator.release, told, held, closing, wanted]
  | collapse call calls away running =>
      obtain ⟨drains, none⟩ := handled.last running
      refine ⟨fun whole => ?_,
        by simpa [look, note, leave, become, Accumulator.collapse, Accumulator.release] using wanting,
        by simpa [look, note, leave, become] using few, fun unread => absurd (.inl rfl) unread,
        fun calling => ?_, fun _ whole => ?_⟩
      · simp [look, note, leave, become] at whole
      · simp [look, note, leave, become, none] at calling
      · simp [look, note, leave, become] at whole

theorem Told.blank : Strand.blank.Told := by
  constructor <;> simp [Strand.blank, Accumulator.new, ceased, History.answers, History.handed,
    History.ends, History.releases]

theorem Told.ceased_of_ended (told : strand.Told) (ended : History.ends strand.past = 1) :
    strand.ceased := by
  by_cases ceased : strand.ceased
  · exact ceased
  · have none := (told.early ceased).1
    omega

/-- Nobody is at work, so the marker is read as soon as there is a handler. -/
theorem Marked.ceased_at_rest (marked : strand.Marked) (handled : strand.Handled)
    (whole : History.collapses strand.past = 0) (away : strand.attention = .away)
    (idle : strand.calls = []) :
    if strand.accumulator.isAttached = true ∧ History.closings strand.past ≠ [] then
      strand.accumulator.stage = .released
    else ¬ strand.ceased := by
  have active : strand.accumulator.stage ≠ .draining := by
    intro taken
    simpa [away, idle] using handled.taken taken
  split
  case isTrue ready =>
      cases stage : strand.accumulator.stage with
      | released => rfl
      | draining => exact absurd stage active
      | unattached => simp [Accumulator.isAttached, stage] at ready
      | parked handler =>
          -- A parked handler means a dry queue, and a dry queue holds no marker.
          have dry : strand.accumulator.queue = [] := by simpa [away] using handled.dry handler stage
          obtain ⟨chunks, shape⟩ := marked.shape (by simp [ceased, stage, idle])
          simp [dry] at shape
          exact absurd shape.2 ready.2
  case isFalse unready =>
      rintro (released | calling)
      · have closed := (marked.spent (.inl released)).2
        refine unready ⟨by simp [Accumulator.isAttached, released], ?_⟩
        simpa [whole] using marked.marked.mp closed
      · simp [idle] at calling

theorem Told.at_rest (told : strand.Told) (handled : strand.Handled) (marked : strand.Marked)
    (whole : History.collapses strand.past = 0) (away : strand.attention = .away)
    (idle : strand.calls = []) :
    (History.answers strand.past).length = (History.handed strand.past).length ∧
      (History.ends strand.past = 1 ↔ strand.accumulator.isAttached = true ∧
        (History.closings strand.past).head? = some .finished ∧
          (History.answers strand.past).getLast? ≠ some false) ∧
      (History.releases strand.past = 1 ↔ strand.accumulator.isAttached = true ∧
        History.closings strand.past ≠ []) := by
  have rest := marked.ceased_at_rest handled whole away idle
  have answered : (History.answers strand.past).length = (History.handed strand.past).length := by
    simpa [idle] using told.answered whole
  have first : History.closings strand.past = [.finished] ↔
      (History.closings strand.past).head? = some .finished := by
    have lone := marked.lone
    match History.closings strand.past, lone with
    | [], _ => simp
    | [closing], _ => simp
  have wanted : strand.accumulator.wantsEnd = true ↔
      (History.answers strand.past).getLast? ≠ some false := by
    rw [told.wanting]
    rcases (History.answers strand.past).getLast? with _ | _ | _ <;> simp
  refine ⟨answered, ?_⟩
  split at rest
  case isTrue ready =>
      obtain ⟨released, ended⟩ := told.gone rest whole
      rw [ended, first, wanted]
      exact ⟨by simp [ready.1], by simp [ready, released]⟩
  case isFalse unready =>
      obtain ⟨ends, releases⟩ := told.early rest
      have unfinished : ¬ (strand.accumulator.isAttached = true ∧
          (History.closings strand.past).head? = some .finished) := by
        rintro ⟨attached, finished⟩
        exact unready ⟨attached, by simp [first.mpr finished]⟩
      exact ⟨by simpa [ends] using fun attached finished => (unfinished ⟨attached, finished⟩).elim,
        by simpa [releases] using unready⟩

theorem Accounted.of_ended (accounted : strand.Accounted) (told : strand.Told)
    (marked : strand.Marked) (whole : History.collapses strand.past = 0)
    (ended : History.ends strand.past = 1) :
    History.handed strand.past = History.accepted strand.past := by
  obtain ⟨lost, parts, kept⟩ := accounted
  have dry := (marked.spent (told.ceased_of_ended ended)).1
  rw [parts, kept whole]
  simp [Accumulator.queued, dry]

theorem Told.released (told : strand.Told) (released : History.releases strand.past = 1) :
    strand.accumulator.stage = .released := by
  by_cases ceased : strand.ceased
  · obtain gone | calling := ceased
    · exact gone
    · simp [(told.telling calling).2.1] at released
  · simp [(told.early ceased).2] at released

/-- A handler that was let go leaves nothing that a step could change. -/
theorem Step.frozen (step : Step index strand after) (handled : strand.Handled)
    (marked : strand.Marked) (gone : strand.accumulator.stage = .released) :
    after.accumulator = strand.accumulator ∧ after.past = strand.past ∧ after.calls = [] := by
  have idle : strand.calls = [] := by
    cases running : strand.calls with
    | nil => rfl
    | cons call calls => simpa [gone] using handled.last running
  have still : strand.attention ≠ .turning := by
    intro turning
    simpa [gone] using handled.turning turning
  have closed := (marked.spent (.inl gone)).2
  cases step with
  | still made => exact ⟨rfl, rfl, idle⟩
  | pass draining absent => exact ⟨rfl, rfl, idle⟩
  | make ceiling fresh =>
      obtain ⟨blank, -⟩ := handled.unmade fresh
      simp [blank, Accumulator.new] at gone
  | accept bytes idle fits => simp [Accumulator.refusal?, closed] at fits
  | attach handler idle first => simp [Accumulator.isAttached, gone] at first
  | close ending idle opened => simp [closed] at opened
  | take handler draining parked => simp [gone] at parked
  | park handler turning dry => exact absurd turning still
  | hand bytes rest turning first => exact absurd turning still
  | tell rest turning first wanted => exact absurd turning still
  | release ending rest turning first unwanted => exact absurd turning still
  | answer wantsEnd calls away running => simp [idle] at running
  | dismiss calls away running => simp [idle] at running
  | collapse call calls away running => simp [idle] at running

/-- Letting the handler go clears a queue that holds no chunk. -/
theorem Step.clears_nothing (step : Step index strand after) (marked : strand.Marked)
    (released : History.releases after.past ≠ History.releases strand.past) :
    strand.accumulator.queue.length ≤ 1 ∧ strand.accumulator.queued = [] := by
  cases step with
  | release ending rest turning first unwanted =>
      obtain ⟨-, nothing⟩ := marked.alone first
      simp [Accumulator.queued, first, nothing]
  | dismiss calls idle running =>
      obtain ⟨nothing, -⟩ := marked.spent (.inr (by simp [running]))
      simp [Accumulator.queued, nothing]
  | make ceiling fresh => simp [become] at released
  | still made => simp [grow] at released
  | pass draining absent => simp [look] at released
  | attach handler idle first => simp [look, become] at released
  | take handler draining parked => simp [look, become] at released
  | park handler turning dry => simp [look, become] at released
  | _ => simp [look, note, become, enter, leave] at released

end Strand

namespace Machine

theorem strand_told (index : Nat) (moves : List Move) :
    ((initial.run moves).strand index).Told := by
  have kept (before after) (step : Strand.Step index before after)
      (law : before.Handled ∧ before.Marked ∧ before.Told) :
      after.Handled ∧ after.Marked ∧ after.Told :=
    ⟨law.1.step step, law.2.1.step step law.1, law.2.2.step step law.1 law.2.1⟩
  exact (strand_run kept ⟨.blank, .blank, .blank⟩ moves).2.2

/-- Nothing happens any more to an accumulator whose handler was let go. -/
theorem still_of_released {machine : Machine} {index : Nat}
    (handled : (machine.strand index).Handled) (marked : (machine.strand index).Marked)
    (gone : (machine.world.accumulator index).stage = .released) (later : List Move) :
    (machine.run later).world.accumulator index = machine.world.accumulator index ∧
      (machine.run later).streamPast index = machine.streamPast index ∧
      (machine.run later).handlerCalls index = [] := by
  have frozen := @run_induction
    (fun after => (after.strand index).Handled ∧ (after.strand index).Marked ∧
      after.world.accumulator index = machine.world.accumulator index ∧
      after.streamPast index = machine.streamPast index ∧ after.handlerCalls index = []) machine
    (by
      rintro before after moved ⟨handled, marked, row, same, idle⟩
      have step := Strand.step_of_moved moved index
      have gone : (before.strand index).accumulator.stage = .released := by
        rw [strand_accumulator, row]
        exact gone
      obtain ⟨kept, past, calls⟩ := step.frozen handled marked gone
      exact ⟨handled.step step, marked.step step handled, kept.trans row, past.trans same, calls⟩)
    ⟨handled, marked, rfl, rfl, by
      cases running : machine.handlerCalls index with
      | nil => rfl
      | cons call calls =>
          have taken := handled.last running
          simp [gone] at taken⟩ later
  exact frozen.2.2

theorem streamPast_of_released {machine : Machine} {index : Nat}
    (handled : (machine.strand index).Handled) (marked : (machine.strand index).Marked)
    (gone : (machine.world.accumulator index).stage = .released) (later : List Move) :
    (machine.run later).streamPast index = machine.streamPast index ∧
      (machine.run later).handlerCalls index = [] ∧
      ((machine.run later).world.accumulator index).stage = .released := by
  obtain ⟨row, past, idle⟩ := still_of_released handled marked gone later
  exact ⟨past, idle, row ▸ gone⟩

/-- The law of the end of a stream, for every run in which no call of the handler
panicked.  The handler is told at most once, after everything accepted was handed
over; whether it was told is known whenever nobody is at work; it is let go once
and never called again; and letting it go clears a queue without chunks, since
the terminal marker is the only one and stands last. -/
theorem end_of_stream (moves : List Move) (index : Nat) {machine : Machine}
    (reached : initial.run moves = machine) (whole : machine.collapses index = 0) :
    (machine.ends index ≤ 1 ∧
      (machine.ends index = 1 → machine.handed index = machine.accepted index)) ∧
    (machine.resting index →
      (machine.answers index).length = (machine.handed index).length ∧
      (machine.ends index = 1 ↔
        (machine.world.accumulator index).isAttached = true ∧
          (machine.closings index).head? = some .finished ∧
          (machine.answers index).getLast? ≠ some false) ∧
      (machine.releases index = 1 ↔
        (machine.world.accumulator index).isAttached = true ∧ machine.closings index ≠ [])) ∧
    (machine.releases index ≤ 1 ∧
      (machine.releases index = 1 → ∀ later : List Move,
        (machine.run later).streamPast index = machine.streamPast index ∧
          (machine.run later).handlerCalls index = [])) ∧
    ((machine.closings index).length ≤ 1 ∧
      ∃ chunks : List Bytes, (machine.world.accumulator index).queue = chunks.map .chunk ∨
        (machine.world.accumulator index).queue =
          chunks.map .chunk ++ (machine.closings index).map .ending) ∧
    ∀ move, (machine.act move).releases index ≠ machine.releases index →
      (machine.world.accumulator index).queue.length ≤ 1 ∧
        (machine.world.accumulator index).queued = [] := by
  subst reached
  obtain ⟨handled, marked⟩ := strand_custody index moves
  have told := strand_told index moves
  have accounted := strand_accounted index moves
  refine ⟨⟨told.few.1, accounted.of_ended told marked whole⟩,
    fun resting => told.at_rest handled marked whole resting.1 resting.2,
    ⟨told.few.2, fun released later => ?_⟩, ⟨marked.lone, ?_⟩, fun move released => ?_⟩
  · obtain ⟨same, idle, -⟩ :=
      streamPast_of_released handled marked (told.released released) later
    exact ⟨same, idle⟩
  · by_cases ceased : ((initial.run moves).strand index).ceased
    · exact ⟨[], .inl (marked.spent ceased).1⟩
    · obtain ⟨chunks, shape⟩ := marked.shape ceased
      exact ⟨chunks, .inr shape⟩
  · exact (Strand.step_of_moved (moved_act _ move) index).clears_nothing marked released

/-- The stream is closed from within the first chunk call, whose answer is still
to come. -/
def nestedClosing : List Move :=
  [.call (.newAccumulator none), .tick, .call (.newHandler (.client 7)), .tick,
    .call (.attach 0 0), .tick, .tick, .tick, .tick, .tick, .tick,
    .call (.deliver 0 [1]), .tick, .tick, .tick, .tick,
    .call (.finish 0 .finished), .tick, .tick, .tick, .tick,
    .answer (.flag true), .tick, .tick, .tick, .answer .done, .tick, .tick, .tick, .tick, .tick,
    .tick]

theorem end_of_stream_nested :
    (initial.run nestedClosing).collapses 0 = 0 ∧
      (initial.run nestedClosing).ends 0 = 1 ∧ (initial.run nestedClosing).handed 0 = [[1]] := by
  have law := end_of_stream nestedClosing 0 rfl (by decide)
  have ended : (initial.run nestedClosing).ends 0 = 1 :=
    (law.2.1 ⟨by decide, by decide⟩).2.1.mpr (by decide)
  exact ⟨by decide, ended, (law.1.2 ended).trans (by decide)⟩

end Machine

end Handoff
