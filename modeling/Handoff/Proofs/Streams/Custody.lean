import Handoff.Proofs.Streams.Steps

namespace Handoff

/-! Who has the handler of an accumulator, and where its terminal marker is.

A handler that was taken is with one drain, which either looks at the queue or
waits for the one call it made.  While the drain has the handler every nested
call on the accumulator finds nothing parked, so the queue only changes behind
the drain's back by growing.  The terminal marker joins the queue once and
stays behind every chunk. -/

namespace Accumulator

variable {accumulator : Accumulator}

theorem closed_of_accepts {bytes : Bytes} (fits : accumulator.refusal? bytes = none) :
    accumulator.closed = false := by
  cases closed : accumulator.closed with
  | false => rfl
  | true => simp [refusal?, closed] at fits

theorem unattached_of_not_attached (first : accumulator.isAttached = false) :
    accumulator.stage = .unattached := by
  cases stage : accumulator.stage with
  | unattached => rfl
  | _ => simp [isAttached, stage] at first

end Accumulator

namespace Strand

variable {index : Nat} {strand after : Strand}

structure Handled (strand : Strand) : Prop where
  unmade : ¬ strand.made →
    strand.accumulator = Accumulator.new none ∧ strand.past = [] ∧ strand.calls = []
  turning : strand.attention = .turning →
    strand.accumulator.stage = .draining ∧ strand.calls = []
  calling : strand.calls ≠ [] →
    strand.accumulator.stage = .draining ∧ strand.calls.length = 1
  taken : strand.accumulator.stage = .draining →
    strand.attention = .turning ∨ strand.calls ≠ []
  dry : ∀ handler, strand.accumulator.stage = .parked handler →
    strand.attention = .draining ∨ strand.accumulator.queue = []

theorem Handled.last (handled : strand.Handled) {call : HandlerCall} {calls : List HandlerCall}
    (running : strand.calls = call :: calls) :
    strand.accumulator.stage = .draining ∧ calls = [] := by
  have one := handled.calling (by simp [running])
  simpa [running] using one

theorem Handled.attached (step : Step index strand after) (handled : strand.Handled)
    (attached : strand.accumulator.isAttached = true) : after.accumulator.isAttached = true := by
  cases step with
  | make ceiling fresh =>
      rw [(handled.unmade fresh).1] at attached
      simp [Accumulator.new, Accumulator.isAttached] at attached
  | attach handler idle first => simp [first] at attached
  | _ => first | exact attached | rfl

theorem Handled.idle (handled : strand.Handled) (away : strand.accumulator.stage ≠ .draining) :
    strand.calls = [] := by
  cases running : strand.calls with
  | nil => rfl
  | cons call calls => exact absurd (handled.last running).1 away

/-! Where the handler is, and what follows from it. -/

theorem Handled.resting (made : strand.made) (away : strand.attention = .away)
    (idle : strand.calls = []) (untaken : strand.accumulator.stage ≠ .draining)
    (dry : ∀ handler, strand.accumulator.stage = .parked handler →
      strand.accumulator.queue = []) : strand.Handled where
  unmade fresh := absurd made fresh
  turning turns := by simp [away] at turns
  calling busy := absurd idle busy
  taken drains := absurd drains untaken
  dry handler parked := .inr (dry handler parked)

theorem Handled.woken (made : strand.made) (draining : strand.attention = .draining)
    (calling : strand.calls ≠ [] → strand.accumulator.stage = .draining ∧ strand.calls.length = 1)
    (taken : strand.accumulator.stage = .draining → strand.calls ≠ []) : strand.Handled where
  unmade fresh := absurd made fresh
  turning turns := by simp [draining] at turns
  calling := calling
  taken drains := .inr (taken drains)
  dry _ _ := .inl draining

theorem Handled.running (made : strand.made) (turning : strand.attention = .turning)
    (drains : strand.accumulator.stage = .draining) (idle : strand.calls = []) :
    strand.Handled where
  unmade fresh := absurd made fresh
  turning _ := ⟨drains, idle⟩
  calling busy := absurd idle busy
  taken _ := .inl turning
  dry handler parked := by simp [drains] at parked

theorem Handled.waiting (made : strand.made) (away : strand.attention = .away)
    (drains : strand.accumulator.stage = .draining) {call : HandlerCall}
    (one : strand.calls = [call]) : strand.Handled where
  unmade fresh := absurd made fresh
  turning turns := by simp [away] at turns
  calling _ := ⟨drains, by simp [one]⟩
  taken _ := .inr (by simp [one])
  dry handler parked := by simp [drains] at parked

theorem Handled.step (step : Step index strand after) (handled : strand.Handled) :
    after.Handled := by
  have last := @handled.last
  have idle := handled.idle
  obtain ⟨unmade, turning, calling, taken, dry⟩ := handled
  cases step with
  | still made =>
      exact ⟨fun fresh => unmade fun was => fresh (.inl was), turning, calling, taken, dry⟩
  | make ceiling fresh =>
      obtain ⟨blank, -, idle⟩ := unmade fresh
      have unattended : strand.attention ≠ .turning := fun turns => by
        have drains := (turning turns).1
        simp [blank, Accumulator.new] at drains
      exact ⟨fun fresh => absurd trivial fresh, fun turns => absurd turns unattended,
        fun busy => absurd idle busy, fun drains => by simp [become, Accumulator.new] at drains,
        fun _ parked => by simp [become, Accumulator.new] at parked⟩
  | accept bytes away fits =>
      exact .woken trivial rfl calling fun drains => (taken drains).resolve_left (by simp [away])
  | close ending away opened =>
      exact .woken trivial rfl calling fun drains => (taken drains).resolve_left (by simp [away])
  | attach handler away first =>
      have unattached := Accumulator.unattached_of_not_attached first
      have none := idle (by simp [unattached])
      exact .woken trivial rfl (fun busy => absurd none busy)
        (by simp [look, become, Accumulator.park])
  | pass draining absent =>
      refine ⟨unmade, by simp [look], calling, fun drains => ?_,
        fun handler parked => absurd parked (absent handler)⟩
      exact .inr ((taken drains).resolve_left (by simp [draining]))
  | take handler draining parked => exact .running trivial rfl rfl (idle (by simp [parked]))
  | answer wantsEnd calls away running =>
      obtain ⟨drains, none⟩ := last running
      exact .running trivial rfl drains none
  | hand bytes rest turns first =>
      obtain ⟨drains, none⟩ := turning turns
      have one : HandlerCall.chunk :: strand.calls = [.chunk] := by rw [none]
      exact .waiting trivial rfl drains one
  | tell rest turns first wanted =>
      obtain ⟨drains, none⟩ := turning turns
      have one : HandlerCall.ending :: strand.calls = [.ending] := by rw [none]
      exact .waiting trivial rfl drains one
  | park handler turns dry =>
      obtain ⟨-, none⟩ := turning turns
      exact .resting trivial rfl none (by simp [look, become, Accumulator.park]) fun _ _ => dry
  | release ending rest turns first unwanted =>
      obtain ⟨-, none⟩ := turning turns
      exact .resting trivial rfl none (by simp [look, note, become, Accumulator.release])
        fun _ _ => rfl
  | dismiss calls away running =>
      obtain ⟨-, none⟩ := last running
      exact .resting trivial rfl none (by simp [look, note, become, Accumulator.release])
        fun _ _ => rfl
  | collapse call calls away running =>
      obtain ⟨-, none⟩ := last running
      exact .resting trivial rfl none
        (by simp [look, note, become, Accumulator.collapse, Accumulator.release]) fun _ _ => rfl

/-- The terminal marker was taken out of the queue, or never will be. -/
def ceased (strand : Strand) : Prop :=
  strand.accumulator.stage = .released ∨ .ending ∈ strand.calls

structure Marked (strand : Strand) : Prop where
  lone : (History.closings strand.past).length ≤ 1
  marked : strand.accumulator.closed = true ↔
    History.closings strand.past ≠ [] ∨ History.collapses strand.past ≠ 0
  broken : History.collapses strand.past ≠ 0 → strand.accumulator.stage = .released
  spent : strand.ceased → strand.accumulator.queue = [] ∧ strand.accumulator.closed = true
  shape : ¬ strand.ceased → ∃ chunks : List Bytes, strand.accumulator.queue =
    chunks.map .chunk ++ (History.closings strand.past).map .ending

theorem Marked.opened (marked : strand.Marked) (opened : strand.accumulator.closed = false) :
    ¬ strand.ceased ∧ History.closings strand.past = [] ∧ History.collapses strand.past = 0 := by
  refine ⟨fun ceased => ?_, ?_⟩
  · simp [(marked.spent ceased).2] at opened
  · simpa [opened] using marked.marked

theorem Marked.alone (marked : strand.Marked) {ending : Ending} {rest : List Item}
    (first : strand.accumulator.queue = .ending ending :: rest) :
    History.closings strand.past = [ending] ∧ rest = [] := by
  have early : ¬ strand.ceased := by
    intro ceased
    simp [marked.spent ceased] at first
  obtain ⟨chunks, shape⟩ := marked.shape early
  have lone := marked.lone
  cases chunks with
  | cons bytes later => simp [first] at shape
  | nil =>
      cases closings : History.closings strand.past with
      | nil => simp [first, closings] at shape
      | cons closing later =>
          rw [closings] at lone shape
          have last : later = [] := by simpa using lone
          subst last
          have same : ending = closing ∧ rest = [] := by simpa [first] using shape
          exact ⟨by rw [same.1], same.2⟩

theorem Marked.behind (marked : strand.Marked) {bytes : Bytes} {rest : List Item}
    (first : strand.accumulator.queue = .chunk bytes :: rest) :
    ∃ chunks : List Bytes, rest =
      chunks.map .chunk ++ (History.closings strand.past).map .ending := by
  have early : ¬ strand.ceased := by
    intro ceased
    simp [marked.spent ceased] at first
  obtain ⟨chunks, shape⟩ := marked.shape early
  cases chunks with
  | nil => cases closings : History.closings strand.past <;> simp [first, closings] at shape
  | cons head chunks =>
      have same : bytes = head ∧ rest =
          chunks.map .chunk ++ (History.closings strand.past).map .ending := by
        simpa [first] using shape
      exact ⟨chunks, same.2⟩

theorem not_ceased_of_turning (drains : strand.accumulator.stage = .draining)
    (idle : strand.calls = []) : ¬ strand.ceased := by
  simp [ceased, drains, idle]

theorem Marked.whole (marked : strand.Marked) (live : strand.accumulator.stage ≠ .released) :
    History.collapses strand.past = 0 := by
  by_cases whole : History.collapses strand.past = 0
  · exact whole
  · exact absurd (marked.broken whole) live

theorem Marked.closed (marked : strand.Marked) {ending : Ending}
    (closing : History.closings strand.past = [ending]) : strand.accumulator.closed = true :=
  marked.marked.mpr (.inl (by simp [closing]))

theorem Marked.step (step : Step index strand after) (handled : strand.Handled)
    (marked : strand.Marked) : after.Marked := by
  have opened := marked.opened
  have alone := @marked.alone
  have behind := @marked.behind
  have closed := @marked.closed
  have whole := marked.whole
  obtain ⟨lone, marked, broken, spent, shape⟩ := marked
  cases step with
  | still made => exact ⟨lone, marked, broken, spent, shape⟩
  | pass draining absent => exact ⟨lone, marked, broken, spent, shape⟩
  | make ceiling fresh =>
      obtain ⟨blank, empty, idle⟩ := handled.unmade fresh
      constructor <;>
        simp [ceased, become, Accumulator.new, empty, idle, History.closings, History.collapses]
  | accept bytes away fits =>
      obtain ⟨early, unclosed, -⟩ := opened (Accumulator.closed_of_accepts fits)
      obtain ⟨chunks, shape⟩ := shape early
      refine ⟨by simpa [look, note, become] using lone,
        by simpa [look, note, become, Accumulator.enqueue] using marked,
        by simpa [look, note, become, Accumulator.enqueue] using broken,
        fun ceased => absurd ceased early, fun _ => ⟨chunks ++ [bytes], ?_⟩⟩
      simp [look, note, become, Accumulator.enqueue, shape, unclosed]
  | close ending away isOpen =>
      obtain ⟨early, unclosed, -⟩ := opened isOpen
      obtain ⟨chunks, shape⟩ := shape early
      refine ⟨by simp [look, note, become, unclosed],
        by simp [look, note, become, Accumulator.close],
        by simpa [look, note, become, Accumulator.close] using broken,
        fun ceased => absurd ceased early, fun _ => ⟨chunks, ?_⟩⟩
      simp [look, note, become, Accumulator.close, shape, unclosed]
  | attach handler away first =>
      have unattached := Accumulator.unattached_of_not_attached first
      have none := handled.idle (by simp [unattached])
      have early : ¬ strand.ceased := by simp [ceased, unattached, none]
      refine ⟨lone, marked, fun broken => absurd (whole (by simp [unattached])) broken,
        fun later => ?_, fun _ => shape early⟩
      simp [ceased, look, become, Accumulator.park, none] at later
  | take handler draining parked =>
      have none := handled.idle (by simp [parked])
      have early : ¬ strand.ceased := by simp [ceased, parked, none]
      refine ⟨lone, marked, fun broken => absurd (whole (by simp [parked])) broken,
        fun later => ?_, fun _ => shape early⟩
      simp [ceased, look, become, none] at later
  | park handler turning dry =>
      obtain ⟨drains, none⟩ := handled.turning turning
      have early := not_ceased_of_turning drains none
      refine ⟨lone, marked, fun broken => absurd (whole (by simp [drains])) broken,
        fun later => ?_, fun _ => shape early⟩
      simp [ceased, look, become, Accumulator.park, none] at later
  | hand bytes rest turning first =>
      obtain ⟨drains, none⟩ := handled.turning turning
      refine ⟨by simpa [look, note, enter, become] using lone,
        by simpa [look, note, enter, become, Accumulator.dequeue] using marked,
        by simpa [look, note, enter, become, Accumulator.dequeue] using broken,
        fun later => ?_, fun _ => by
          simpa [look, note, enter, become, Accumulator.dequeue] using behind first⟩
      simp [ceased, look, note, enter, become, Accumulator.dequeue, drains, none] at later
  | answer wantsEnd calls away running =>
      obtain ⟨drains, none⟩ := handled.last running
      have early : ¬ strand.ceased := by simp [ceased, drains, running, none]
      refine ⟨by simpa [look, note, leave, become] using lone,
        by simpa [look, note, leave, become] using marked,
        by simpa [look, note, leave, become] using broken,
        fun later => ?_, fun _ => by simpa [look, note, leave, become] using shape early⟩
      simp [ceased, look, note, leave, become, drains, none] at later
  | tell rest turning first wanted =>
      obtain ⟨closing, nothing⟩ := alone first
      refine ⟨by simpa [look, note, enter, become] using lone,
        by simpa [look, note, enter, become] using marked,
        by simpa [look, note, enter, become] using broken,
        fun _ => ⟨nothing, closed closing⟩, fun early => ?_⟩
      exact absurd (.inr (List.mem_cons_self ..)) early
  | release ending rest turning first unwanted =>
      obtain ⟨closing, -⟩ := alone first
      exact ⟨by simpa [look, note, become] using lone,
        by simpa [look, note, become, Accumulator.release] using marked, fun _ => rfl,
        fun _ => ⟨rfl, closed closing⟩, fun early => absurd (.inl rfl) early⟩
  | dismiss calls away running =>
      obtain ⟨-, closed⟩ := spent (.inr (by simp [running]))
      exact ⟨by simpa [look, note, leave, become] using lone,
        by simpa [look, note, leave, become, Accumulator.release] using marked, fun _ => rfl,
        fun _ => ⟨rfl, closed⟩, fun early => absurd (.inl rfl) early⟩
  | collapse call calls away running =>
      exact ⟨by simpa [look, note, leave, become] using lone,
        by simp [look, note, leave, become, Accumulator.collapse], fun _ => rfl,
        fun _ => ⟨rfl, rfl⟩, fun early => absurd (.inl rfl) early⟩

theorem Handled.blank : Strand.blank.Handled := by
  constructor <;> simp [Strand.blank, Accumulator.new]

theorem Marked.blank : Strand.blank.Marked := by
  constructor <;>
    simp [Strand.blank, Accumulator.new, ceased, History.closings, History.collapses]

end Strand

namespace Machine

theorem strand_initial (index : Nat) : initial.strand index = Strand.blank := by
  simp [strand, initial, Strand.blank, handlerCalls, streamPast, World.accumulator, Store.get,
    Store.size]
  exact ⟨rfl, Nat.zero_le _⟩

/-- A law of strands that every step keeps holds of every accumulator along
every run. -/
theorem strand_run {law : Strand → Prop} {index : Nat}
    (kept : ∀ before after, Strand.Step index before after → law before → law after)
    (first : law Strand.blank) (moves : List Move) : law ((initial.run moves).strand index) := by
  have start : law (initial.strand index) := by
    rw [strand_initial]
    exact first
  exact @run_induction (fun machine => law (machine.strand index)) _
    (fun before after moved holds => kept _ _ (Strand.step_of_moved moved index) holds) start moves

theorem strand_custody (index : Nat) (moves : List Move) :
    ((initial.run moves).strand index).Handled ∧ ((initial.run moves).strand index).Marked := by
  have kept (before after) (step : Strand.Step index before after)
      (custody : before.Handled ∧ before.Marked) : after.Handled ∧ after.Marked :=
    ⟨custody.1.step step, custody.2.step step custody.1⟩
  exact strand_run kept ⟨Strand.Handled.blank, Strand.Marked.blank⟩ moves

end Machine

end Handoff
