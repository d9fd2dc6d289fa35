import Handoff.Proofs.Sessions.Grants

namespace Handoff

/-! How many octets a queue holds.

The queue is counted where chunks join it and where they leave it, and in between
client code may make more chunks join.  So the count is right at every moment, and
what it is compared with the ceiling for is what is there. -/

/-- The octets of some chunks. -/
def octets (chunks : List Bytes) : Nat :=
  Count.total (chunks.map List.length)

@[simp] theorem octets_nil : octets [] = 0 := rfl

@[simp] theorem octets_cons (bytes : Bytes) (chunks : List Bytes) :
    octets (bytes :: chunks) = bytes.length + octets chunks := rfl

@[simp] theorem octets_append (chunks more : List Bytes) :
    octets (chunks ++ more) = octets chunks + octets more := by
  rw [octets, List.map_append, Count.total_append]
  rfl

namespace Accumulator

variable {accumulator : Accumulator} {bytes : Bytes}

theorem isAttached_of_draining (drains : accumulator.stage = .draining) :
    accumulator.isAttached = true := by
  rw [isAttached, drains]

/-- The reasons for which a chunk is refused. -/
theorem refusal?_eq_some {error : Error} : accumulator.refusal? bytes = some error ↔
    accumulator.closed = true ∧ error = .streamClosed ∨
      accumulator.closed = false ∧ accumulator.isAttached = false ∧
        ∃ limit, accumulator.ceiling = some limit ∧ limit < accumulator.requested bytes ∧
          error = .capacityExceeded (accumulator.requested bytes) limit := by
  cases closed : accumulator.closed with
  | true =>
      rw [refusal?, if_pos closed, Option.some_inj, eq_comm]
      simp
  | false =>
      cases attached : accumulator.isAttached with
      | true => simp [refusal?, closed, attached]
      | false =>
          cases ceiling : accumulator.ceiling with
          | none => simp [refusal?, closed, attached, ceiling]
          | some limit => simp [refusal?, closed, attached, ceiling, eq_comm]

/-- A chunk that was accepted without a handler fits under the ceiling. -/
theorem requested_le (fits : accumulator.refusal? bytes = none)
    (unattached : accumulator.isAttached = false) {limit : Nat}
    (ceiling : accumulator.ceiling = some limit) : accumulator.requested bytes ≤ limit := by
  by_cases exceeds : limit < accumulator.requested bytes
  · have opened : accumulator.closed = false := closed_of_accepts fits
    have refused := refusal?_eq_some.mpr (.inr ⟨opened, unattached, limit, ceiling, exceeds, rfl⟩)
    cases fits.symm.trans refused
  · exact Nat.le_of_not_lt exceeds

end Accumulator

namespace Strand

variable {index : Nat} {strand after : Strand}

/-- The octets of the queue are counted, and under the ceiling until there is a
handler; a count that no word holds is taken for the largest. -/
structure Counted (strand : Strand) : Prop where
  counted : strand.accumulator.queuedBytes = octets strand.accumulator.queued
  under : strand.accumulator.isAttached = false → ∀ limit, strand.accumulator.ceiling = some limit →
    min strand.accumulator.queuedBytes Count.limit ≤ limit

/-- An accumulator with a handler has no ceiling to keep. -/
theorem Counted.of_attached (counted : strand.accumulator.queuedBytes = octets strand.accumulator.queued)
    (attached : strand.accumulator.isAttached = true) : strand.Counted where
  counted := counted
  under unattached := absurd attached (by simp [unattached])

/-- Nothing is left in the queue. -/
theorem Counted.of_empty (counted : strand.accumulator.queuedBytes = 0)
    (empty : strand.accumulator.queue = []) : strand.Counted where
  counted := by simp [counted, Accumulator.queued, empty]
  under _ limit _ := by simp [counted]

theorem Counted.step (step : Step index strand after) (handled : strand.Handled)
    (counted : strand.Counted) : after.Counted := by
  obtain ⟨counted, under⟩ := counted
  cases step with
  | still made => exact ⟨counted, under⟩
  | pass draining absent => exact ⟨counted, under⟩
  | make ceiling fresh => exact .of_empty rfl rfl
  | release ending rest turning first unwanted => exact .of_empty rfl rfl
  | dismiss calls idle running => exact .of_empty rfl rfl
  | collapse call calls idle running => exact .of_empty rfl rfl
  | attach handler idle first => exact .of_attached counted rfl
  | take handler draining parked => exact .of_attached counted rfl
  | park handler turning dry => exact .of_attached counted rfl
  | answer wantsEnd calls idle running => exact ⟨counted, under⟩
  | close ending idle opened =>
      refine ⟨?_, under⟩
      change _ = octets (strand.accumulator.close ending).queued
      rw [Accumulator.queued_close]
      exact counted
  | accept bytes idle fits =>
      refine ⟨?_, fun unattached limit ceiling => Accumulator.requested_le fits unattached ceiling⟩
      change strand.accumulator.queuedBytes + bytes.length =
        octets (strand.accumulator.enqueue bytes).queued
      rw [Accumulator.queued_enqueue, octets_append, octets_cons, octets_nil, counted]
      rfl
  | hand bytes rest turning first =>
      have whole := Accumulator.queued_dequeue first
      rw [whole, octets_cons] at counted
      refine .of_attached ?_ (Accumulator.isAttached_of_draining (handled.turning turning).1)
      change strand.accumulator.queuedBytes - bytes.length =
        octets (strand.accumulator.dequeue bytes rest).queued
      omega
  | tell rest turning first wanted =>
      refine .of_attached ?_ (Accumulator.isAttached_of_draining (handled.turning turning).1)
      simpa [look, note, become, enter, Accumulator.queued, first] using counted

theorem Counted.blank : Strand.blank.Counted := .of_empty rfl rfl

end Strand

namespace Machine

variable {machine : Machine} {index : Nat} {bytes : Bytes}

theorem strand_counted (index : Nat) (moves : List Move) :
    ((initial.run moves).strand index).Counted := by
  have kept (before after) (step : Strand.Step index before after)
      (law : before.Handled ∧ before.Counted) : after.Handled ∧ after.Counted :=
    ⟨law.1.step step, law.2.step step law.1⟩
  exact (strand_run kept ⟨.blank, .blank⟩ moves).2

theorem Reached.counted (reached : machine.Reached) (index : Nat) :
    (machine.strand index).Counted := by
  obtain ⟨moves, rfl⟩ := reached
  exact strand_counted index moves

/-- What is queued was accepted. -/
theorem Reached.queuedBytes_le (reached : machine.Reached) (index : Nat) :
    (machine.world.accumulator index).queuedBytes ≤ octets (machine.accepted index) := by
  have counted := (reached.counted index).counted
  obtain ⟨lost, parts, -⟩ := reached.accounted index
  have whole := congrArg octets parts
  rw [octets_append, octets_append] at whole
  change octets (machine.accepted index) = _ at whole
  rw [strand_accumulator] at counted whole
  omega

/-- A chunk is delivered to an accumulator, from now until that is over.  Client code
that is called meanwhile may do anything. -/
def Delivers (machine : Machine) (index : Nat) (bytes : Bytes) (after : Machine) : Prop :=
  Course (fun _ _ => True) machine.stack (machine.turn (.deliver index bytes)) after ∧
    Over machine.stack after

def Refuses (machine : Machine) (index : Nat) (bytes : Bytes) (error : Error) : Prop :=
  ∃ after, machine.Delivers index bytes after ∧ after.control = .reply (.refused error)

/-- A refused chunk leaves everything as it was. -/
theorem delivers_refused {error : Error} {after : Machine}
    (refused : (machine.world.accumulator index).refusal? bytes = some error)
    (delivers : machine.Delivers index bytes after) : after = machine.reply (.refused error) := by
  have ends : Ends (fun _ _ => True) machine.stack (· = machine.reply (.refused error))
      (machine.turn (.deliver index bytes)) := by
    apply ends_task
    have same := @deliver_refused (machine.turn (.deliver index bytes)) _ _ _ refused
    exact ends_of_over ⟨by rw [perform, same]; rfl, by rw [perform, same]; rfl⟩ same
  exact ends after delivers.1 delivers.2

theorem delivers_of_refusal {error : Error}
    (refused : (machine.world.accumulator index).refusal? bytes = some error) :
    machine.Delivers index bytes (machine.reply (.refused error)) := by
  have answered : (machine.turn (.deliver index bytes)).act .tick =
      machine.reply (.refused error) :=
    @deliver_refused (machine.turn (.deliver index bytes)) _ _ _ refused
  refine ⟨@Course.move _ _ _ _ .tick (fun ceased => ?_) trivial ?_, rfl, rfl⟩
  · cases ceased.2
  · rw [answered]
    exact .start _

theorem refuses_iff {error : Error} : machine.Refuses index bytes error ↔
    (machine.world.accumulator index).refusal? bytes = some error := by
  constructor
  · rintro ⟨after, delivers, replied⟩
    cases refusal : (machine.world.accumulator index).refusal? bytes with
    | some other =>
        rw [delivers_refused refusal delivers] at replied
        cases replied
        rfl
    | none => cases replies_deliver refusal rfl after delivers.1 delivers.2 _ replied
  · intro refused
    exact ⟨_, delivers_of_refusal refused, rfl⟩

/-- The law of the ceiling, for every accumulator at every point of every run in
which no more octets were accepted than a word can count.  The queue is counted
right: taking a chunk out never takes away more than is there, and a chunk that can
still be counted never makes it too many.  Until there is a handler the queue stays
under the ceiling.  A chunk is refused when the stream is closed, or when there is no
handler and it would not fit, and for no other reason; then nothing happens.  Once
there is a handler, no chunk is too large. -/
theorem ceiling_law {accumulator : Accumulator} (reached : machine.Reached)
    (row : machine.world.accumulator index = accumulator)
    (few : octets (machine.accepted index) ≤ Count.limit) :
    (accumulator.queuedBytes = octets accumulator.queued ∧
      accumulator.queuedBytes ≤ Count.limit ∧
      (∀ bytes rest, accumulator.queue = .chunk bytes :: rest →
        bytes.length ≤ accumulator.queuedBytes) ∧
      ∀ bytes : Bytes, octets (machine.accepted index) + bytes.length ≤ Count.limit →
        accumulator.queuedBytes + bytes.length ≤ Count.limit) ∧
    (accumulator.isAttached = false → ∀ limit, accumulator.ceiling = some limit →
      accumulator.queuedBytes ≤ limit) ∧
    (∀ bytes : Bytes,
      (machine.Refuses index bytes .streamClosed ↔ accumulator.closed = true) ∧
      (∀ requested limit, machine.Refuses index bytes (.capacityExceeded requested limit) ↔
        accumulator.closed = false ∧ accumulator.isAttached = false ∧
          accumulator.ceiling = some limit ∧
          requested = min (accumulator.queuedBytes + bytes.length) Count.limit ∧
          limit < requested) ∧
      ∀ error, machine.Refuses index bytes error →
        (error = .streamClosed ∨ ∃ requested limit, error = .capacityExceeded requested limit) ∧
        ∀ after, machine.Delivers index bytes after → after = machine.reply (.refused error)) ∧
    (accumulator.isAttached = true → ∀ later bytes requested limit,
      ¬ (machine.run later).Refuses index bytes (.capacityExceeded requested limit)) := by
  subst row
  obtain ⟨counted, under⟩ := reached.counted index
  rw [strand_accumulator] at counted under
  have bounded := reached.queuedBytes_le index
  refine ⟨⟨counted, by omega, fun bytes rest first => ?_, fun bytes fits => by omega⟩,
    fun unattached limit ceiling => ?_, fun bytes => ⟨?_, fun requested limit => ?_,
      fun error refuses => ⟨?_, fun after => delivers_refused (refuses_iff.mp refuses)⟩⟩,
    fun attached later bytes requested limit refuses => ?_⟩
  · rw [counted, Accumulator.queued_dequeue first, octets_cons]
    exact Nat.le_add_right _ _
  · have limited := under unattached limit ceiling
    omega
  · rw [refuses_iff, Accumulator.refusal?_eq_some]
    simp
  · rw [refuses_iff, Accumulator.refusal?_eq_some, Accumulator.requested, Count.cappedAdd]
    constructor
    · rintro (⟨-, same⟩ | ⟨opened, unattached, top, ceiling, exceeds, same⟩)
      · cases same
      · cases same
        exact ⟨opened, unattached, ceiling, rfl, exceeds⟩
    · rintro ⟨opened, unattached, ceiling, rfl, exceeds⟩
      exact .inr ⟨opened, unattached, limit, ceiling, exceeds, rfl⟩
  · obtain ⟨-, same⟩ | ⟨-, -, limit, -, -, same⟩ :=
      Accumulator.refusal?_eq_some.mp (refuses_iff.mp refuses)
    · exact .inl same
    · exact .inr ⟨_, limit, same⟩
  · have still := reached.attached attached later
    obtain ⟨-, same⟩ | ⟨-, unattached, -⟩ :=
      Accumulator.refusal?_eq_some.mp (refuses_iff.mp refuses)
    · cases same
    · cases still.symm.trans unattached

/-- Two octets wait for a handler, and three are allowed. -/
def nearlyFull : List Move :=
  [.call (.newAccumulator (some 3)), .tick, .call (.deliver 0 [1, 2]), .tick, .tick, .tick, .tick]

theorem ceiling_law_nearlyFull :
    (initial.run nearlyFull).Reached ∧ octets ((initial.run nearlyFull).accepted 0) ≤ Count.limit ∧
      (initial.run nearlyFull).Refuses 0 [3, 4] (.capacityExceeded 4 3) ∧
      ¬ (initial.run nearlyFull).Refuses 0 [3] (.capacityExceeded 3 3) := by
  have reached : (initial.run nearlyFull).Reached := ⟨nearlyFull, rfl⟩
  have few : octets ((initial.run nearlyFull).accepted 0) ≤ Count.limit := by decide
  have law := ceiling_law reached rfl few
  refine ⟨reached, few, ((law.2.2.1 [3, 4]).2.1 4 3).mpr (by decide), fun refuses => ?_⟩
  have full := ((law.2.2.1 [3]).2.1 3 3).mp refuses
  exact absurd full.2.2.2.2 (by decide)

end Machine

end Handoff
