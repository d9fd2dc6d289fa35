import Handoff.Proofs.Channels.Reading
import Handoff.Proofs.Sessions.Conclusions

namespace Handoff

/-! A stream is dealt with before its body is completed.

Whoever completes a body closes its stream first.  If nobody is calling the handler
then, the queue is dry and the handler is parked, so that the terminal marker is read
within the call: the handler is told of the end if it wanted to be, and let go.  It
may do to the body whatever it likes meanwhile.  Only then is the promise settled,
and if somebody else settled it before, the call does not succeed. -/

/-- What is left of a call that completes a body while it closes the stream. -/
def Site.completing (site : Site) (value : String) (base : List Frame) : List Frame :=
  .finishing site.promise value :: .leaving site.body :: base

namespace Machine

variable {allow : Machine → Move → Prop} {base : List Frame} {machine after : Machine}
  {index : Nat} {handler : ChunkHandler}

/-- How often a chunk handler of the client was let go. -/
def drops (machine : Machine) (number : Nat) : Nat :=
  machine.journal.countP fun entry =>
    match entry with
    | .dropped handler => handler == number
    | _ => false

theorem drops_run (machine : Machine) (number : Nat) (moves : List Move) :
    machine.drops number ≤ (machine.run moves).drops number :=
  (machine.journal_run moves).sublist.countP_le

theorem closings_run (machine : Machine) (index : Nat) (moves : List Move) :
    machine.closings index <+: (machine.run moves).closings index := by
  have older := List.reverse_prefix.mpr (machine.journal_run moves)
  exact (older.filter _).filterMap _

/-- A stream whose handler was given everything, told of the end if it wanted to be,
and let go. -/
structure Exhausted (machine : Machine) (index : Nat) : Prop where
  handed : machine.handed index = machine.accepted index
  answered : (machine.answers index).length = (machine.handed index).length
  ended : machine.ends index = if (machine.answers index).getLast? = some false then 0 else 1
  returned : machine.handlerCalls index = []
  released : machine.releases index = 1
  gone : (machine.world.accumulator index).stage = .released

theorem exhausted_of_released (reached : machine.Reached)
    (gone : (machine.world.accumulator index).stage = .released)
    (whole : machine.collapses index = 0) (closing : machine.closings index = [.finished]) :
    machine.Exhausted index := by
  have told := reached.told index
  have idle : machine.handlerCalls index = [] := (reached.handled index).idle fun drains => by
    cases gone.symm.trans drains
  obtain ⟨released, ended⟩ := told.gone gone whole
  obtain ⟨lost, parts, kept⟩ := reached.accounted index
  have dry := ((reached.marked index).spent (.inl gone)).1
  have answered := told.answered whole
  refine ⟨?_, ?_, ?_, idle, released, gone⟩
  · have parts : machine.accepted index = machine.handed index ++
        (machine.world.accumulator index).queued ++ lost := parts
    rw [parts, kept whole]
    simp [Accumulator.queued, show (machine.world.accumulator index).queue = [] from dry]
  · have nobody : (machine.strand index).calls = [] := idle
    rw [nobody] at answered
    exact answered
  · have wanting : (machine.world.accumulator index).wantsEnd =
        (machine.answers index).getLast?.getD true := told.wanting
    have few : machine.ends index ≤ 1 := told.few.1
    have ended : machine.ends index = 1 ↔
        (machine.world.accumulator index).wantsEnd = true := by
      refine ended.trans (and_iff_right closing)
    rw [wanting] at ended
    split
    case isTrue last =>
        have untold : ¬ machine.ends index = 1 := by simp [ended, last]
        omega
    case isFalse last =>
        refine ended.mpr ?_
        cases answer : (machine.answers index).getLast? with
        | none => rfl
        | some wants =>
            cases wants with
            | true => rfl
            | false => exact absurd answer last

/-- Nothing happens to an exhausted stream any more. -/
theorem Exhausted.run (exhausted : machine.Exhausted index) (reached : machine.Reached)
    (later : List Move) :
    (machine.run later).Exhausted index ∧
      (machine.run later).streamPast index = machine.streamPast index := by
  obtain ⟨row, past, idle⟩ := still_of_released (reached.handled index) (reached.marked index)
    exhausted.gone later
  obtain ⟨handed, answered, ended, -, released, gone⟩ := exhausted
  refine ⟨⟨?_, ?_, ?_, idle, ?_, row ▸ gone⟩, past⟩
  all_goals
    simp only [Machine.handed, Machine.accepted, answers, ends, releases, past]
    assumption

/-- The handler was let go, and no call of it panicked. -/
structure Dismissed (before : Machine) (index : Nat) (handler : ChunkHandler)
    (machine : Machine) : Prop where
  gone : (machine.world.accumulator index).stage = .released
  whole : machine.collapses index = 0
  dropped : ∀ number, handler = .client number → before.drops number < machine.drops number

/-- If a reply arrives, the handler was let go by then. -/
def Dismisses (before : Machine) (index : Nat) (handler : ChunkHandler) (machine : Machine) :
    Prop :=
  ∀ reply, machine.control = .reply reply → Dismissed before index handler machine

variable {before : Machine}

theorem dismisses_panicking (panics : Replies allow base (fun _ => False) machine) :
    Ends allow base (Dismisses before index handler) machine :=
  panics.weaken fun _ _ never reply replied => (never reply replied).elim

/-- A handler that is let go is dropped at once. -/
theorem drops_letGo (machine : Machine) (index number : Nat) :
    (machine.letGo index (.client number)).tick.drops number = machine.drops number + 1 := by
  have journal : (machine.letGo index (.client number)).tick.journal =
      .dropped number :: .released index :: machine.journal := rfl
  simp [drops, journal]

theorem ends_letGo {shown : ChunkHandler} (reached : (machine.letGo index shown).Reached)
    (whole : machine.collapses index = 0)
    (own : ∀ number, handler = .client number → shown = .client number)
    (earlier : ∀ number, before.drops number ≤ machine.drops number) :
    Ends allow base (Dismisses before index handler) (machine.letGo index shown) := by
  have strand := machine.strand_letGo_own index shown
  have gone : ((machine.letGo index shown).world.accumulator index).stage = .released :=
    congrArg (fun strand => strand.accumulator.stage) strand
  have noted : (machine.letGo index shown).streamPast index =
      machine.streamPast index ++ [.released index] := congrArg Strand.past strand
  have same : (machine.letGo index shown).collapses index = machine.collapses index := by
    simp [collapses, noted]
  have dropped : Ends allow base (fun after => ∀ number, handler = .client number →
      before.drops number < after.drops number) (machine.letGo index shown) := by
    apply ends_tick
    · intro ceased
      cases ceased.2
    · intro sight idle
      cases idle
    · intro after course _ number found
      obtain ⟨moves, rfl⟩ := course.reached
      rw [own number found]
      have once := machine.drops_letGo index number
      have later := drops_run (machine.letGo index (.client number)).tick number moves
      have first := earlier number
      omega
  intro after course ceased reply _
  have gathered := dropped after course ceased
  obtain ⟨moves, rfl⟩ := course.reached
  obtain ⟨row, past, -⟩ :=
    still_of_released (reached.handled index) (reached.marked index) gone moves
  refine ⟨row ▸ gone, ?_, gathered⟩
  rw [collapses, past]
  exact same.trans whole

/-- A handler that was told of the end is let go when it returns. -/
theorem ends_fedEnd {shown : ChunkHandler} (reached : machine.Reached)
    (rises : Rises (.fedEnd index shown :: base) machine)
    (own : ∀ number, handler = .client number → shown = .client number)
    (earlier : ∀ number, before.drops number ≤ machine.drops number) :
    Ends allow base (Dismisses before index handler) machine := by
  have above : Ends allow (.fedEnd index shown :: base)
      (fun after => after.Reached ∧ ∀ number, before.drops number ≤ after.drops number) machine := by
    intro after course _
    obtain ⟨moves, rfl⟩ := course.reached
    exact ⟨reached.run moves, fun number =>
      Nat.le_trans (earlier number) (machine.drops_run number moves)⟩
  refine ends_frame rises above ?_ ?_
  · rintro below reply - replied ⟨reached, earlier⟩
    have calling : ((below.push (.fedEnd index shown)).strand index).calls ≠ [] := by
      simp [Strand.enter]
    -- The call that returns is the only one, so no call of the handler panicked.
    have drains := ((reached.handled index).calling calling).1
    have whole : (below.push (.fedEnd index shown)).collapses index = 0 :=
      (reached.marked index).whole fun released => by cases drains.symm.trans released
    have next : (below.letGo index shown).Reached := by
      have next := reached.run [.tick]
      rwa [run_cons, act, tick_frame replied] at next
    exact ends_letGo next whole own earlier
  · rintro below message bottom panicking -
    exact dismisses_panicking (replies_rethrowing (rises_pushed bottom))

/-- The handler is told of the end, or not, and then let go. -/
theorem ends_ending (reached : (machine.turn (.next index handler)).Reached)
    (marker : (machine.world.accumulator index).queue = [.ending .finished])
    (bottom : machine.stack = base)
    (earlier : ∀ number, before.drops number ≤ machine.drops number) :
    Ends allow base (Dismisses before index handler) (machine.turn (.next index handler)) := by
  have drains : (machine.world.accumulator index).stage = .draining :=
    ((reached.handled index).turning (by simp [Strand.look])).1
  have whole : machine.collapses index = 0 :=
    (reached.marked index).whole fun released => by cases drains.symm.trans released
  have next : ((machine.turn (.next index handler)).next index handler).Reached :=
    reached.run [.tick]
  apply ends_task
  have marker : ((machine.turn (.next index handler)).world.accumulator index).queue =
    [.ending .finished] := marker
  simp only [perform, Machine.next, marker, decide_true, Bool.true_and] at next ⊢
  split at next
  case isTrue wanted =>
      rw [if_pos wanted]
      apply ends_fedEnd next (rises_pushed bottom)
      · rintro number rfl
        rfl
      · intro number
        apply Nat.le_trans (earlier number)
        simp [drops, note, push, turn, setAccumulator, withWorld]
  case isFalse unwanted =>
      rw [if_neg unwanted]
      exact ends_letGo next whole (fun _ own => own) earlier

/-- A drain finds nothing but the terminal marker. -/
theorem ends_drain (reached : (machine.turn (.drain index)).Reached)
    (parked : (machine.world.accumulator index).stage = .parked handler)
    (marker : (machine.world.accumulator index).queue = [.ending .finished])
    (bottom : machine.stack = base)
    (earlier : ∀ number, before.drops number ≤ machine.drops number) :
    Ends allow base (Dismisses before index handler) (machine.turn (.drain index)) := by
  let taken := (machine.turn (.drain index)).setAccumulator index
    { machine.world.accumulator index with stage := .draining }
  have drained : (machine.turn (.drain index)).drain index = taken.turn (.next index handler) := by
    have parked : ((machine.turn (.drain index)).world.accumulator index).stage = .parked handler :=
      parked
    simp only [drain, parked]
    rfl
  have row : taken.world.accumulator index =
      { machine.world.accumulator index with stage := .draining } :=
    accumulator_setAccumulator_own (machine.turn (.drain index)) index _
  have next : (taken.turn (.next index handler)).Reached := drained ▸ reached.run [.tick]
  apply ends_task
  rw [perform, drained]
  refine ends_ending next ?_ bottom earlier
  rw [row]
  exact marker

/-- Closing the stream of a parked handler lets it go. -/
theorem ends_finish (reached : (machine.turn (.finish index .finished)).Reached)
    (opened : (machine.world.accumulator index).closed = false)
    (parked : (machine.world.accumulator index).stage = .parked handler)
    (dry : (machine.world.accumulator index).queue = []) (bottom : machine.stack = base) :
    Ends allow base (fun after => Dismisses machine index handler after ∧
      after.closings index = [.finished]) (machine.turn (.finish index .finished)) := by
  let closing := (((machine.turn (.finish index .finished)).setAccumulator index
    ((machine.world.accumulator index).close .finished)).note (.closed index .finished)).push
      (.replying .ok)
  have finished : (machine.turn (.finish index .finished)).finish index .finished =
      closing.turn (.drain index) := by
    have unclosed : ((machine.turn (.finish index .finished)).world.accumulator index).closed =
      false := opened
    simp only [finish, unclosed]
    rfl
  have row : closing.world.accumulator index =
      (machine.world.accumulator index).close .finished :=
    accumulator_setAccumulator_own (machine.turn (.finish index .finished)) index _
  have next : (closing.turn (.drain index)).Reached := finished ▸ reached.run [.tick]
  have earlier (number : Nat) : machine.drops number ≤ closing.drops number := by
    simp [closing, drops, note, push, turn, setAccumulator, withWorld]
  have parked : (closing.world.accumulator index).stage = .parked handler := by
    rw [row]
    exact parked
  have marker : (closing.world.accumulator index).queue = [.ending .finished] := by
    rw [row]
    simp [Accumulator.close, dry]
  have told : Ends allow base (Dismisses machine index handler) (closing.turn (.drain index)) := by
    refine ends_frame (rises_pushed bottom) (ends_drain next parked marker ?_ earlier) ?_ ?_
    · exact congrArg (Frame.replying .ok :: ·) bottom
    · intro below reply bottom replied dismisses
      refine ends_of_over ⟨bottom, rfl⟩ fun _ _ => ?_
      obtain ⟨gone, whole, dropped⟩ := dismisses reply replied
      exact ⟨gone, whole, dropped⟩
    · intro below message bottom panicking _
      exact dismisses_panicking (replies_panicking bottom panicking)
  have closed : (closing.turn (.drain index)).closings index = [.finished] := by
    have none : machine.closings index = [] := ((reached.marked index).opened opened).2.1
    have strand : (closing.turn (.drain index)).strand index = (((machine.strand index).become
        ((machine.world.accumulator index).close .finished)).note
          (.closed index .finished)).look .draining := by
      simp [closing, Strand.look, Strand.become, Strand.note]
    have past : (closing.turn (.drain index)).streamPast index =
        machine.streamPast index ++ [.closed index .finished] := congrArg Strand.past strand
    rw [closings] at none
    simp [closings, past, none]
  apply ends_task
  rw [perform, finished]
  intro after course ceased
  refine ⟨told after course ceased, ?_⟩
  obtain ⟨moves, rfl⟩ := course.reached
  -- There is one terminal marker at most, and it is there already.
  have kept := closings_run (closing.turn (.drain index)) index moves
  rw [closed] at kept
  exact (kept.eq_of_length_le ((next.run moves).marked index).lone).symm

/-- A call that completes a body does not succeed if its stream cannot be closed, or if
somebody else settled the promise. -/
theorem replies_unsuccessful {promise body : Nat} {value : String}
    (rises : Rises (.finishing promise value :: .leaving body :: base) machine)
    (above : Ends allow (.finishing promise value :: .leaving body :: base)
      (fun between => ∀ reply, between.control = .reply reply →
        (∃ error, reply = .refused error) ∨ (between.world.promise promise).isDone = true) machine) :
    Replies allow base (· ≠ .ok) machine := by
  refine replies_leaving (rises.below (List.suffix_cons _ _)) (ends_frame rises above ?_ ?_)
  · intro below reply bottom replied spoilt
    rcases spoilt reply replied with ⟨error, rfl⟩ | done
    · exact replies_over bottom rfl (by simp [Reply.refused, Reply.ok])
    · have settles : Replies allow (.leaving body :: base) (· ≠ .ok)
          (below.turn (.settle promise (.resolved value))) := by
        apply Replies.task
        have done : ((below.turn (.settle promise (.resolved value))).world.promise
          promise).isDone = true := done
        rw [perform, settle_done done]
        exact replies_over bottom rfl (by simp [Reply.refused, Reply.ok])
      cases reply with
      | result result =>
          cases result with
          | ok => exact settles
          | error error => exact replies_over bottom rfl (by simp [Reply.refused, Reply.ok])
      | _ => exact settles
  · intro below message bottom panicking _
    exact replies_panicking bottom panicking

/-- What a call that completes a body does once the stream is closed. -/
theorem ends_resolving {promise body : Nat} {value : String} {reply : Reply}
    (reached : machine.Reached)
    (bottom : machine.stack = .finishing promise value :: .leaving body :: base)
    (replied : machine.control = .reply reply) (closed : ∀ error, reply ≠ .refused error)
    (pending : (machine.world.promise promise).isDone = false) :
    Ends allow base (fun after => (after.world.promise promise).outcome? = some (.resolved value))
      machine := by
  have settling : machine.tick.control = .task (.settle promise (.resolved value)) ∧
      machine.tick.world = machine.world := by
    obtain ⟨world, stack, control, journal⟩ := machine
    obtain rfl : stack = _ := bottom
    obtain rfl : control = _ := replied
    cases reply with
    | result result =>
        cases result with
        | ok => exact ⟨rfl, rfl⟩
        | error error => exact absurd rfl (closed error)
    | _ => exact ⟨rfl, rfl⟩
  have unsettled : (machine.tick.world.promise promise).outcome? = none := by
    rw [settling.2]
    simpa [Promise.isDone] using pending
  obtain ⟨waiting, state⟩ := Promise.outcome?_eq_none.mp unsettled
  have settled : (machine.tick.tick.world.promise promise).outcome? = some (.resolved value) :=
    Promise.outcome?_eq_some.mpr (tick_settle_pending settling.1 state).2.2.1
  refine ends_tick ?_ ?_ (ends_tick ?_ ?_ ?_)
  · intro ceased
    have longer := congrArg List.length (bottom.symm.trans ceased.1)
    simp only [List.length_cons] at longer
    omega
  · intro sight idle
    cases replied.symm.trans idle
  · intro ceased
    have ceased := ceased.2
    rw [settling.1] at ceased
    cases ceased
  · intro sight idle
    cases settling.1.symm.trans idle
  · intro after course _
    obtain ⟨moves, rfl⟩ := course.reached
    exact outcome?_run ((reached.run [.tick, .tick]).lawful promise) settled moves

/-- A stream that nobody works on has its handler parked beside a dry queue, unless it
is closed. -/
theorem parked_of_resting (reached : machine.Reached) (resting : machine.resting index)
    (attached : (machine.world.accumulator index).isAttached = true)
    (opened : (machine.world.accumulator index).closed = false) :
    ∃ handler, (machine.world.accumulator index).stage = .parked handler ∧
      (machine.world.accumulator index).queue = [] := by
  have handled := reached.handled index
  have marked := reached.marked index
  have dry := queue_of_resting handled marked resting attached
  cases stage : (machine.world.accumulator index).stage with
  | unattached => simp [Accumulator.isAttached, stage] at attached
  | parked handler => exact ⟨handler, rfl, dry⟩
  | draining =>
      obtain ⟨away, idle⟩ := resting
      rcases handled.taken stage with turning | calling
      · cases (show (machine.strand index).attention = .away from away).symm.trans turning
      · exact absurd idle calling
  | released => cases opened.symm.trans (marked.spent (.inl stage)).2

section Completing

variable {site : Site} {value : String} {during between : Machine}

theorem begin_complete (guards : site.Guards machine) (value : String) :
    machine.begin (.complete site.body value) =
      ((machine.hold site.body).push (.finishing site.promise value)).turn
        (.finish site.accumulator .finished) := by
  simp only [begin, guards.promise, guards.accumulator]

/-- A stream that is closed cannot be closed again, so the body is not completed. -/
theorem opened_of_completed (guards : site.Guards machine)
    (called : Called allow (.complete site.body value) machine after)
    (granted : after.control = .reply .ok) :
    (machine.world.accumulator site.accumulator).closed = false := by
  cases closed : (machine.world.accumulator site.accumulator).closed with
  | false => rfl
  | true =>
      have refused : Replies allow (site.completing value machine.stack)
          (· = .refused .streamClosed)
          (((machine.hold site.body).push (.finishing site.promise value)).turn
            (.finish site.accumulator .finished)) := by
        apply Replies.task
        have closed : ((((machine.hold site.body).push (.finishing site.promise value)).turn
          (.finish site.accumulator .finished)).world.accumulator site.accumulator).closed = true :=
            closed
        rw [perform, finish_closed closed]
        exact replies_over rfl rfl rfl
      have unsuccessful : Replies allow machine.stack (· ≠ .ok)
          (machine.begin (.complete site.body value)) := by
        rw [begin_complete guards]
        refine replies_unsuccessful (rises_turn.mpr (List.suffix_refl _)) (refused.weaken ?_)
        intro between _ refused reply replied
        exact .inl ⟨_, refused reply replied⟩
      exact absurd rfl (unsuccessful after called.course called.ceased .ok granted)

/-- When the stream was dealt with, everything about it is over, and the promise is
still to be settled. -/
theorem exhausted_between (reached : machine.Reached) (guards : site.Guards machine)
    (attached : (machine.world.accumulator site.accumulator).isAttached = true)
    (idle : machine.handlerCalls site.accumulator = [])
    (called : Called allow (.complete site.body value) machine after)
    (granted : after.control = .reply .ok)
    (above : Course allow (site.completing value machine.stack)
      (machine.begin (.complete site.body value)) between)
    (ceased : Over (site.completing value machine.stack) between)
    (below : Course allow machine.stack between after) :
    between.Exhausted site.accumulator ∧
      (between.world.promise site.promise).isDone = false ∧
      (after.world.promise site.promise).outcome? = some (.resolved value) ∧
      ∀ number, (machine.world.accumulator site.accumulator).stage = .parked (.client number) →
        machine.drops number < between.drops number := by
  have begun : (machine.begin (.complete site.body value)).Reached :=
    called.begun ▸ reached.run [.call (.complete site.body value)]
  have arrived : between.Reached := begun.course above
  have rises : Rises (site.completing value machine.stack) between := by
    refine ⟨ceased.1 ▸ List.suffix_refl _, fun sight idle => ?_⟩
    have ceased := ceased.2
    rw [idle] at ceased
    cases ceased
  -- Otherwise the call would not have succeeded.
  obtain ⟨reply, replied, closed, pending⟩ : ∃ reply, between.control = .reply reply ∧
      (∀ error, reply ≠ .refused error) ∧
        (between.world.promise site.promise).isDone = false := by
    refine Classical.byContradiction fun none => ?_
    have spoilt : ∀ reply, between.control = .reply reply →
        (∃ error, reply = .refused error) ∨
          (between.world.promise site.promise).isDone = true := by
      intro reply replied
      refine Classical.byContradiction fun sound => ?_
      obtain ⟨accepted, pending⟩ := not_or.mp sound
      exact none ⟨reply, replied, fun error same => accepted ⟨error, same⟩,
        Bool.eq_false_iff.mpr pending⟩
    have unsuccessful : Replies allow machine.stack (· ≠ .ok) between :=
      replies_unsuccessful rises (ends_of_over ceased spoilt)
    exact absurd rfl (unsuccessful after below called.ceased .ok granted)
  have opened := opened_of_completed guards called granted
  obtain ⟨sight, client⟩ := called.idle
  have resting : machine.resting site.accumulator := ⟨by rw [client]; rfl, idle⟩
  obtain ⟨handler, parked, dry⟩ := parked_of_resting reached resting attached opened
  have finishes : Ends allow (site.completing value machine.stack) _
      (((machine.hold site.body).push (.finishing site.promise value)).turn
        (.finish site.accumulator .finished)) :=
    ends_finish (begin_complete guards value ▸ begun) opened parked dry rfl
  rw [begin_complete guards] at above
  obtain ⟨dismisses, closing⟩ := finishes between above ceased
  obtain ⟨gone, whole, dropped⟩ := dismisses reply replied
  refine ⟨exhausted_of_released arrived gone whole closing, pending, ?_, ?_⟩
  · exact ends_resolving arrived ceased.1 replied closed pending after below called.ceased
  · intro number own
    exact dropped number (Stage.parked.inj (parked.symm.trans own))

end Completing

/-- When a body is completed with nobody calling its chunk handler, the handler is
done with before anyone hears of the value.  From the moment the promise is settled,
and so from the moment a completion handler is told, everything that was accepted was
handed over, every call of the handler has returned, it was told of the end exactly if
its last answer allowed that, it was let go, and it is not called any more. -/
theorem chunks_before_completion {body : Nat} {value : String} (reached : machine.Reached)
    (attached : (machine.world.accumulator (machine.world.body body).accumulator).isAttached = true)
    (idle : machine.handlerCalls (machine.world.body body).accumulator = [])
    (called : Called allow (.complete body value) machine after)
    (granted : after.control = .reply .ok) :
    let promise := (machine.world.body body).promise
    let stream := (machine.world.body body).accumulator
    machine.told promise = [] ∧
    (after.world.promise promise).outcome? = some (.resolved value) ∧
    ∀ during, Course allow machine.stack (machine.begin (.complete body value)) during →
      Course allow machine.stack during after →
      during.told promise ≠ [] ∨ (during.world.promise promise).isDone = true →
      (∀ number, (machine.world.accumulator stream).stage = .parked (.client number) →
        machine.drops number < during.drops number) ∧
      ∀ later : List Move,
        (∀ call ∈ (during.run later).told promise, call.2 = .resolved value) ∧
        (during.run later).Exhausted stream ∧
        (during.run later).streamPast stream = during.streamPast stream := by
  obtain ⟨site, rfl, guards⟩ := reached.guarded body (World.lt_of_owned called.admitted)
  rw [guards.accumulator] at attached idle
  simp only [guards.promise, guards.accumulator]
  have begun : (machine.begin (.complete site.body value)).Reached :=
    called.begun ▸ reached.run [.call (.complete site.body value)]
  have rises : Rises (site.completing value machine.stack)
      (machine.begin (.complete site.body value)) := by
    rw [begin_complete guards]
    exact rises_turn.mpr (List.suffix_refl _)
  have concluded {between : Machine} := @exhausted_between allow machine after site value between
    reached guards attached idle called granted
  -- The stream is dealt with before the call returns.
  obtain ⟨between, above, ceased, below⟩ : ∃ between,
      Course allow (site.completing value machine.stack)
        (machine.begin (.complete site.body value)) between ∧
      Over (site.completing value machine.stack) between ∧
      Course allow machine.stack between after := by
    rcases called.course.split rises with ⟨-, risen⟩ | landed
    · have longer := risen.1.length_le
      rw [called.ceased.1] at longer
      simp only [Site.completing, List.length_cons] at longer
      omega
    · exact landed
  obtain ⟨-, pending, resolved, -⟩ := concluded above ceased below
  refine ⟨told_pending reached (Bool.eq_false_iff.mpr fun settled => ?_), resolved, ?_⟩
  · obtain ⟨moves, rfl⟩ := above.reached
    rw [← called.begun] at pending
    have still := isDone_run reached settled (.call (.complete site.body value) :: moves)
    exact absurd (still.symm.trans pending) (by simp)
  · intro during course rest heard
    have moment : during.Reached := begun.course course
    have settled : (during.world.promise site.promise).isDone = true :=
      heard.elim (fun told => Classical.byContradiction fun pending =>
        told (told_pending moment (Bool.eq_false_iff.mpr pending))) id
    rcases course.split rises with ⟨-, risen⟩ | ⟨between, above, ceased, below⟩
    · -- Whoever settles the promise meanwhile keeps the call from its success.
      have unsuccessful : Replies allow machine.stack (· ≠ .ok) during :=
        replies_unsuccessful risen ((ends_settled moment settled).weaken
          fun _ _ answers reply replied => .inr (answers reply replied))
      exact absurd rfl (unsuccessful after rest called.ceased .ok granted)
    · obtain ⟨exhausted, -, -, dropped⟩ := concluded above ceased (below.trans rest)
      have arrived : between.Reached := begun.course above
      obtain ⟨outcome, stored⟩ := Option.isSome_iff_exists.mp settled
      have same : outcome = .resolved value := by
        obtain ⟨moves, rfl⟩ := rest.reached
        have kept := outcome?_run (moment.lawful site.promise) stored moves
        exact Option.some.inj (kept.symm.trans resolved)
      obtain ⟨moves, rfl⟩ := below.reached
      refine ⟨fun number own => ?_, fun later => ⟨?_, ?_⟩⟩
      · exact Nat.lt_of_lt_of_le (dropped number own) (between.drops_run number moves)
      · have kept := outcome?_run (moment.lawful site.promise) stored later
        rw [same] at kept
        exact (((moment.run later).lawful site.promise).settled _
          (Promise.outcome?_eq_some.mp kept)).2
      · have first := exhausted.run arrived moves
        rw [← run_append]
        have last := exhausted.run arrived (moves ++ later)
        exact ⟨last.1, last.2.trans first.2.symm⟩

/-- A body with a handler that was given a chunk, and somebody who waits for the body. -/
def awaited : Machine :=
  initial.run (.call (.newBody .usual) :: .replicate 3 .tick ++
    .call (.listen 0 3 .all) :: .replicate 2 .tick ++
    .call (.newHandler (.client 7)) :: .tick :: .call (.attach 0 0) :: .replicate 5 .tick ++
      .call (.send 0 [97]) :: .replicate 4 .tick ++ .answer (.flag true) :: .replicate 10 .tick)

/-- The handler tries to send another chunk when it is told of the end, up to the moment
the one who waits is told. -/
def lastWords : List Move :=
  .replicate 4 .tick ++ .call (.send 0 [98]) :: .replicate 3 .tick ++
    .answer .done :: .replicate 13 .tick

def heard : Machine :=
  (awaited.begin (.complete 0 "done")).run lastWords

theorem chunks_before_completion_told :
    awaited.handlerCalls 0 = [] ∧
      (heard.run (.answer .done :: .replicate 5 .tick)).control = .reply .ok ∧
      (heard.told 0).map Prod.fst = [0, 1] ∧ heard.Exhausted 0 ∧ heard.handed 0 = [[97]] ∧
      heard.ends 0 = 1 := by
  have course : Course (fun _ _ => True) [] (awaited.begin (.complete 0 "done")) heard :=
    course_run lastWords (by decide) fun _ _ _ => trivial
  have rest : Course (fun _ _ => True) [] heard (heard.run (.answer .done :: .replicate 5 .tick)) :=
    course_run _ (by decide) fun _ _ _ => trivial
  have called : Called (fun _ _ => True) (.complete 0 "done") awaited
      (heard.run (.answer .done :: .replicate 5 .tick)) :=
    ⟨⟨_, rfl⟩, rfl, course.trans rest, rfl, rfl⟩
  have law := @chunks_before_completion _ _ _ 0 "done" ⟨_, rfl⟩ (by decide) (by decide) called rfl
  have settled : (heard.world.promise (awaited.world.body 0).promise).isDone = true := by decide
  obtain ⟨-, exhausted, -⟩ := (law.2.2 heard course rest (.inr settled)).2 []
  rw [run_nil] at exhausted
  exact ⟨by decide, rfl, by decide, exhausted, by decide, by decide⟩

end Machine

end Handoff
