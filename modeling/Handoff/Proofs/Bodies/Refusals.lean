import Handoff.Proofs.Bodies.Births

namespace Handoff

/-! A settled body refuses everything.

Whenever client code runs and a body is settled, its stream is closed.  Calls that
would add to the stream, end it, or settle the body are then refused by the library
alone: no handler is called, and no object is left other than it was. -/

theorem Store.set_get_same {α : Type} [Inhabited α] (store : Store α) {index : Nat}
    (made : index < store.size) (value : α) :
    (store.set index value).set index (store.get index) = store := by
  obtain ⟨rows⟩ := store
  have made : index < rows.length := made
  have again : index < (rows.set index value).length := by simpa using made
  simp [Store.set, Store.get, Store.size, made]

/-- The error with which a settled body refuses a call. -/
def World.verdict? (world : World) (body : Nat) : Call → Option Error
  | .deliver accumulator _ | .finish accumulator _ =>
      if accumulator = (world.body body).accumulator then some .streamClosed else none
  | .send index _ | .complete index _ => if index = body then some .streamClosed else none
  | .fail index _ => if index = body then some .alreadyCompleted else none
  | .cancel promise _ =>
      if promise = (world.body body).promise then some .alreadyCompleted else none
  | _ => none

namespace Machine

variable {machine : Machine} {site : Site}

/-- The library answers a call alone: client code does not run before the reply,
and afterwards everything is as it was, except that the log is longer. -/
def Declines (machine : Machine) (call : Call) (error : Error) : Prop :=
  ∃ (count : Nat) (notices : List Notice),
    (∀ earlier ≤ count, ∀ sight,
      ((machine.act (.call call)).run (.replicate earlier .tick)).control ≠ .client sight) ∧
    (machine.act (.call call)).run (.replicate count .tick) =
      { machine with
        control := .reply (.refused error)
        journal := notices.map .notice ++ machine.journal }

/-- The states that a call goes through before its reply. -/
inductive Passes : Nat → Machine → Machine → Prop
  | arrived {machine : Machine} {reply : Reply} (replied : machine.control = .reply reply) :
      Passes 0 machine machine
  | tick {count : Nat} {machine next after : Machine}
      (working : ∀ sight, machine.control ≠ .client sight) (same : machine.tick = next)
      (rest : Passes count next after) : Passes (count + 1) machine after

theorem Passes.run {count : Nat} {machine after : Machine} (passes : Passes count machine after) :
    machine.run (.replicate count .tick) = after ∧
      ∀ earlier ≤ count, ∀ sight,
        (machine.run (.replicate earlier .tick)).control ≠ .client sight := by
  induction passes with
  | arrived replied =>
      refine ⟨rfl, fun earlier none sight => ?_⟩
      obtain rfl := Nat.le_zero.mp none
      rw [List.replicate_zero, run_nil, replied]
      exact fun same => by cases same
  | tick working same rest ih =>
      refine ⟨?_, fun earlier few sight => ?_⟩
      · rw [List.replicate_succ, run_cons]
        exact (congrArg (Machine.run · _) same).trans ih.1
      · cases earlier with
        | zero => exact working sight
        | succ earlier =>
            rw [List.replicate_succ, run_cons]
            have later := ih.2 earlier (Nat.le_of_succ_le_succ few) sight
            rwa [← same] at later

theorem declines_of_passes {call : Call} {error : Error} {sight : Sight} {count : Nat}
    (idle : machine.control = .client sight) (admitted : machine.world.admits call = true)
    (notices : List Notice)
    (passes : Passes count (machine.begin call) { machine with
      control := .reply (.refused error)
      journal := notices.map .notice ++ machine.journal }) : machine.Declines call error := by
  have begun : machine.act (.call call) = machine.begin call := act_call idle admitted
  refine ⟨count, notices, ?_, ?_⟩
  · rw [begun]
    exact passes.run.2
  · rw [begun]
    exact passes.run.1

/-- A call that held the sender lets go of it. -/
theorem tick_leaving (guards : site.Guards machine)
    (owned : (machine.world.body site.body).owned = true) (reply : Reply) (journal : List Entry) :
    ({ machine.hold site.body with control := .reply reply, journal } : Machine).tick =
      { machine with control := .reply reply, journal } := by
  have held := guards.counts
  rw [Site.Counts, owned, Bool.toNat_true] at held
  have row : (machine.hold site.body).world.body site.body =
      (machine.world.body site.body).addSender :=
    (body_setBody _ _ _ _).trans (if_pos rfl)
  have back : ((machine.world.body site.body).addSender).removeSender =
      machine.world.body site.body := rfl
  have still : (machine.hold site.body).world.setBody site.body (machine.world.body site.body) =
      machine.world := by
    have table := Store.set_get_same machine.world.bodies guards.toGrounds.body_made
      (machine.world.body site.body).addSender
    exact congrArg (fun bodies => { machine.world with bodies }) table
  have busy : (machine.world.body site.body).senders ≠ 0 := by omega
  have left : ({ machine with
      world := (machine.hold site.body).world, control := .reply reply, journal } : Machine).leave
        site.body (.replying reply) (.reply reply) =
          { machine with control := .reply reply, journal } := by
    simp only [leave, row, back, setBody, withWorld, still, busy, if_false]
  exact left

theorem deliver_refused {index : Nat} {bytes : Bytes} {error : Error}
    (refused : (machine.world.accumulator index).refusal? bytes = some error) :
    machine.deliver index bytes = machine.reply (.refused error) := by
  simp [deliver, refused]

theorem refusal?_closed {index : Nat} (closed : (machine.world.accumulator index).closed = true)
    (bytes : Bytes) : (machine.world.accumulator index).refusal? bytes = some .streamClosed := by
  simp [Accumulator.refusal?, closed]

theorem finish_closed {index : Nat} (closed : (machine.world.accumulator index).closed = true)
    (ending : Ending) : machine.finish index ending = machine.reply (.refused .streamClosed) := by
  simp [finish, closed]

theorem settle_done {index : Nat} (done : (machine.world.promise index).isDone = true)
    (outcome : Outcome) : machine.settle index outcome =
      (machine.log (.duplicateRejected outcome.status)).reply (.refused .alreadyCompleted) := by
  obtain ⟨first, stored⟩ := Option.isSome_iff_exists.mp done
  simp [settle, Promise.outcome?_eq_some.mp stored]

/-! What a call goes through that is refused. -/

section Passing

variable (guards : site.Guards machine)
  (closed : (machine.world.accumulator site.accumulator).closed = true)
  (settled : (machine.world.promise site.promise).isDone = true)

theorem passes_deliver {index : Nat} {bytes : Bytes} {error : Error}
    (refused : (machine.world.accumulator index).refusal? bytes = some error) :
    Passes 1 (machine.begin (.deliver index bytes)) (machine.reply (.refused error)) :=
  .tick (by simp [begin]) (@deliver_refused (machine.turn _) _ _ _ refused) (.arrived rfl)

theorem passes_finish {index : Nat} (closed : (machine.world.accumulator index).closed = true)
    (ending : Ending) :
    Passes 1 (machine.begin (.finish index ending)) (machine.reply (.refused .streamClosed)) :=
  .tick (by simp [begin]) (@finish_closed (machine.turn _) _ closed ending) (.arrived rfl)

theorem passes_cancel {index : Nat} (settled : (machine.world.promise index).isDone = true)
    (force : Bool) : Passes 1 (machine.begin (.cancel index force))
      ((machine.log (.duplicateRejected .cancelled)).reply (.refused .alreadyCompleted)) :=
  .tick (by simp [begin]) (@settle_done (machine.turn _) _ settled _) (.arrived rfl)

include guards in
theorem passes_send {bytes : Bytes} {error : Error}
    (owned : (machine.world.body site.body).owned = true)
    (refused : (machine.world.accumulator site.accumulator).refusal? bytes = some error) :
    Passes 2 (machine.begin (.send site.body bytes)) (machine.reply (.refused error)) := by
  have refused : (machine.begin (.send site.body bytes)).tick =
      { machine.hold site.body with control := .reply (.refused error) } := by
    simp only [begin, guards.accumulator]
    exact @deliver_refused ((machine.hold site.body).turn _) _ _ _ refused
  exact .tick (by simp [begin]) refused
    (.tick (by simp) (tick_leaving guards owned _ _) (.arrived rfl))

include guards closed in
theorem passes_complete (owned : (machine.world.body site.body).owned = true) (value : String) :
    Passes 3 (machine.begin (.complete site.body value))
      (machine.reply (.refused .streamClosed)) := by
  have refused : (machine.begin (.complete site.body value)).tick =
      { (machine.hold site.body).push (.finishing site.promise value) with
        control := .reply (.refused .streamClosed) } := by
    simp only [begin, guards.accumulator, guards.promise]
    exact @finish_closed (((machine.hold site.body).push _).turn _) _ closed .finished
  have resumed : ({ (machine.hold site.body).push (.finishing site.promise value) with
      control := .reply (.refused .streamClosed) } : Machine).tick =
        { machine.hold site.body with control := .reply (.refused .streamClosed) } := rfl
  exact .tick (by simp [begin]) refused
    (.tick (by simp) resumed (.tick (by simp) (tick_leaving guards owned _ _) (.arrived rfl)))

include guards closed settled in
theorem passes_fail (owned : (machine.world.body site.body).owned = true) (outcome : Outcome) :
    Passes 4 (machine.begin (.fail site.body outcome))
      ((machine.log (.duplicateRejected outcome.status)).reply (.refused .alreadyCompleted)) := by
  have refused : (machine.begin (.fail site.body outcome)).tick =
      { (machine.hold site.body).push (.settling site.promise outcome) with
        control := .reply (.refused .streamClosed) } := by
    simp only [begin, guards.accumulator, guards.promise]
    exact @finish_closed (((machine.hold site.body).push _).turn _) _ closed .aborted
  have resumed : ({ (machine.hold site.body).push (.settling site.promise outcome) with
      control := .reply (.refused .streamClosed) } : Machine).tick =
        (machine.hold site.body).turn (.settle site.promise outcome) := rfl
  have rejected : ((machine.hold site.body).turn (.settle site.promise outcome)).tick =
      { machine.hold site.body with
        control := .reply (.refused .alreadyCompleted)
        journal := .notice (.duplicateRejected outcome.status) :: machine.journal } :=
    @settle_done ((machine.hold site.body).turn _) _ settled outcome
  exact .tick (by simp [begin]) refused (.tick (by simp) resumed (.tick (by simp) rejected
    (.tick (by simp) (tick_leaving guards owned _ _) (.arrived rfl))))

end Passing

section Settled

variable {sight : Sight} (guards : site.Guards machine) (idle : machine.control = .client sight)
  (closed : (machine.world.accumulator site.accumulator).closed = true)
  (settled : (machine.world.promise site.promise).isDone = true)

include idle closed in
theorem declines_deliver (made : machine.world.admits (.deliver site.accumulator bytes) = true) :
    machine.Declines (.deliver site.accumulator bytes) .streamClosed :=
  declines_of_passes idle made [] (passes_deliver (refusal?_closed closed bytes))

include idle closed in
theorem declines_finish (made : machine.world.admits (.finish site.accumulator ending) = true) :
    machine.Declines (.finish site.accumulator ending) .streamClosed :=
  declines_of_passes idle made [] (passes_finish closed ending)

include idle settled in
theorem declines_cancel {force : Bool}
    (made : machine.world.admits (.cancel site.promise force) = true) :
    machine.Declines (.cancel site.promise force) .alreadyCompleted :=
  declines_of_passes idle made [.duplicateRejected .cancelled] (passes_cancel settled force)

include guards idle closed in
theorem declines_send {bytes : Bytes}
    (made : machine.world.admits (.send site.body bytes) = true) :
    machine.Declines (.send site.body bytes) .streamClosed :=
  declines_of_passes idle made [] (passes_send guards made (refusal?_closed closed bytes))

include guards idle closed in
theorem declines_complete {value : String}
    (made : machine.world.admits (.complete site.body value) = true) :
    machine.Declines (.complete site.body value) .streamClosed :=
  declines_of_passes idle made [] (passes_complete guards closed made value)

include guards idle closed settled in
theorem declines_fail {outcome : Outcome}
    (made : machine.world.admits (.fail site.body outcome) = true) :
    machine.Declines (.fail site.body outcome) .alreadyCompleted :=
  declines_of_passes idle made [.duplicateRejected outcome.status]
    (passes_fail guards closed settled (Bool.and_eq_true_iff.mp made).1 outcome)

end Settled

/-- Whenever client code runs and a body is settled, its stream is closed, and
everything that would change the body is refused. -/
theorem closed_of_settled (moves : List Move) {sight : Sight} {body : Nat}
    (reached : initial.run moves = machine) (idle : machine.control = .client sight)
    (made : body < machine.world.bodies.size)
    (settled : (machine.world.promise (machine.world.body body).promise).isDone = true) :
    (machine.world.accumulator (machine.world.body body).accumulator).closed = true ∧
      ∀ call error, machine.world.verdict? body call = some error →
        machine.world.admits call = true → machine.Declines call error := by
  have arrived : machine.Reached := ⟨moves, reached⟩
  obtain ⟨site, rfl, guards⟩ := arrived.guarded body made
  rw [guards.promise] at settled
  have closed : (machine.world.accumulator site.accumulator).closed = true := by
    refine (guards.shut settled).closed ?_
    rw [idle]
    exact id
  refine ⟨by rw [guards.accumulator]; exact closed, fun call error verdict admitted => ?_⟩
  have named {P : Prop} [Decidable P] {first : Error}
      (same : (if P then some first else none) = some error) : P ∧ first = error := by
    split at same
    case isTrue holds => exact ⟨holds, Option.some.inj same⟩
    case isFalse => cases same
  cases call with
  | deliver accumulator bytes =>
      obtain ⟨rfl, rfl⟩ := named verdict
      rw [guards.accumulator] at admitted ⊢
      exact declines_deliver idle closed admitted
  | finish accumulator ending =>
      obtain ⟨rfl, rfl⟩ := named verdict
      rw [guards.accumulator] at admitted ⊢
      exact declines_finish idle closed admitted
  | cancel promise force =>
      obtain ⟨rfl, rfl⟩ := named verdict
      rw [guards.promise] at admitted ⊢
      exact declines_cancel idle settled admitted
  | send index bytes =>
      obtain ⟨rfl, rfl⟩ := named verdict
      exact declines_send guards idle closed admitted
  | complete index value =>
      obtain ⟨rfl, rfl⟩ := named verdict
      exact declines_complete guards idle closed admitted
  | fail index outcome =>
      obtain ⟨rfl, rfl⟩ := named verdict
      exact declines_fail guards idle closed settled admitted
  | _ => cases verdict

/-- A handler learns that a body was cancelled, and its call is still to return. -/
def cancelledInside : List Move :=
  .call (.newBody .usual) :: .replicate 3 .tick ++ .call (.listen 0 7 .all) :: .replicate 2 .tick ++
    .call (.cancel 0 true) :: .replicate 11 .tick

theorem closed_of_settled_inside :
    ((initial.run cancelledInside).world.accumulator 0).closed = true ∧
      (initial.run cancelledInside).Declines (.fail 0 (.cancelled false)) .alreadyCompleted := by
  have law := @closed_of_settled (initial.run cancelledInside) cancelledInside .called 0 rfl rfl
    (by decide) (by decide)
  exact ⟨law.1, law.2 (.fail 0 (.cancelled false)) .alreadyCompleted rfl rfl⟩

end Machine

end Handoff
