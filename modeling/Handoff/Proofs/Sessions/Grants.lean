import Handoff.Proofs.Bodies.Handing
import Handoff.Proofs.Promises.Dispatch
import Handoff.Proofs.Sessions.Rejections

namespace Handoff

/-! Operations that are not refused.

An operation whose reason to be refused does not hold when it begins succeeds.  Its
handlers do not call the library, so nothing happens on the way that could make it
fail: the promise of a body stays pending while its stream is closed. -/

/-- The reply to an operation that succeeds. -/
def Operation.success (operation : Operation) (machine : Machine) : Reply :=
  match operation with
  | .text _ => .made machine.world.promises.size
  | .chunks => .made machine.world.channels.size
  | .listen _ _ | .log _ => .done
  | .poll channel => .polled (machine.world.channel channel).poll.1
  | _ => .ok

theorem Operation.isRefused_success (operation : Operation) (machine : Machine) :
    (operation.success machine).isRefused = false := by
  cases operation <;> rfl

namespace Machine

variable {allow : Machine → Move → Prop} {base : List Frame} {answers : Reply → Prop}
  {machine after : Machine} {site : Site} {sight : Sight} {client : Client}

/-- Work above `base` can only end with certain replies. -/
def Replies (allow : Machine → Move → Prop) (base : List Frame) (answers : Reply → Prop)
    (machine : Machine) : Prop :=
  Ends allow base (fun after => ∀ reply, after.control = .reply reply → answers reply) machine

theorem rises_pushed {frame : Frame} {task : Task} (bottom : machine.stack = base) :
    Rises (frame :: base) ((machine.push frame).turn task) := by
  rw [← bottom]
  exact rises_turn.mpr (List.suffix_refl _)

theorem Replies.task {task : Task}
    (rest : Replies allow base answers ((machine.turn task).perform task)) :
    Replies allow base answers (machine.turn task) :=
  ends_task rest

theorem replies_over {reply : Reply} (bottom : machine.stack = base)
    (replied : machine.control = .reply reply) (holds : answers reply) :
    Replies allow base answers machine := by
  refine ends_of_over ⟨bottom, by rw [replied]; rfl⟩ fun answer same => ?_
  cases replied.symm.trans same
  exact holds

theorem replies_panicking {message : String} (bottom : machine.stack = base)
    (panicking : machine.control = .panic message) : Replies allow base answers machine := by
  refine ends_of_over ⟨bottom, by rw [panicking]; rfl⟩ fun answer same => ?_
  cases panicking.symm.trans same

theorem replies_rethrowing {message : String}
    (rises : Rises (.rethrowing message :: base) machine) :
    Replies allow base answers machine := by
  refine (ends_rethrowing rises).weaken ?_
  rintro after - ⟨message, panicking⟩ answer replied
  cases panicking.symm.trans replied

theorem replies_replying {reply : Reply} (rises : Rises (.replying reply :: base) machine)
    (holds : answers reply) : Replies allow base answers machine :=
  (Site.ends_replying rises).weaken fun _ _ same answer replied =>
    (same answer replied).symm ▸ holds

/-- A panic goes on when the sender is let go. -/
theorem replies_unwind_leaving {below : Machine} {body : Nat} {message : String}
    (bottom : below.stack = base) :
    Replies allow base answers (below.unwind message (.leaving body)) := by
  simp only [unwind, leave]
  split
  · exact replies_rethrowing (rises_pushed bottom)
  · exact replies_panicking bottom rfl

/-- Whoever held the sender passes on what the call replied. -/
theorem replies_leaving {body : Nat} (rises : Rises (.leaving body :: base) machine)
    (above : Replies allow (.leaving body :: base) answers machine) :
    Replies allow base answers machine := by
  refine ends_frame rises above ?_ ?_
  · intro below reply bottom replied holds
    simp only [resume, leave]
    split
    · exact replies_replying (rises_pushed bottom) (holds reply replied)
    · exact replies_over bottom rfl (holds reply replied)
  · exact fun below message bottom _ _ => replies_unwind_leaving bottom

theorem ends_reached (reached : machine.Reached) : Ends allow base Reached machine :=
  fun _ course _ => reached.course course

theorem replies_settle {index : Nat} {outcome : Outcome} (reached : machine.Reached)
    (working : machine.control = .task (.settle index outcome)) (bottom : machine.stack = base)
    (pending : (machine.world.promise index).isDone = false) :
    Replies allow base (· = .ok) machine := by
  obtain ⟨moves, rfl⟩ := reached
  obtain ⟨lawful, numbered⟩ := cord_laws index moves
  subst bottom
  exact fun after course ceased reply replied =>
    ((settles_pending lawful numbered working pending).2.2 after course ceased reply replied).1

theorem replies_deliver {index : Nat} {bytes : Bytes}
    (accepted : (machine.world.accumulator index).refusal? bytes = none)
    (bottom : machine.stack = base) :
    Replies allow base (· = .ok) (machine.turn (.deliver index bytes)) := by
  refine .task (replies_replying ?_ rfl)
  have accepted : ((machine.turn (.deliver index bytes)).world.accumulator index).refusal? bytes =
      none := accepted
  simp only [perform, deliver, accepted]
  split <;> exact rises_pushed bottom

theorem replies_finish {index : Nat} {ending : Ending}
    (opened : (machine.world.accumulator index).closed = false) (bottom : machine.stack = base) :
    Replies allow base (· = .ok) (machine.turn (.finish index ending)) := by
  refine .task (replies_replying ?_ rfl)
  have opened : ((machine.turn (.finish index ending)).world.accumulator index).closed = false :=
    opened
  simp only [perform, finish, opened]
  exact rises_pushed bottom

theorem replies_attach {index : Nat} {handler : ChunkHandler}
    (unattached : (machine.world.accumulator index).isAttached = false)
    (bottom : machine.stack = base) :
    Replies allow base (· = .ok) (machine.turn (.attach index handler)) := by
  refine .task (replies_replying ?_ rfl)
  have unattached : ((machine.turn (.attach index handler)).world.accumulator index).isAttached =
      false := unattached
  simp only [perform, attach, unattached]
  exact rises_pushed bottom

/-- A handler of the client is let go once it was told. -/
theorem replies_forgetting {handler : CompletionHandler} (free : handler.isFree = true)
    (rises : Rises (.forgetting [handler] :: base) machine) :
    Replies allow base (· = .done) machine := by
  refine ends_frame rises (fun _ _ _ => trivial : Ends allow _ (fun _ => True) machine) ?_ ?_
  · intro below reply bottom _ _
    cases handler with
    | client _ _ => exact Replies.task (replies_over bottom rfl rfl)
    | logging _ => exact Replies.task (replies_over bottom rfl rfl)
    | _ => cases free
  · intro below message bottom _ _
    exact replies_rethrowing (rises_pushed bottom)

theorem replies_register {index : Nat} {handler : CompletionHandler}
    (free : handler.isFree = true) (bottom : machine.stack = base) :
    Replies allow base (· = .done) (machine.turn (.register index handler)) := by
  refine .task ?_
  simp only [perform, register]
  split
  · exact replies_over bottom rfl rfl
  · exact replies_forgetting free (rises_pushed bottom)

/-- A hand-over succeeds when its handler was attached. -/
theorem replies_texting {index derived : Nat}
    (rises : Rises (.texting index derived :: base) machine)
    (above : Replies allow (.texting index derived :: base) (· = .ok) machine) :
    Replies allow base (· = .made derived) machine := by
  refine ends_frame rises above ?_ ?_
  · intro below reply bottom replied attached
    obtain rfl := attached reply replied
    exact replies_replying (rises_pushed bottom) rfl
  · intro below message bottom _ _
    exact replies_rethrowing (rises_pushed bottom)

theorem replies_streaming {index channel : Nat}
    (rises : Rises (.streaming index channel :: base) machine)
    (above : Replies allow (.streaming index channel :: base) (· = .ok) machine) :
    Replies allow base (· = .made channel) machine := by
  refine ends_frame rises above ?_ ?_
  · intro below reply bottom replied attached
    obtain rfl := attached reply replied
    exact replies_replying (rises_pushed bottom) rfl
  · intro below message bottom panicking _
    exact replies_panicking bottom panicking

/-- The promise of a body stays as it is while its stream is closed. -/
theorem ends_pending (grounds : site.Grounds machine) (ending : Ending) :
    Ends client.plays machine.stack
      (fun after => (after.world.promise site.promise).isDone =
        (machine.world.promise site.promise).isDone)
      (machine.turn (.finish site.accumulator ending)) := by
  have played (before : Machine) (move : Move) (played : client.plays before move) :
      move.In site.besides before.world := by
    rcases client.move_cases before with ticked | ⟨reply, answered⟩
    · rw [played, ticked]
      trivial
    · rw [played, answered]
      trivial
  have entered : (Task.finish site.accumulator ending).In site.besides machine.world := trivial
  refine (ends_inside grounds.opened (fun before move _ _ => played before move)
    (rises_turn.mpr (List.suffix_refl _)) (grounds.works.turn entered)).weaken ?_
  intro after _ inside
  have kept := (inside.kept.promises site.promise fun other => other rfl).outcome?
  rw [Promise.isDone, Promise.isDone, kept]

theorem tick_frame {below : Machine} {reply : Reply} (replied : below.control = .reply reply)
    (frame : Frame) : (below.push frame).tick = below.resume reply frame := by
  obtain ⟨world, stack, control, journal⟩ := below
  obtain rfl : control = .reply reply := replied
  rfl

/-- When the stream was dealt with, the promise is settled. -/
theorem ends_concluding {frame : Frame} {index : Nat} {outcome : Outcome}
    {middle goal : Machine → Prop} (reached : machine.Reached)
    (rises : Rises (frame :: base) machine) (above : Ends allow (frame :: base) middle machine)
    (resumed : ∀ (below : Machine) (reply : Reply), below.control = .reply reply →
      middle (below.push frame) →
        below.resume reply frame = below.turn (.settle index outcome))
    (unwound : ∀ (below : Machine) (message : String), below.unwind message frame = below)
    (settles : ∀ below : Machine, below.stack = base → middle (below.push frame) →
      (below.turn (.settle index outcome)).Reached →
        Ends allow base goal (below.turn (.settle index outcome)))
    (panics : ∀ (below : Machine) (message : String), below.control = .panic message → goal below) :
    Ends allow base goal machine := by
  have shut : Ends allow (frame :: base) (fun after => middle after ∧ after.Reached) machine :=
    fun after course ceased => ⟨above after course ceased, ends_reached reached after course ceased⟩
  refine ends_frame rises shut ?_ ?_
  · rintro below reply bottom replied ⟨holds, reached⟩
    have went := resumed below reply replied holds
    rw [went]
    refine settles below bottom holds ?_
    rw [← went, ← tick_frame replied]
    exact reached.run [.tick]
  · rintro below message bottom panicking -
    rw [unwound]
    exact ends_of_over ⟨bottom, by rw [panicking]; rfl⟩ (panics below message panicking)

/-- A body that is pending when its stream is closed can be settled afterwards. -/
theorem replies_concluding {frame : Frame} {ending : Ending} {outcome : Outcome}
    {middle : Reply → Prop} (grounds : site.Grounds machine)
    (reached : ((machine.push frame).turn (.finish site.accumulator ending)).Reached)
    (pending : (machine.world.promise site.promise).isDone = false)
    (above : Replies client.plays (frame :: machine.stack) middle
      ((machine.push frame).turn (.finish site.accumulator ending)))
    (resumed : ∀ (below : Machine) (reply : Reply), middle reply →
      below.resume reply frame = below.turn (.settle site.promise outcome))
    (unwound : ∀ (below : Machine) (message : String), below.unwind message frame = below) :
    Replies client.plays machine.stack (· = .ok)
      ((machine.push frame).turn (.finish site.accumulator ending)) := by
  have pushed : site.Grounds (machine.push frame) := grounds.same rfl
  have shut : Ends client.plays (frame :: machine.stack) (fun after =>
      (∀ reply, after.control = .reply reply → middle reply) ∧
        (after.world.promise site.promise).isDone = (machine.world.promise site.promise).isDone)
      ((machine.push frame).turn (.finish site.accumulator ending)) :=
    fun after course ceased => ⟨above after course ceased,
      ends_pending pushed ending after course ceased⟩
  refine ends_concluding reached (rises_pushed rfl) shut
    (fun below reply replied holds => resumed below reply (holds.1 reply replied)) unwound
    (fun below bottom holds settling => ?_) fun below message panicking reply replied => ?_
  · exact replies_settle settling rfl bottom (holds.2.trans pending)
  · cases panicking.symm.trans replied

/-- A call on the sender that closes the stream of a pending body and then settles it. -/
theorem replies_held {frame : Frame} {ending : Ending} {outcome : Outcome} {middle : Reply → Prop}
    (guards : site.Guards machine) (empty : machine.stack = [])
    (reached : (((machine.hold site.body).push frame).turn
      (.finish site.accumulator ending)).Reached)
    (pending : (machine.world.promise site.promise).isDone = false)
    (above : Replies client.plays (frame :: (machine.hold site.body).stack) middle
      (((machine.hold site.body).push frame).turn (.finish site.accumulator ending)))
    (resumed : ∀ (below : Machine) (reply : Reply), middle reply →
      below.resume reply frame = below.turn (.settle site.promise outcome))
    (unwound : ∀ (below : Machine) (message : String), below.unwind message frame = below) :
    Replies client.plays [] (· = .ok)
      (((machine.hold site.body).push frame).turn (.finish site.accumulator ending)) := by
  have hold : site.Grounds (machine.hold site.body) :=
    (guards.toGrounds.setBody (machine.world.body site.body).addSender.senders
      (machine.world.body site.body).owned).1.same rfl
  have stack : (machine.hold site.body).stack = [.leaving site.body] :=
    congrArg (Frame.leaving site.body :: ·) empty
  have settled := replies_concluding hold reached pending above resumed unwound
  rw [stack] at settled
  exact replies_leaving (rises_turn.mpr (stack ▸ List.suffix_cons _ _)) settled

/-- A body whose stream is open is pending. -/
theorem pending_of_opened (guards : site.Guards machine) (idle : machine.control = .client sight)
    (opened : (machine.world.accumulator site.accumulator).closed = false) :
    (machine.world.promise site.promise).isDone = false := by
  cases settled : (machine.world.promise site.promise).isDone with
  | false => rfl
  | true => cases opened.symm.trans (guards.closed_idle idle settled)

/-- An operation that is not refused when it begins succeeds. -/
theorem replies_granted {operation : Operation} (guards : site.Guards machine)
    (reached : machine.Reached) (empty : machine.stack = []) (idle : machine.control = .client sight)
    (admitted : operation.Admitted site.body machine)
    (granted : operation.refusal? site.body machine = none) :
    Replies client.plays [] (· = operation.success machine)
      (machine.run (operation.moves site.body machine)) := by
  have begun := reached.run (operation.moves site.body machine)
  have not_of {P : Prop} [Decidable P] {error : Error}
      (same : (if P then some error else none) = none) : ¬ P := by
    split at same
    case isTrue => cases same
    case isFalse other => exact other
  cases operation with
  | send bytes =>
      rw [run_moves idle rfl admitted]
      have stack : (machine.hold site.body).stack = [.leaving site.body] :=
        congrArg (Frame.leaving site.body :: ·) empty
      exact replies_leaving (rises_turn.mpr (stack ▸ List.suffix_refl _))
        (replies_deliver granted stack)
  | complete value =>
      have opened : (machine.world.accumulator site.accumulator).closed = false := by
        have opened := not_of granted
        rwa [guards.accumulator, Bool.not_eq_true] at opened
      have called : machine.run ((Operation.complete value).moves site.body machine) =
          ((machine.hold site.body).push (.finishing site.promise value)).turn
            (.finish site.accumulator .finished) := by
        rw [run_moves idle rfl admitted]
        simp only [Operation.call, begin, guards.promise, guards.accumulator]
      rw [called] at begun ⊢
      have ended : Replies client.plays (.finishing site.promise value :: (machine.hold site.body).stack)
          (· = .ok) (((machine.hold site.body).push (.finishing site.promise value)).turn
            (.finish site.accumulator .finished)) := replies_finish opened rfl
      exact replies_held guards empty begun (pending_of_opened guards idle opened) ended
        (fun below reply same => by rw [same]; rfl) (fun _ _ => rfl)
  | fail outcome =>
      have pending : (machine.world.promise site.promise).isDone = false := by
        have pending := not_of granted
        rwa [guards.promise, Bool.not_eq_true] at pending
      have called : machine.run ((Operation.fail outcome).moves site.body machine) =
          ((machine.hold site.body).push (.settling site.promise outcome)).turn
            (.finish site.accumulator .aborted) := by
        rw [run_moves idle rfl admitted]
        simp only [Operation.call, begin, guards.promise, guards.accumulator]
      rw [called] at begun ⊢
      have ended : Replies client.plays (.settling site.promise outcome :: (machine.hold site.body).stack)
          (fun _ => True) (((machine.hold site.body).push (.settling site.promise outcome)).turn
            (.finish site.accumulator .aborted)) := fun _ _ _ _ _ => trivial
      exact replies_held guards empty begun pending ended (fun _ _ _ => rfl) (fun _ _ => rfl)
  | cancel force =>
      have pending := not_of granted
      rw [Bool.not_eq_true] at pending
      rw [run_moves idle rfl admitted] at begun ⊢
      exact replies_settle begun rfl empty pending
  | deliver bytes =>
      rw [run_moves idle rfl admitted]
      exact replies_deliver granted empty
  | finish ending =>
      rw [run_moves idle rfl admitted]
      exact replies_finish (Bool.eq_false_iff.mpr (not_of granted)) empty
  | attach handler =>
      rw [run_attach empty idle admitted]
      have unattached := Bool.eq_false_iff.mpr (not_of granted)
      refine replies_attach ?_ ?_
      · cases handler <;> exact unattached
      · cases handler <;> exact empty
  | text charset =>
      rw [run_moves idle rfl admitted]
      have attached := @replies_attach client.plays [.texting site.body machine.world.promises.size]
        ((machine.withPromise (.inside 2)).push (.texting site.body machine.world.promises.size))
      exact replies_texting (rises_pushed empty)
        (attached (Bool.eq_false_iff.mpr (not_of granted)) (congrArg _ empty))
  | chunks =>
      rw [run_moves idle rfl admitted]
      have attached := @replies_attach client.plays [.streaming site.body machine.world.channels.size]
        ((machine.withWorld (machine.world.addChannel .new)).push
          (.streaming site.body machine.world.channels.size))
      exact replies_streaming (rises_pushed empty)
        (attached (Bool.eq_false_iff.mpr (not_of granted)) (congrArg _ empty))
  | listen handler hearing =>
      rw [run_moves idle rfl admitted]
      exact replies_register rfl empty
  | log name =>
      rw [run_moves idle rfl admitted]
      exact replies_register rfl empty
  | poll channel =>
      rw [run_moves idle rfl admitted]
      exact replies_over empty rfl rfl

end Machine

/-- What an operation that is not refused replies. -/
theorem Performs.granted {client : Client} {operation : Operation} {reply : Reply}
    {before after : Machine} {site : Site} {sight : Sight}
    (performs : Performs client site.body operation before reply after)
    (guards : site.Guards before) (reached : before.Reached) (empty : before.stack = [])
    (idle : before.control = .client sight)
    (granted : operation.refusal? site.body before = none) :
    reply = operation.success before := by
  obtain ⟨between, course, bottom, replied, -⟩ := performs.course
  exact Machine.replies_granted guards reached empty idle performs.admitted granted between course
    ⟨bottom, by rw [replied]; rfl⟩ reply replied

end Handoff
