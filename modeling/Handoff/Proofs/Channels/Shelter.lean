import Handoff.Proofs.Courses
import Handoff.Proofs.Streams.Custody

namespace Handoff

/-! Dispatches are sheltered.

Panics of chunk handlers go through the drain that called the handler, and through
whatever waits for that drain.  A dispatch never does: it calls completion handlers
and mapping functions, and ends streams without a word to their handlers.  So if
neither completion handlers nor mapping functions panic, no panic meets a dispatch,
and every handler that was to be told is told. -/

def Invocation.isStream : Invocation → Bool
  | .chunk _ _ | .ending _ => true
  | .told _ _ | .mapping _ _ => false

def Frame.isDispatch : Frame → Bool
  | .dispatching _ _ _ => true
  | _ => false

/-- What a frame leads to may call a chunk handler or panic. -/
def Frame.isLoud : Frame → Bool
  | .fed _ _ | .rethrowing _ => true
  | _ => false

/-- A dispatch waits below, in front of the next call of client code. -/
def amidDispatch : List Frame → Bool
  | [] => false
  | .client _ :: _ => false
  | frame :: rest => frame.isDispatch || amidDispatch rest

/-- Above a dispatch there is nothing that calls a chunk handler or panics. -/
def Sheltered : List Frame → Prop
  | [] => True
  | .client invocation :: rest =>
      (amidDispatch rest = true → invocation.isStream = false) ∧ Sheltered rest
  | frame :: rest => (amidDispatch rest = true → frame.isLoud = false) ∧ Sheltered rest

/-- Nothing is in the queue for a chunk handler. -/
def Accumulator.isMute (accumulator : Accumulator) : Prop :=
  accumulator.queue = [] ∨ accumulator.queue = [.ending .aborted]

def Task.Quiet (world : World) : Task → Prop
  | .deliver _ _ | .attach _ _ | .finish _ .finished | .feed _ _ | .feedEnd _ => False
  | .drain index => ∀ handler, (world.accumulator index).stage = .parked handler →
      (world.accumulator index).isMute
  | .next index _ => (world.accumulator index).isMute
  | _ => True

def Control.Quiet (world : World) : Control → Prop
  | .task work => work.Quiet world
  | .reply _ => True
  | .client _ | .panic _ | .stopped => False

namespace Machine

structure Shelters (machine : Machine) : Prop where
  stack : Sheltered machine.stack
  control : amidDispatch machine.stack = true → machine.control.Quiet machine.world

/-- Neither completion handlers nor mapping functions panic. -/
def tame (machine : Machine) (move : Move) : Bool :=
  match move, machine.control, machine.stack with
  | .panic _, .client _, .client invocation :: _ => invocation.isStream
  | _, _, _ => true

variable {machine before after : Machine}

/-- A frame of the library that leads to nothing loud. -/
theorem sheltered_push {frame : Frame} {rest : List Frame} (sheltered : Sheltered rest)
    (quiet : frame.isLoud = false) (inner : ∀ invocation, frame ≠ .client invocation) :
    Sheltered (frame :: rest) := by
  cases frame with
  | client invocation => exact absurd rfl (inner invocation)
  | _ => exact ⟨fun _ => quiet, sheltered⟩

/-- Anything may stand where no dispatch waits. -/
theorem sheltered_apart {frame : Frame} {rest : List Frame} (sheltered : Sheltered rest)
    (apart : amidDispatch rest = false) : Sheltered (frame :: rest) := by
  have absurd' {goal : Prop} (amid : amidDispatch rest = true) : goal :=
    absurd (apart.symm.trans amid) Bool.false_ne_true
  cases frame <;> exact ⟨absurd', sheltered⟩

theorem Shelters.quiet (sheltered : Sheltered machine.stack)
    (quiet : machine.control.Quiet machine.world) : machine.Shelters :=
  ⟨sheltered, fun _ => quiet⟩

/-- No dispatch waits. -/
theorem Shelters.apart (sheltered : Sheltered machine.stack)
    (apart : amidDispatch machine.stack = false) : machine.Shelters :=
  ⟨sheltered, fun amid => absurd (apart.symm.trans amid) Bool.false_ne_true⟩

section Tasks

variable (sheltered : Sheltered machine.stack)

include sheltered

theorem shelters_settle (index : Nat) (outcome : Outcome) :
    (machine.settle index outcome).Shelters := by
  simp only [settle]
  split
  · exact .quiet sheltered trivial
  · exact .quiet sheltered trivial

theorem shelters_dispatch (index : Nat) (outcome : Outcome) (waiting : List Registration) :
    (machine.dispatch index outcome waiting).Shelters := by
  cases waiting with
  | nil => exact .quiet sheltered trivial
  | cons registration waiting =>
      have held : Sheltered (.dispatching index outcome waiting :: machine.stack) :=
        sheltered_push sheltered rfl (by simp)
      exact .quiet (sheltered_push held rfl (by simp)) trivial

theorem shelters_tell (handler : CompletionHandler) (outcome : Outcome) :
    (machine.tell handler outcome).Shelters := by
  cases handler with
  | client handler hearing =>
      simp only [tell]
      split
      · exact .apart ⟨fun _ => rfl, sheltered⟩ rfl
      · exact .quiet sheltered trivial
  | logging name => exact .quiet sheltered trivial
  | mapping function derived =>
      cases outcome with
      | resolved value =>
          have held : Sheltered (.resolving derived :: machine.stack) :=
            sheltered_push sheltered rfl (by simp)
          exact .apart ⟨fun _ => rfl, held⟩ rfl
      | _ => exact .quiet sheltered trivial
  | forwarding channel => exact .quiet sheltered trivial
  | _ => cases outcome <;> exact .quiet sheltered trivial

theorem shelters_register (index : Nat) (handler : CompletionHandler) :
    (machine.register index handler).Shelters := by
  simp only [register]
  split
  · exact .quiet sheltered trivial
  · exact .quiet (sheltered_push sheltered rfl (by simp)) trivial

theorem shelters_forget (handlers : List CompletionHandler) :
    (machine.forget handlers).Shelters := by
  cases handlers with
  | nil => exact .quiet sheltered trivial
  | cons handler rest =>
      have held : Sheltered
          (if rest.isEmpty then machine else machine.push (.forgetting rest)).stack := by
        split
        · exact sheltered
        · exact sheltered_push sheltered rfl (by simp)
      cases handler <;> exact .quiet held trivial

theorem shelters_release (index : Nat) : (machine.release index).Shelters := by
  simp only [release]
  split
  · exact .quiet (sheltered_push sheltered rfl (by simp)) trivial
  · exact .quiet sheltered trivial

theorem shelters_discard (handler : ChunkHandler) : (machine.discard handler).Shelters := by
  cases handler <;> exact .quiet sheltered trivial

theorem shelters_abandon (index : Nat) : (machine.abandon index).Shelters := by
  simp only [abandon]
  split
  · exact .quiet sheltered trivial
  · exact .quiet (sheltered_push sheltered rfl (by simp)) trivial

end Tasks

/-! Work that may call a chunk handler is not done while a dispatch waits. -/

section Loud

variable (sheltered : Sheltered machine.stack)

theorem apart_of_loud (quiet : amidDispatch machine.stack = true → False) :
    amidDispatch machine.stack = false := by
  cases amid : amidDispatch machine.stack with
  | true => exact (quiet amid).elim
  | false => rfl

include sheltered

theorem shelters_deliver (index : Nat) (bytes : Bytes)
    (quiet : amidDispatch machine.stack = true → False) :
    (machine.deliver index bytes).Shelters := by
  have apart := apart_of_loud quiet
  simp only [deliver]
  split
  · exact .quiet sheltered trivial
  · split
    · exact .apart (sheltered_apart sheltered apart) apart
    · exact .apart (sheltered_apart sheltered apart) apart

theorem shelters_attach (index : Nat) (handler : ChunkHandler)
    (quiet : amidDispatch machine.stack = true → False) :
    (machine.attach index handler).Shelters := by
  have apart := apart_of_loud quiet
  simp only [attach]
  split
  · exact .apart (sheltered_apart sheltered apart) apart
  · exact .apart (sheltered_apart sheltered apart) apart

theorem shelters_finish (index : Nat) (ending : Ending)
    (handled : (machine.strand index).Handled) (away : machine.control.attention index = .away)
    (quiet : amidDispatch machine.stack = true → (Task.finish index ending).Quiet machine.world) :
    (machine.finish index ending).Shelters := by
  simp only [finish]
  split
  case isTrue => exact .quiet sheltered trivial
  case isFalse =>
      cases ending with
      | finished =>
          have apart := apart_of_loud quiet
          exact .apart (sheltered_apart sheltered apart) apart
      | aborted =>
          refine .quiet (sheltered_push sheltered rfl (by simp)) fun handler parked => ?_
          -- A handler that is parked has run the queue dry, so only the end is left.
          have row := accumulator_setAccumulator_own machine index
            ((machine.world.accumulator index).close .aborted)
          have parked : ((machine.world.accumulator index).close .aborted).stage =
            .parked handler := (congrArg Accumulator.stage row).symm.trans parked
          have dry : (machine.world.accumulator index).queue = [] :=
            (handled.dry handler parked).resolve_left fun draining => by
              have draining : machine.control.attention index = .draining := draining
              exact absurd (away.symm.trans draining) (by decide)
          have queue : ((machine.world.accumulator index).close .aborted).queue =
              [.ending .aborted] := by
            simp [Accumulator.close, dry]
          exact .inr ((congrArg Accumulator.queue row).trans queue)

theorem shelters_drain (index : Nat)
    (quiet : amidDispatch machine.stack = true → (Task.drain index).Quiet machine.world) :
    (machine.drain index).Shelters := by
  simp only [drain]
  split
  case h_1 handler parked =>
      refine ⟨sheltered, fun amid => ?_⟩
      have row := accumulator_setAccumulator_own machine index
        { machine.world.accumulator index with stage := .draining }
      have queue := congrArg Accumulator.queue row
      exact (quiet amid handler parked).imp queue.trans queue.trans
  all_goals exact .quiet sheltered trivial

theorem shelters_next (index : Nat) (handler : ChunkHandler)
    (quiet : amidDispatch machine.stack = true → (machine.world.accumulator index).isMute) :
    (machine.next index handler).Shelters := by
  simp only [next]
  split
  case h_1 => exact .quiet sheltered trivial
  case h_2 bytes rest first =>
      have apart : amidDispatch machine.stack = false :=
        apart_of_loud fun amid => by simpa [first, Accumulator.isMute] using quiet amid
      exact .apart (sheltered_apart sheltered apart) apart
  case h_3 ending rest first =>
      split
      case isTrue told =>
          have apart : amidDispatch machine.stack = false := by
            refine apart_of_loud fun amid => ?_
            have mute := quiet amid
            simp only [first, Accumulator.isMute, reduceCtorEq, false_or, List.cons.injEq,
              Item.ending.injEq] at mute
            simp [mute.1] at told
          exact .apart (sheltered_apart sheltered apart) apart
      case isFalse => exact .quiet (sheltered_push sheltered rfl (by simp)) trivial

theorem shelters_feed (handler : ChunkHandler) (bytes : Bytes)
    (quiet : amidDispatch machine.stack = true → False) : (machine.feed handler bytes).Shelters := by
  have apart := apart_of_loud quiet
  cases handler with
  | client handler => exact .apart (sheltered_apart sheltered apart) rfl
  | logging name => exact .quiet sheltered trivial
  | forwarding channel => exact .quiet sheltered trivial
  | collecting collector =>
      simp only [feed]
      split
      · exact .quiet sheltered trivial
      · split
        case h_1 buffer _ =>
            have logged := machine.stack_logs (collector.buffer.growth buffer)
            have sheltered : Sheltered ((collector.buffer.growth buffer).foldl log machine).stack := by
              rw [logged]
              exact sheltered
            exact .quiet sheltered trivial
        case h_2 => exact .quiet (sheltered_push sheltered rfl (by simp)) trivial

theorem shelters_feedEnd (handler : ChunkHandler)
    (quiet : amidDispatch machine.stack = true → False) : (machine.feedEnd handler).Shelters := by
  have apart := apart_of_loud quiet
  cases handler with
  | client handler => exact .apart (sheltered_apart sheltered apart) rfl
  | _ => exact .quiet sheltered trivial

end Loud

theorem shelters_perform (shelters : machine.Shelters) (handled : ∀ index, (machine.strand index).Handled)
    {task : Task} (working : machine.control = .task task) : (machine.perform task).Shelters := by
  obtain ⟨sheltered, quiet⟩ := shelters
  rw [working] at quiet
  cases task with
  | settle promise outcome => exact shelters_settle sheltered promise outcome
  | dispatch promise outcome waiting => exact shelters_dispatch sheltered promise outcome waiting
  | tell handler outcome => exact shelters_tell sheltered handler outcome
  | register promise handler => exact shelters_register sheltered promise handler
  | forget handlers => exact shelters_forget sheltered handlers
  | release promise => exact shelters_release sheltered promise
  | deliver accumulator bytes => exact shelters_deliver sheltered accumulator bytes quiet
  | attach accumulator handler => exact shelters_attach sheltered accumulator handler quiet
  | finish accumulator ending =>
      exact shelters_finish sheltered accumulator ending (handled _) (by rw [working]; rfl) quiet
  | drain accumulator => exact shelters_drain sheltered accumulator quiet
  | next accumulator handler => exact shelters_next sheltered accumulator handler quiet
  | feed handler bytes => exact shelters_feed sheltered handler bytes quiet
  | feedEnd handler => exact shelters_feedEnd sheltered handler quiet
  | discard handler => exact shelters_discard sheltered handler
  | abandon body => exact shelters_abandon sheltered body

theorem shelters_leave (sheltered : Sheltered machine.stack) (index : Nat) {after : Frame}
    {otherwise : Control} (pushed : Sheltered (after :: machine.stack))
    (quiet : amidDispatch machine.stack = true → ∀ world, otherwise.Quiet world) :
    (machine.leave index after otherwise).Shelters := by
  simp only [leave]
  split
  · exact .quiet pushed trivial
  · exact ⟨sheltered, fun amid => quiet amid _⟩

/-- A frame that was popped, and what stood below it. -/
theorem sheltered_pop {frame : Frame} {rest : List Frame} (sheltered : Sheltered (frame :: rest)) :
    Sheltered rest ∧ ((∀ invocation, frame ≠ .client invocation) → amidDispatch rest = true →
      frame.isLoud = false) := by
  cases frame with
  | client invocation => exact ⟨sheltered.2, fun inner => absurd rfl (inner invocation)⟩
  | _ => exact ⟨sheltered.2, fun _ => sheltered.1⟩

theorem shelters_resume {reply : Reply} {frame : Frame}
    (shelters : (before.push frame).Shelters) (replied : before.control = .reply reply) :
    (before.resume reply frame).Shelters := by
  obtain ⟨sheltered, loud⟩ := sheltered_pop shelters.stack
  cases frame with
  | client invocation => exact .apart shelters.stack rfl
  | replying other => exact .quiet sheltered trivial
  | forgetting handlers => exact .quiet sheltered trivial
  | dispatching promise outcome waiting => exact .quiet sheltered trivial
  | resolving derived => cases reply <;> exact .quiet sheltered trivial
  | dropping =>
      simp only [resume]
      split
      · exact .quiet sheltered trivial
      · exact .quiet sheltered trivial
  | releasing promise => exact .quiet sheltered trivial
  | fed index handler =>
      have apart := apart_of_loud fun amid => Bool.false_ne_true (loud (by simp) amid).symm
      exact .apart sheltered apart
  | fedEnd index handler => exact .quiet (sheltered_push sheltered rfl (by simp)) trivial
  | released => exact .quiet sheltered trivial
  | finishing promise value =>
      simp only [resume]
      split
      · exact .quiet sheltered trivial
      · exact .quiet sheltered trivial
  | settling promise outcome => exact .quiet sheltered trivial
  | leaving body =>
      exact shelters_leave sheltered body (sheltered_push sheltered rfl (by simp))
        fun _ _ => trivial
  | texting body derived =>
      simp only [resume]
      split
      · exact .quiet (sheltered_push sheltered rfl (by simp)) trivial
      · exact .quiet (sheltered_push sheltered rfl (by simp)) trivial
  | streaming body channel =>
      simp only [resume]
      split
      · exact .quiet sheltered trivial
      · exact .quiet (sheltered_push sheltered rfl (by simp)) trivial
  | returning index handler => exact .quiet sheltered trivial
  | rethrowing message =>
      have apart := apart_of_loud fun amid => Bool.false_ne_true (loud (by simp) amid).symm
      exact .apart sheltered apart

/-- A panic goes through frames below which no dispatch waits. -/
theorem shelters_unwind {message : String} {frame : Frame}
    (shelters : (before.push frame).Shelters) (panicking : before.control = .panic message) :
    (before.unwind message frame).Shelters := by
  obtain ⟨sheltered, -⟩ := sheltered_pop shelters.stack
  have apart : (∀ invocation, frame ≠ .client invocation) → amidDispatch before.stack = false := by
    intro inner
    refine apart_of_loud fun amid => ?_
    have control : (before.push frame).control = .panic message := panicking
    have quiet := shelters.control (by
      cases frame with
      | client invocation => exact absurd rfl (inner invocation)
      | _ => simp [push, amidDispatch, amid])
    rw [control] at quiet
    exact quiet
  have panics : Control.panic message = before.control := panicking.symm
  cases frame with
  | client invocation => exact .apart shelters.stack rfl
  | leaving body =>
      have apart := apart (by simp)
      refine shelters_leave sheltered body (sheltered_apart sheltered apart) fun amid => ?_
      exact absurd (apart.symm.trans amid) Bool.false_ne_true
  | _ =>
      have apart := apart (by simp)
      first
        | exact .apart sheltered apart
        | exact .apart (sheltered_apart sheltered apart) apart

theorem shelters_begin (shelters : machine.Shelters) {sight : Sight} (call : Call)
    (idle : machine.control = .client sight) : (machine.begin call).Shelters := by
  obtain ⟨sheltered, quiet⟩ := shelters
  rw [idle] at quiet
  have apart := apart_of_loud quiet
  cases call with
  | dropSender body =>
      have leaves := @shelters_leave
        (machine.setBody body { machine.world.body body with owned := false }) sheltered body
        (.replying .done) (.reply .done)
      exact leaves (sheltered_push sheltered rfl (by simp)) fun _ _ => trivial
  | newHandler handler => cases handler <;> exact .quiet sheltered trivial
  | complete body value =>
      have held : Sheltered (.leaving body :: machine.stack) := sheltered_apart sheltered apart
      exact .apart (sheltered_apart held apart) apart
  | fail body outcome =>
      have held : Sheltered (.leaving body :: machine.stack) := sheltered_apart sheltered apart
      exact .apart (sheltered_apart held apart) apart
  | feedEnd index =>
      have held : Sheltered (.returning index (machine.takeHandler index).1.close ::
          machine.stack) := sheltered_apart sheltered apart
      exact .apart (sheltered_apart held apart) apart
  | _ =>
      first
        | exact .apart sheltered apart
        | exact .apart (sheltered_apart sheltered apart) apart

theorem Shelters.tick (shelters : machine.Shelters)
    (handled : ∀ index, (machine.strand index).Handled) : machine.tick.Shelters := by
  obtain ⟨world, stack, control, journal⟩ := machine
  cases control with
  | client sight => exact shelters
  | stopped => exact shelters
  | task task => exact shelters_perform shelters handled rfl
  | reply reply =>
      cases stack with
      | nil => exact .apart trivial rfl
      | cons frame stack =>
          exact @shelters_resume ⟨world, stack, .reply reply, journal⟩ reply frame shelters rfl
  | panic message =>
      cases stack with
      | nil => exact .apart trivial rfl
      | cons frame stack =>
          exact @shelters_unwind ⟨world, stack, .panic message, journal⟩ message frame shelters rfl

theorem Shelters.act (shelters : machine.Shelters)
    (handled : ∀ index, (machine.strand index).Handled) {move : Move}
    (tame : machine.tame move = true) : (machine.act move).Shelters := by
  have acted := machine.acted move
  generalize machine.act move = after at acted
  cases acted with
  | rest => exact shelters
  | tick => exact shelters.tick handled
  | call idle admitted => exact shelters_begin shelters _ idle
  | describe description idle =>
      refine .apart shelters.stack (apart_of_loud fun amid => ?_)
      have quiet := shelters.control amid
      rw [idle] at quiet
      exact quiet
  | answer idle top accepted =>
      have whole := shelters.stack
      rw [top] at whole
      exact .quiet whole.2 trivial
  | @panic _ invocation _ _ idle top =>
      have whole := shelters.stack
      rw [top] at whole
      have stream : invocation.isStream = true := by simpa [Machine.tame, idle, top] using tame
      exact .apart whole.2 (apart_of_loud fun amid =>
        Bool.false_ne_true ((whole.1 amid).symm.trans stream))

theorem shelters_initial : initial.Shelters := .apart trivial rfl

end Machine

end Handoff
