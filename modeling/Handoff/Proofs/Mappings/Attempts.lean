import Handoff.Proofs.Sinks.Derived
import Handoff.Proofs.Sinks.Shares

namespace Handoff

/-! Attempts to settle a promise.

Besides its stakes a promise has attempts: what is on its way to settle it without
holding a share of its own, because a frame below holds it.  An attempt begins when a
handler with a stake is called, and ends with the settlement.  So a promise whose
stakes rest, and that the client does not settle, is attempted no more than it was. -/

def Task.attempts (sink : Nat) : Task → Nat
  | .settle promise _ => if promise = sink then 1 else 0
  | .tell handler _ => handler.stakes sink
  | .feed handler _ | .feedEnd handler => handler.stakes sink
  | _ => 0

def Control.attempts (sink : Nat) : Control → Nat
  | .task work => work.attempts sink
  | _ => 0

def Frame.attempts (sink : Nat) : Frame → Nat
  | .resolving promise | .finishing promise _ | .settling promise _ =>
      if promise = sink then 1 else 0
  | _ => 0

namespace Machine

/-- The attempts on the stack. -/
def suspended (machine : Machine) (sink : Nat) : Nat :=
  Count.total (machine.stack.map (Frame.attempts sink))

def attempts (machine : Machine) (sink : Nat) : Nat :=
  machine.control.attempts sink + machine.suspended sink

/-- The stakes that the next step may make attempts of: those of the task, and those
of the chunk handlers in the client's hands. -/
def loose (machine : Machine) (sink : Nat) : Nat :=
  machine.control.stakes sink + machine.world.handlers.weigh (ChunkHandler.stakes? sink)

section Parts

variable (machine : Machine) (sink : Nat)

@[simp] theorem attempts_turn (task : Task) :
    (machine.turn task).attempts sink = task.attempts sink + machine.suspended sink := rfl

@[simp] theorem attempts_reply (reply : Reply) :
    (machine.reply reply).attempts sink = machine.suspended sink := Nat.zero_add _

@[simp] theorem suspended_withWorld (world : World) :
    (machine.withWorld world).suspended sink = machine.suspended sink := rfl

@[simp] theorem suspended_note (entry : Entry) :
    (machine.note entry).suspended sink = machine.suspended sink := rfl

@[simp] theorem suspended_log (notice : Notice) :
    (machine.log notice).suspended sink = machine.suspended sink := rfl

@[simp] theorem suspended_logs (notices : List Notice) :
    (notices.foldl log machine).suspended sink = machine.suspended sink := by
  rw [suspended, stack_logs]
  rfl

@[simp] theorem suspended_push (frame : Frame) :
    (machine.push frame).suspended sink = frame.attempts sink + machine.suspended sink := rfl

@[simp] theorem suspended_setPromise (index : Nat) (promise : Promise) :
    (machine.setPromise index promise).suspended sink = machine.suspended sink := rfl

@[simp] theorem suspended_setAccumulator (index : Nat) (accumulator : Accumulator) :
    (machine.setAccumulator index accumulator).suspended sink = machine.suspended sink := rfl

@[simp] theorem suspended_setBody (index : Nat) (body : Body) :
    (machine.setBody index body).suspended sink = machine.suspended sink := rfl

@[simp] theorem suspended_setChannel (index : Nat) (channel : Channel) :
    (machine.setChannel index channel).suspended sink = machine.suspended sink := rfl

@[simp] theorem suspended_setHandler (index : Nat) (handler : Option ChunkHandler) :
    (machine.setHandler index handler).suspended sink = machine.suspended sink := rfl

@[simp] theorem attempts_invoke (invocation : Invocation) :
    (machine.invoke invocation).attempts sink = machine.suspended sink := by
  change 0 + (0 + machine.suspended sink) = _
  omega

end Parts

variable {machine : Machine} {sink : Nat}

attribute [simp] Task.attempts Frame.attempts

/-- A task passes its attempt on, or makes one of a stake. -/
theorem attempts_perform (task : Task) :
    (machine.perform task).attempts sink ≤
      task.attempts sink + task.stakes sink + machine.suspended sink := by
  cases task with
  | settle promise outcome =>
      simp only [perform, settle]
      split <;> simp
  | dispatch promise outcome waiting =>
      cases waiting <;>
        simp [perform, dispatch, Task.stakes, Registration.stakes, Nat.add_assoc]
  | tell handler outcome =>
      cases handler <;> cases outcome <;>
        simp [perform, tell, CompletionHandler.stakes] <;> split <;> simp
  | register promise handler =>
      simp only [perform, register]
      split <;> simp [Task.stakes]
  | forget handlers =>
      cases handlers with
      | nil => simp [perform, forget]
      | cons handler later =>
          cases handler <;> simp only [perform, forget] <;> split <;> simp [Task.stakes]
  | release promise =>
      simp only [perform, release]
      split <;> simp [Task.stakes]
  | deliver index bytes =>
      simp only [perform, deliver]
      split
      · simp
      · split <;> simp
  | attach index handler =>
      simp only [perform, attach]
      split <;> simp
  | finish index ending =>
      simp only [perform, finish]
      split <;> simp
  | drain index =>
      simp only [perform, drain]
      split <;> simp
  | next index handler =>
      simp only [perform, next]
      split
      · simp
      · simp [Task.stakes]
      · split <;> simp [letGo, Task.stakes]
  | feed handler bytes =>
      cases handler with
      | collecting collector =>
          simp only [perform, feed]
          split
          · simp
          · split <;> simp [raise, Task.stakes, ChunkHandler.stakes]
      | _ => simp [perform, feed]
  | feedEnd handler => cases handler <;> simp [perform, feedEnd, ChunkHandler.stakes]
  | discard handler => cases handler <;> simp [perform, discard]
  | abandon index =>
      simp only [perform, abandon]
      split <;> simp

theorem attempts_leave (index : Nat) {after : Frame} {otherwise : Control}
    (frame : after.attempts sink = 0) (control : otherwise.attempts sink = 0) :
    (machine.leave index after otherwise).attempts sink = machine.suspended sink := by
  simp only [leave]
  split
  · rw [attempts_turn, suspended_push, suspended_setBody, frame]
    exact (Nat.zero_add _).trans (Nat.zero_add _)
  · rw [attempts, control]
    exact Nat.zero_add _

theorem attempts_resume (reply : Reply) (frame : Frame) :
    (machine.resume reply frame).attempts sink ≤ frame.attempts sink + machine.suspended sink := by
  cases frame with
  | leaving body =>
      exact Nat.le_of_eq ((attempts_leave body rfl rfl).trans (Nat.zero_add _).symm)
  | client invocation => exact Nat.le_of_eq (Nat.zero_add _)
  | rethrowing message => exact Nat.le_refl _
  | resolving derived => cases reply <;> simp [resume]
  | _ =>
      simp only [resume, letGo]
      repeat' split
      all_goals simp

theorem attempts_unwind {message : String} (panicking : machine.control = .panic message)
    (frame : Frame) : (machine.unwind message frame).attempts sink ≤ machine.suspended sink := by
  have still : machine.attempts sink = machine.suspended sink := by
    rw [attempts, panicking]
    exact Nat.zero_add _
  cases frame with
  | leaving body => exact Nat.le_of_eq (attempts_leave body rfl rfl)
  | client invocation => exact Nat.le_of_eq ((Nat.zero_add _).trans (Nat.zero_add _))
  | rethrowing other => exact Nat.le_of_eq (Nat.zero_add _)
  | forgetting _ | dispatching _ _ _ | fed _ _ | fedEnd _ _ | releasing _ | texting _ _ =>
      simp [unwind, collapse]
  | _ => exact Nat.le_of_eq still

theorem attempts_tick (machine : Machine) :
    machine.tick.attempts sink ≤ machine.attempts sink + machine.control.stakes sink := by
  obtain ⟨world, stack, control, journal⟩ := machine
  cases control with
  | client sight => exact Nat.le_refl _
  | stopped => exact Nat.le_refl _
  | task task =>
      have performed := @attempts_perform ⟨world, stack, .task task, journal⟩ sink task
      refine Nat.le_trans performed (Nat.le_of_eq ?_)
      exact Nat.add_right_comm _ _ _
  | reply reply =>
      cases stack with
      | nil => exact Nat.le_refl _
      | cons frame stack =>
          have resumed := @attempts_resume ⟨world, stack, .reply reply, journal⟩ sink reply frame
          exact Nat.le_trans resumed (Nat.le_of_eq (Nat.zero_add _).symm)
  | panic message =>
      cases stack with
      | nil => exact Nat.le_refl _
      | cons frame stack =>
          have unwound := @attempts_unwind ⟨world, stack, .panic message, journal⟩ sink message rfl
            frame
          refine Nat.le_trans unwound ?_
          simp only [attempts, suspended, List.map_cons, Count.total_cons]
          omega

/-- The client attempts a promise only through its sink, or by cancelling it. -/
theorem attempts_begin {call : Call} (apart : machine.Apart sink)
    (unowned : (machine.world.promise sink).owned = false)
    (uncancelled : ∀ force, call ≠ .cancel sink force)
    (admitted : machine.world.admits call = true) :
    (machine.begin call).attempts sink ≤
      machine.suspended sink + machine.world.handlers.weigh (ChunkHandler.stakes? sink) := by
  have other {body : Nat} (owned : (machine.world.body body).owned = true) :
      (machine.world.body body).promise ≠ sink := apart body (World.lt_of_owned owned)
  have taken (index : Nat) : (machine.takeHandler index).1.stakes sink ≤
      machine.world.handlers.weigh (ChunkHandler.stakes? sink) := by
    have weighs := machine.world.handlers.weigh_set (ChunkHandler.stakes? sink) index none rfl
    have none : ChunkHandler.stakes? sink none = 0 := rfl
    have same : (machine.takeHandler index).1.stakes sink =
        ChunkHandler.stakes? sink (machine.world.handlers.get index) := by
      simp only [takeHandler, World.handler?]
      cases machine.world.handlers.get index <;> rfl
    omega
  cases call with
  | settle promise outcome =>
      have apart : promise ≠ sink := by
        rintro rfl
        exact Bool.false_ne_true (unowned.symm.trans admitted)
      simp [begin, apart]
  | cancel promise force =>
      have apart : promise ≠ sink := by
        rintro rfl
        exact uncancelled force rfl
      simp [begin, apart]
  | complete body value => simp [begin, hold, other admitted]
  | fail body outcome => simp [begin, hold, other (Bool.and_eq_true_iff.mp admitted).1]
  | dropSender body =>
      refine Nat.le_trans (Nat.le_of_eq (attempts_leave body rfl rfl)) ?_
      exact Nat.le_add_right _ _
  | tell handler outcome =>
      cases handler with
      | client _ _ | logging _ => simp [begin, CompletionHandler.stakes]
      | _ => simp [World.admits, CompletionHandler.isFree] at admitted
  | feed handler bytes =>
      have held := taken handler
      have begun : (machine.begin (.feed handler bytes)).attempts sink =
        (machine.takeHandler handler).1.stakes sink + (0 + machine.suspended sink) := rfl
      omega
  | feedEnd handler =>
      have held := taken handler
      have begun : (machine.begin (.feedEnd handler)).attempts sink =
        (machine.takeHandler handler).1.stakes sink + (0 + (0 + machine.suspended sink)) := rfl
      omega
  | newHandler handler => cases handler <;> simp [begin, newHandler]
  | _ => simp [begin, map, newBody, text, chunks, hold, takeHandler]

/-- A promise whose stakes rest is attempted no more than before. -/
theorem attempts_act {move : Move} (apart : machine.Apart sink)
    (unowned : (machine.world.promise sink).owned = false)
    (uncancelled : ∀ force, move ≠ .call (.cancel sink force)) :
    (machine.act move).attempts sink ≤ machine.attempts sink + machine.loose sink := by
  have acted := machine.acted move
  generalize machine.act move = after at acted
  have still : machine.attempts sink ≤ machine.attempts sink + machine.loose sink :=
    Nat.le_add_right _ _
  have popped {frame : Frame} {below : List Frame} (top : machine.stack = frame :: below) :
      0 + Count.total (below.map (Frame.attempts sink)) ≤
        machine.attempts sink + machine.loose sink := by
    rw [attempts, suspended, top, List.map_cons, Count.total_cons]
    omega
  cases acted with
  | rest => exact still
  | tick => exact Nat.le_trans machine.attempts_tick (Nat.add_le_add_left (Nat.le_add_right _ _) _)
  | call idle admitted =>
      have begun := attempts_begin apart unowned
        (fun force same => uncancelled force (by rw [same])) admitted
      exact Nat.le_trans begun (Nat.add_le_add (Nat.le_add_left _ _) (Nat.le_add_left _ _))
  | describe description idle => exact still
  | answer idle top accepted => exact popped top
  | panic idle top => exact popped top

end Machine

end Handoff
