import Handoff.Proofs.Moves

namespace Handoff.Machine

/-! Calls as a whole.

The library works above a stack of frames it will come back to.  Whatever it
does there, client code that it calls included, only adds frames to that stack
and takes its own off again.  A course is such a piece of a run, from a call
until it replies or panics, and a law about calls is a statement about the ends
of all their courses. -/

section Primitives

variable (machine : Machine)

@[simp] theorem stack_withWorld (world : World) : (machine.withWorld world).stack = machine.stack :=
  rfl

@[simp] theorem stack_note (entry : Entry) : (machine.note entry).stack = machine.stack := rfl

@[simp] theorem stack_log (notice : Notice) : (machine.log notice).stack = machine.stack := rfl

@[simp] theorem stack_logs (notices : List Notice) :
    (notices.foldl log machine).stack = machine.stack := by
  induction notices generalizing machine with
  | nil => rfl
  | cons notice rest ih => exact ih (machine.log notice)

@[simp] theorem stack_push (frame : Frame) : (machine.push frame).stack = frame :: machine.stack :=
  rfl

@[simp] theorem stack_turn (task : Task) : (machine.turn task).stack = machine.stack := rfl

@[simp] theorem stack_reply (reply : Reply) : (machine.reply reply).stack = machine.stack := rfl

@[simp] theorem stack_setPromise (index : Nat) (promise : Promise) :
    (machine.setPromise index promise).stack = machine.stack := rfl

@[simp] theorem stack_setAccumulator (index : Nat) (accumulator : Accumulator) :
    (machine.setAccumulator index accumulator).stack = machine.stack := rfl

@[simp] theorem stack_setBody (index : Nat) (body : Body) :
    (machine.setBody index body).stack = machine.stack := rfl

@[simp] theorem stack_setChannel (index : Nat) (channel : Channel) :
    (machine.setChannel index channel).stack = machine.stack := rfl

@[simp] theorem stack_setHandler (index : Nat) (handler : Option ChunkHandler) :
    (machine.setHandler index handler).stack = machine.stack := rfl

@[simp] theorem control_turn (task : Task) : (machine.turn task).control = .task task := rfl

@[simp] theorem control_reply (reply : Reply) : (machine.reply reply).control = .reply reply := rfl

end Primitives

/-- Everything in `base` is still on the stack, and client code that runs does so
in a frame above it. -/
def Rises (base : List Frame) (machine : Machine) : Prop :=
  base <:+ machine.stack ∧ ∀ sight, machine.control = .client sight →
    ∃ invocation above, machine.stack = .client invocation :: above ∧ base <:+ above

/-- The work above `base` came to an end. -/
def Over (base : List Frame) (machine : Machine) : Prop :=
  machine.stack = base ∧ machine.control.isOver = true

@[simp] theorem rises_turn {base : List Frame} {machine : Machine} {task : Task} :
    Rises base (machine.turn task) ↔ base <:+ machine.stack := by
  simp [Rises]

@[simp] theorem rises_reply {base : List Frame} {machine : Machine} {reply : Reply} :
    Rises base (machine.reply reply) ↔ base <:+ machine.stack := by
  simp [Rises]

theorem rises_client {base above : List Frame} {machine : Machine} {invocation : Invocation}
    (top : machine.stack = .client invocation :: above) (part : base <:+ above) :
    Rises base machine :=
  ⟨by simp [top, List.suffix_cons_iff, part], fun _ _ => ⟨invocation, above, top, part⟩⟩

@[simp] theorem rises_invoke {base : List Frame} {machine : Machine} {invocation : Invocation} :
    Rises base (machine.invoke invocation) ↔ base <:+ machine.stack := by
  refine ⟨fun rises => ?_, rises_client rfl⟩
  obtain ⟨_, above, top, part⟩ := rises.2 .called rfl
  obtain ⟨-, same⟩ := List.cons.inj top
  exact same ▸ part

theorem Rises.below {lower upper : List Frame} {machine : Machine} (rises : Rises upper machine)
    (part : lower <:+ upper) : Rises lower machine := by
  refine ⟨part.trans rises.1, fun sight idle => ?_⟩
  obtain ⟨invocation, above, top, rest⟩ := rises.2 sight idle
  exact ⟨invocation, above, top, part.trans rest⟩

theorem rises_settle (machine : Machine) (index : Nat) (outcome : Outcome) :
    Rises machine.stack (machine.settle index outcome) := by
  simp only [settle]
  split <;> simp

theorem rises_dispatch (machine : Machine) (index : Nat) (outcome : Outcome)
    (waiting : List Registration) :
    Rises machine.stack (machine.dispatch index outcome waiting) := by
  cases waiting <;> simp [dispatch, List.suffix_cons_iff]

theorem rises_tell (machine : Machine) (handler : CompletionHandler) (outcome : Outcome) :
    Rises machine.stack (machine.tell handler outcome) := by
  unfold tell
  repeat' split
  all_goals simp

theorem rises_register (machine : Machine) (index : Nat) (handler : CompletionHandler) :
    Rises machine.stack (machine.register index handler) := by
  simp only [register]
  split <;> simp

theorem rises_forget (machine : Machine) (handlers : List CompletionHandler) :
    Rises machine.stack (machine.forget handlers) := by
  unfold forget
  cases handlers with
  | nil => simp
  | cons handler rest =>
      cases handler <;> cases rest <;> simp

theorem rises_release (machine : Machine) (index : Nat) :
    Rises machine.stack (machine.release index) := by
  simp only [release]
  split <;> simp

theorem rises_deliver (machine : Machine) (index : Nat) (bytes : Bytes) :
    Rises machine.stack (machine.deliver index bytes) := by
  simp only [deliver]
  repeat' split
  all_goals simp

theorem rises_attach (machine : Machine) (index : Nat) (handler : ChunkHandler) :
    Rises machine.stack (machine.attach index handler) := by
  simp only [attach]
  split <;> simp

theorem rises_finish (machine : Machine) (index : Nat) (ending : Ending) :
    Rises machine.stack (machine.finish index ending) := by
  simp only [finish]
  split <;> simp

theorem rises_drain (machine : Machine) (index : Nat) :
    Rises machine.stack (machine.drain index) := by
  simp only [drain]
  split <;> simp

theorem rises_letGo (machine : Machine) (index : Nat) (handler : ChunkHandler) :
    Rises machine.stack (machine.letGo index handler) := by
  simp [letGo]

theorem rises_next (machine : Machine) (index : Nat) (handler : ChunkHandler) :
    Rises machine.stack (machine.next index handler) := by
  simp only [next]
  repeat' split
  all_goals simp [letGo]

theorem rises_feed (machine : Machine) (handler : ChunkHandler) (bytes : Bytes) :
    Rises machine.stack (machine.feed handler bytes) := by
  simp only [feed, raise]
  repeat' split
  all_goals simp

theorem rises_feedEnd (machine : Machine) (handler : ChunkHandler) :
    Rises machine.stack (machine.feedEnd handler) := by
  cases handler <;> simp [feedEnd]

theorem rises_discard (machine : Machine) (handler : ChunkHandler) :
    Rises machine.stack (machine.discard handler) := by
  cases handler <;> simp [discard]

theorem rises_abandon (machine : Machine) (index : Nat) :
    Rises machine.stack (machine.abandon index) := by
  simp only [abandon]
  split <;> simp

theorem rises_perform (machine : Machine) (task : Task) :
    Rises machine.stack (machine.perform task) := by
  cases task with
  | settle promise outcome => exact machine.rises_settle promise outcome
  | dispatch promise outcome waiting => exact machine.rises_dispatch promise outcome waiting
  | tell handler outcome => exact machine.rises_tell handler outcome
  | register promise handler => exact machine.rises_register promise handler
  | forget handlers => exact machine.rises_forget handlers
  | release promise => exact machine.rises_release promise
  | deliver accumulator bytes => exact machine.rises_deliver accumulator bytes
  | attach accumulator handler => exact machine.rises_attach accumulator handler
  | finish accumulator ending => exact machine.rises_finish accumulator ending
  | drain accumulator => exact machine.rises_drain accumulator
  | next accumulator handler => exact machine.rises_next accumulator handler
  | feed handler bytes => exact machine.rises_feed handler bytes
  | feedEnd handler => exact machine.rises_feedEnd handler
  | discard handler => exact machine.rises_discard handler
  | abandon body => exact machine.rises_abandon body

theorem rises_leave (machine : Machine) (index : Nat) (after : Frame) {otherwise : Control}
    (working : ∀ sight, otherwise ≠ .client sight) :
    Rises machine.stack (machine.leave index after otherwise) := by
  simp only [leave]
  split <;> simp [Rises, working]

theorem rises_resume (machine : Machine) (reply : Reply) (frame : Frame)
    (replied : machine.control = .reply reply) :
    Rises machine.stack (machine.resume reply frame) := by
  cases frame with
  | leaving body => exact machine.rises_leave body _ (by simp)
  | fedEnd accumulator handler => exact machine.rises_letGo accumulator handler
  | client invocation => exact rises_client rfl (List.suffix_refl _)
  | rethrowing message => simp [resume, Rises]
  | _ =>
      simp only [resume]
      repeat' split
      all_goals simp

theorem rises_unwind (machine : Machine) (message : String) (frame : Frame)
    (panicking : machine.control = .panic message) :
    Rises machine.stack (machine.unwind message frame) := by
  cases frame with
  | leaving body => exact machine.rises_leave body _ (by simp)
  | client invocation => exact rises_client rfl (List.suffix_refl _)
  | streaming body channel => simp [unwind, Rises, panicking, setChannel, withWorld]
  | returning index handler => simp [unwind, Rises, panicking, setHandler, withWorld]
  | fed index handler => simp [unwind, collapse]
  | fedEnd index handler => simp [unwind, collapse]
  | _ => simp [unwind, Rises, panicking]

theorem rises_begin (machine : Machine) (call : Call) :
    Rises machine.stack (machine.begin call) := by
  cases call with
  | dropSender body =>
      have working : ∀ sight, Control.reply .done ≠ .client sight := by simp
      exact rises_leave (machine.setBody body { machine.world.body body with owned := false }) body
        (.replying .done) working
  | newHandler handler => cases handler <;> simp [begin, newHandler, Rises]
  | _ => simp [begin, map, newBody, hold, text, chunks, takeHandler, Rises, List.suffix_cons_iff]

theorem rises_of_moved {base : List Frame} {before after : Machine} (moved : before.Moved after)
    (rises : Rises base before) (busy : ¬ Over base before) : Rises base after := by
  have deeper {frame : Frame} {below : Machine} (risen : Rises base (below.push frame))
      (ceased : below.control.isOver = true) (busy : ¬ Over base (below.push frame)) :
      base <:+ below.stack := by
    obtain same | part := List.suffix_cons_iff.mp risen.1
    · exact absurd ⟨same.symm, ceased⟩ busy
    · exact part
  cases moved with
  | rest => exact rises
  | perform working => exact (before.rises_perform _).below rises.1
  | @resume below reply frame replied =>
      exact (below.rises_resume reply frame replied).below
        (deeper rises (by simp [replied, Control.isOver]) busy)
  | @unwind below message frame panicking =>
      exact (below.rises_unwind message frame panicking).below
        (deeper rises (by simp [panicking, Control.isOver]) busy)
  | surface empty ceased =>
      have bottom : base = [] := List.suffix_nil.mp (empty ▸ rises.1)
      exact absurd ⟨empty.trans bottom.symm, ceased⟩ busy
  | begin idle => exact (before.rises_begin _).below rises.1
  | describe description idle => exact rises
  | @answer below sight invocation reply idle =>
      obtain ⟨_, above, top, part⟩ := rises.2 sight idle
      obtain ⟨-, same⟩ := List.cons.inj top
      exact ⟨same ▸ part, by simp⟩
  | @panic below sight invocation message idle =>
      obtain ⟨_, above, top, part⟩ := rises.2 sight idle
      obtain ⟨-, same⟩ := List.cons.inj top
      exact ⟨same ▸ part, by simp⟩

/-- A piece of a run above `base`, made of moves that are allowed, up to the end
of the work there or to some point before it. -/
inductive Course (allow : Machine → Move → Prop) (base : List Frame) :
    Machine → Machine → Prop where
  | start (machine : Machine) : Course allow base machine machine
  | move {machine after : Machine} {move : Move} (busy : ¬ Over base machine)
      (allowed : allow machine move) (rest : Course allow base (machine.act move) after) :
      Course allow base machine after

/-- Every course that comes to its end does so with `goal`. -/
def Ends (allow : Machine → Move → Prop) (base : List Frame) (goal : Machine → Prop)
    (machine : Machine) : Prop :=
  ∀ after, Course allow base machine after → Over base after → goal after

section Courses

variable {allow : Machine → Move → Prop} {base : List Frame} {goal : Machine → Prop}
  {machine after : Machine}

theorem Course.reached (course : Course allow base machine after) :
    ∃ moves, machine.run moves = after := by
  induction course with
  | start machine => exact ⟨[], rfl⟩
  | @move machine after move busy allowed rest ih =>
      obtain ⟨moves, reached⟩ := ih
      exact ⟨move :: moves, reached⟩

theorem Course.trans {between : Machine} (first : Course allow base machine between)
    (rest : Course allow base between after) : Course allow base machine after := by
  induction first with
  | start machine => exact rest
  | move busy allowed first ih => exact .move busy allowed (ih rest)

/-- A call of the client, taken as a whole. -/
structure Called (allow : Machine → Move → Prop) (call : Call) (machine after : Machine) :
    Prop where
  idle : ∃ sight, machine.control = .client sight
  admitted : machine.world.admits call = true
  course : Course allow machine.stack (machine.begin call) after
  ceased : Over machine.stack after

theorem act_call {call : Call} {sight : Sight} (idle : machine.control = .client sight)
    (admitted : machine.world.admits call = true) :
    machine.act (.call call) = machine.begin call := by
  simp [act, idle, admitted]

theorem Called.begun {call : Call} (called : Called allow call machine after) :
    machine.act (.call call) = machine.begin call := by
  obtain ⟨sight, idle⟩ := called.idle
  exact act_call idle called.admitted

theorem Called.reached {call : Call} (called : Called allow call machine after) :
    ∃ moves, machine.run moves = after := by
  obtain ⟨moves, same⟩ := called.course.reached
  exact ⟨.call call :: moves, by rw [run_cons, called.begun, same]⟩

theorem Course.keeps {law : Machine → Prop} (course : Course allow base machine after)
    (kept : ∀ before move, Rises base before → ¬ Over base before → allow before move →
      law before → law (before.act move))
    (rises : Rises base machine) (first : law machine) : Rises base after ∧ law after := by
  induction course with
  | start machine => exact ⟨rises, first⟩
  | move busy allowed rest ih =>
      exact ih (rises_of_moved (moved_act _ _) rises busy) (kept _ _ rises busy allowed first)

theorem Ends.weaken {weaker : Machine → Prop} (ends : Ends allow base goal machine)
    (weaken : ∀ after, Over base after → goal after → weaker after) :
    Ends allow base weaker machine :=
  fun after course ceased => weaken after ceased (ends after course ceased)

/-- A piece of a run is part of the work above some frames, or comes after its end. -/
theorem Course.split {upper : List Frame} (course : Course allow base machine after)
    (rises : Rises upper machine) :
    Course allow upper machine after ∧ Rises upper after ∨
      ∃ between, Course allow upper machine between ∧ Over upper between ∧
        Course allow base between after := by
  induction course with
  | start machine => exact .inl ⟨.start machine, rises⟩
  | @move machine after move busy allowed rest ih =>
      by_cases done : Over upper machine
      · exact .inr ⟨machine, .start machine, done, .move busy allowed rest⟩
      · rcases ih (rises_of_moved (moved_act _ _) rises done) with
          ⟨above, risen⟩ | ⟨between, above, ceased, below⟩
        · exact .inl ⟨.move done allowed above, risen⟩
        · exact .inr ⟨between, .move done allowed above, ceased, below⟩

/-- A run is still part of the work above some frames, or comes after its end. -/
theorem run_split {upper : List Frame} (rises : Rises upper machine) (later : List Move) :
    Rises upper (machine.run later) ∨ ∃ between more,
      Course (fun _ _ => True) upper machine between ∧ Over upper between ∧
        machine.run later = between.run more := by
  induction later generalizing machine with
  | nil => exact .inl rises
  | cons move later ih =>
      by_cases done : Over upper machine
      · exact .inr ⟨machine, move :: later, .start machine, done, rfl⟩
      · rcases ih (rises_of_moved (moved_act _ _) rises done) with
          risen | ⟨between, more, above, ceased, same⟩
        · exact .inl risen
        · exact .inr ⟨between, more, .move done trivial above, ceased, same⟩

/-- Work above more frames is part of the work above fewer. -/
theorem Course.lower {upper : List Frame} (course : Course allow upper machine after)
    (rises : Rises upper machine) (deeper : base.length < upper.length) :
    Course allow base machine after := by
  induction course with
  | start machine => exact .start machine
  | @move machine after move busy allowed rest ih =>
      refine .move (fun ceased => ?_) allowed (ih (rises_of_moved (moved_act _ _) rises busy))
      have longer := rises.1.length_le
      rw [ceased.1] at longer
      omega

theorem ends_of_over (ceased : Over base machine) (holds : goal machine) :
    Ends allow base goal machine := by
  intro after course _
  cases course with
  | start => exact holds
  | move busy => exact absurd ceased busy

theorem act_of_working (working : ∀ sight, machine.control ≠ .client sight) (move : Move) :
    machine.act move = machine ∨ machine.act move = machine.tick := by
  cases control : machine.control with
  | client sight => exact absurd control (working sight)
  | _ => cases move <;> simp [act, control]

theorem run_of_working (working : ∀ sight, machine.control ≠ .client sight) (later : List Move) :
    machine.run later = machine ∨ ∃ more, machine.run later = machine.tick.run more := by
  induction later with
  | nil => exact .inl rfl
  | cons move later ih =>
      rw [run_cons]
      rcases act_of_working working move with same | ticked
      · rw [same]
        exact ih
      · rw [ticked]
        exact .inr ⟨later, rfl⟩

/-- A task that control has left was begun. -/
theorem run_of_task {task : Task} {later : List Move} (working : machine.control = .task task)
    (left : (machine.run later).control ≠ .task task) :
    ∃ more, machine.run later = machine.tick.run more := by
  refine (run_of_working (fun sight same => ?_) later).resolve_left fun same => ?_
  · cases working.symm.trans same
  · exact left ((congrArg Machine.control same).trans working)

/-- The library that works goes on with a step. -/
theorem Course.tick (course : Course allow base machine after) (busy : ¬ Over base machine)
    (working : ∀ sight, machine.control ≠ .client sight) (ceased : Over base after) :
    Course allow base machine machine.tick ∧ Course allow base machine.tick after := by
  induction course with
  | start machine => exact absurd ceased busy
  | @move machine after move _ allowed rest ih =>
      obtain same | ticked := act_of_working working move
      · rw [same] at ih
        exact ih busy working ceased
      · rw [← ticked]
        exact ⟨.move busy allowed (.start _), rest⟩

/-- The work above a frame comes to its end on the way, and its reply or its panic goes
through the frame. -/
theorem Course.through {frame : Frame} {upper : List Frame} (course : Course allow base machine after)
    (ceased : Over base after) (rises : Rises (frame :: upper) machine) (part : base <:+ upper) :
    ∃ below : Machine, below.stack = upper ∧
      ((∃ reply, below.control = .reply reply ∧
          Course allow base machine (below.resume reply frame) ∧
            Course allow base (below.resume reply frame) after) ∨
        ∃ message, below.control = .panic message ∧
          Course allow base machine (below.unwind message frame) ∧
            Course allow base (below.unwind message frame) after) := by
  have deeper : base.length < (frame :: upper).length := Nat.lt_succ_of_le part.length_le
  rcases course.split rises with ⟨-, risen⟩ | ⟨between, above, reaches, rest⟩
  · have longer := risen.1.length_le
    rw [ceased.1] at longer
    omega
  · have begun := above.lower rises deeper
    have busy : ¬ Over base between := by
      intro ceased
      rw [reaches.1.symm.trans ceased.1] at deeper
      exact Nat.lt_irrefl _ deeper
    obtain ⟨world, stack, control, journal⟩ := between
    obtain ⟨top, reaches⟩ := reaches
    have top : stack = frame :: upper := top
    subst top
    cases control with
    | client sight => cases reaches
    | task task => cases reaches
    | stopped => cases reaches
    | reply reply =>
        obtain ⟨taken, rest⟩ := rest.tick busy (by simp) ceased
        exact ⟨⟨world, upper, .reply reply, journal⟩, rfl,
          .inl ⟨reply, rfl, begun.trans taken, rest⟩⟩
    | panic message =>
        obtain ⟨taken, rest⟩ := rest.tick busy (by simp) ceased
        exact ⟨⟨world, upper, .panic message, journal⟩, rfl,
          .inr ⟨message, rfl, begun.trans taken, rest⟩⟩

theorem ends_tick (busy : ¬ Over base machine) (working : ∀ sight, machine.control ≠ .client sight)
    (ends : Ends allow base goal machine.tick) : Ends allow base goal machine :=
  fun after course ceased => ends after (course.tick busy working ceased).2 ceased

theorem ends_task {task : Task} (rest : Ends allow base goal ((machine.turn task).perform task)) :
    Ends allow base goal (machine.turn task) :=
  ends_tick (fun ceased => by cases ceased.2) (fun _ same => by cases same) rest

/-- The work above a frame comes to its end before the work below it does. -/
theorem ends_bind {frame : Frame} {middle : Machine → Prop} (rises : Rises (frame :: base) machine)
    (above : Ends allow (frame :: base) middle machine)
    (below : ∀ between, Over (frame :: base) between → middle between →
      Ends allow base goal between) : Ends allow base goal machine := by
  intro after course ceased
  -- As long as the work above the frame goes on, a step of the course is a step of that work.
  induction course with
  | start machine =>
      have longer := rises.1.length_le
      rw [ceased.1, List.length_cons] at longer
      omega
  | @move machine after move busy allowed rest ih =>
      by_cases done : Over (frame :: base) machine
      · exact below machine done (above machine (.start machine) done) after
          (.move busy allowed rest) ceased
      · refine ih (rises_of_moved (moved_act _ _) rises done) ?_ ceased
        exact fun final course ceased => above final (.move done allowed course) ceased

/-- The work above a frame is done, and its reply or its panic goes through the
frame. -/
theorem ends_frame {frame : Frame} {middle : Machine → Prop} (rises : Rises (frame :: base) machine)
    (above : Ends allow (frame :: base) middle machine)
    (resumed : ∀ (below : Machine) (reply : Reply), below.stack = base →
      below.control = .reply reply → middle (below.push frame) →
        Ends allow base goal (below.resume reply frame))
    (unwound : ∀ (below : Machine) (message : String), below.stack = base →
      below.control = .panic message → middle (below.push frame) →
        Ends allow base goal (below.unwind message frame)) :
    Ends allow base goal machine := by
  refine ends_bind rises above fun between ceased holds => ?_
  obtain ⟨world, stack, control, journal⟩ := between
  obtain ⟨top, ceased⟩ := ceased
  have top : stack = frame :: base := top
  subst top
  have busy : ¬ Over base ⟨world, frame :: base, control, journal⟩ := by
    intro ceased
    have length := congrArg List.length ceased.1
    simp at length
  cases control with
  | client sight => simp [Control.isOver] at ceased
  | task task => simp [Control.isOver] at ceased
  | stopped => simp [Control.isOver] at ceased
  | reply reply =>
      have ends := resumed ⟨world, base, .reply reply, journal⟩ reply rfl rfl holds
      exact ends_tick busy (by simp) ends
  | panic message =>
      have ends := unwound ⟨world, base, .panic message, journal⟩ message rfl rfl holds
      exact ends_tick busy (by simp) ends

theorem ends_of_kept {law : Machine → Prop}
    (kept : ∀ before move, Rises base before → ¬ Over base before → allow before move →
      law before → law (before.act move))
    (rises : Rises base machine) (first : law machine) : Ends allow base law machine :=
  fun _ course _ => (course.keeps kept rises first).2

theorem ends_of_stopped (stopped : machine.control = .stopped) : Ends allow base goal machine := by
  intro after course ceased
  induction course with
  | start machine => simp [Over, stopped, Control.isOver] at ceased
  | @move machine after move busy allowed rest ih =>
      have same : machine.act move = machine := by
        cases move <;> simp [act, tick, stopped]
      exact ih (by rw [same]; exact stopped) ceased

/-- A panic goes on when what it had to let go is gone. -/
theorem ends_rethrown {message : String} (rises : Rises (.rethrowing message :: base) machine) :
    Ends allow base (fun after => after.control = .panic message) machine := by
  have above : Ends allow (.rethrowing message :: base) (fun _ => True) machine :=
    fun _ _ _ => trivial
  refine ends_frame rises above ?_ ?_
  · intro below reply bottom replied _
    exact ends_of_over ⟨bottom, rfl⟩ rfl
  · intro below other bottom panicking _
    exact ends_of_stopped rfl

theorem ends_rethrowing {message : String} (rises : Rises (.rethrowing message :: base) machine) :
    Ends allow base (fun after => ∃ message, after.control = .panic message) machine :=
  (ends_rethrown rises).weaken fun _ _ panicking => ⟨message, panicking⟩

def isAbove (depth : Nat) (machine : Machine) : Bool :=
  machine.stack.length != depth || !machine.control.isOver

theorem course_run (moves : List Move)
    (busy : ∀ earlier < moves.length, isAbove base.length (machine.run (moves.take earlier)) = true)
    (allowed : ∀ move ∈ moves, ∀ machine, allow machine move) :
    Course allow base machine (machine.run moves) := by
  induction moves generalizing machine with
  | nil => exact .start machine
  | cons move moves ih =>
      refine .move (fun ceased => ?_) (allowed move (List.mem_cons_self ..) machine)
        (ih (fun earlier less => ?_) ?_)
      · have above := busy 0 (Nat.succ_pos moves.length)
        simp [isAbove, ceased.1, ceased.2] at above
      · exact busy (earlier + 1) (Nat.succ_lt_succ less)
      · exact fun move member => allowed move (List.mem_cons_of_mem _ member)

theorem course_ticks (count : Nat)
    (busy : ∀ earlier < count, isAbove base.length (machine.run (.replicate earlier .tick)) = true)
    (allowed : ∀ machine, allow machine .tick) :
    Course allow base machine (machine.run (.replicate count .tick)) := by
  refine course_run _ (fun earlier less => ?_) (fun move member => ?_)
  · rw [List.length_replicate] at less
    rw [List.take_replicate, Nat.min_eq_left (Nat.le_of_lt less)]
    exact busy earlier less
  · rw [(List.mem_replicate.mp member).2]
    exact allowed

/-- A call that the library deals with alone. -/
theorem called_ticks {call : Call} {sight : Sight} (count : Nat)
    (idle : machine.control = .client sight) (admitted : machine.world.admits call = true)
    (allowed : ∀ machine, allow machine .tick)
    (busy : ∀ earlier < count,
      isAbove machine.stack.length ((machine.begin call).run (.replicate earlier .tick)) = true)
    (ceased : Over machine.stack ((machine.begin call).run (.replicate count .tick))) :
    Called allow call machine ((machine.begin call).run (.replicate count .tick)) :=
  ⟨⟨sight, idle⟩, admitted, course_ticks count busy allowed, ceased⟩

end Courses

end Handoff.Machine
