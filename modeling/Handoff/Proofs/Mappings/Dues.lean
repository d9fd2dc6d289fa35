import Handoff.Proofs.Courses
import Handoff.Proofs.Sinks.Stakes

namespace Handoff

/-! What a mapping function is due.

A function that is given away to be mapped with is due one call for each time it was
given.  The call is due as long as the handler that will make it waits, is registered
or is called; from then on the journal has it.  A step may lose what is due, but it
never makes anything due, so a function is called no more often than it was given. -/

namespace Entry

/-- What a function was applied to. -/
def argument? (function : Nat) : Entry → Option String
  | .invoked (.mapping other value) => if other = function then some value else none
  | _ => none

end Entry

def CompletionHandler.dues (function : Nat) : CompletionHandler → Nat
  | .mapping other _ => if other = function then 1 else 0
  | _ => 0

def Registration.dues (function : Nat) (registration : Registration) : Nat :=
  registration.handler.dues function

def Task.dues (function : Nat) : Task → Nat
  | .dispatch _ _ waiting => Count.total (waiting.map (Registration.dues function))
  | .tell handler _ | .register _ handler => handler.dues function
  | _ => 0

def Control.dues (function : Nat) : Control → Nat
  | .task work => work.dues function
  | _ => 0

def Frame.dues (function : Nat) : Frame → Nat
  | .dispatching _ _ waiting => Count.total (waiting.map (Registration.dues function))
  | _ => 0

def Promise.dues (function : Nat) (promise : Promise) : Nat :=
  Count.total (promise.waiting.map (Registration.dues function))

/-- The move gives a function away to be mapped with. -/
def Move.gives (function : Nat) : Move → Bool
  | .call (.map _ other) => other == function
  | _ => false

namespace Machine

/-- What a function was applied to, call by call. -/
def arguments (machine : Machine) (function : Nat) : List String :=
  machine.journal.reverse.filterMap (Entry.argument? function)

/-- The calls of a function that were made, and those that are due to what control does
not hold. -/
def owed (machine : Machine) (function : Nat) : Nat :=
  Count.total (machine.stack.map (Frame.dues function)) +
    machine.world.promises.weigh (Promise.dues function) + (machine.arguments function).length

def dues (machine : Machine) (function : Nat) : Nat :=
  machine.control.dues function + machine.owed function

section Parts

variable (machine : Machine) (function : Nat)

theorem arguments_note (entry : Entry) : (machine.note entry).arguments function =
    machine.arguments function ++ (entry.argument? function).toList := by
  cases found : entry.argument? function <;> simp [arguments, note, found]

@[simp] theorem dues_turn (task : Task) :
    (machine.turn task).dues function = task.dues function + machine.owed function := rfl

@[simp] theorem dues_reply (reply : Reply) :
    (machine.reply reply).dues function = machine.owed function := Nat.zero_add _

@[simp] theorem owed_note (entry : Entry) : (machine.note entry).owed function =
    machine.owed function + (entry.argument? function).toList.length := by
  rw [owed, arguments_note, List.length_append]
  exact (Nat.add_assoc _ _ _).symm

@[simp] theorem owed_log (notice : Notice) :
    (machine.log notice).owed function = machine.owed function :=
  machine.owed_note function (.notice notice)

@[simp] theorem owed_logs (notices : List Notice) :
    (notices.foldl log machine).owed function = machine.owed function := by
  induction notices generalizing machine with
  | nil => rfl
  | cons notice later ih => exact (ih (machine.log notice)).trans (machine.owed_log function notice)

@[simp] theorem owed_push (frame : Frame) :
    (machine.push frame).owed function = frame.dues function + machine.owed function := by
  simp only [owed, push, List.map_cons, Count.total_cons, arguments]
  omega

@[simp] theorem owed_setAccumulator (index : Nat) (accumulator : Accumulator) :
    (machine.setAccumulator index accumulator).owed function = machine.owed function := rfl

@[simp] theorem owed_setBody (index : Nat) (body : Body) :
    (machine.setBody index body).owed function = machine.owed function := rfl

@[simp] theorem owed_setChannel (index : Nat) (channel : Channel) :
    (machine.setChannel index channel).owed function = machine.owed function := rfl

@[simp] theorem owed_setHandler (index : Nat) (handler : Option ChunkHandler) :
    (machine.setHandler index handler).owed function = machine.owed function := rfl

@[simp] theorem owed_countRegistrations (registrations : Nat) :
    (machine.withWorld { machine.world with registrations }).owed function =
      machine.owed function := rfl

@[simp] theorem owed_countCauses (causes : Nat) :
    (machine.withWorld { machine.world with causes }).owed function = machine.owed function := rfl

theorem owed_setPromise (index : Nat) (promise : Promise) :
    (machine.setPromise index promise).owed function +
        (machine.world.promise index).dues function =
      machine.owed function + promise.dues function := by
  have weighs := machine.world.promises.weigh_set (Promise.dues function) index promise rfl
  simp only [owed, setPromise, withWorld, World.setPromise, World.promise, arguments]
  omega

theorem owed_sameWaiting (index : Nat) (promise : Promise)
    (same : promise.waiting = (machine.world.promise index).waiting) :
    (machine.setPromise index promise).owed function = machine.owed function := by
  have written := machine.owed_setPromise function index promise
  have dues : promise.dues function = (machine.world.promise index).dues function := by
    rw [Promise.dues, Promise.dues, same]
  omega

theorem owed_addPromise (promise : Promise) (unheard : promise.waiting = []) :
    (machine.withWorld (machine.world.addPromise promise)).owed function =
      machine.owed function := by
  have weighs := machine.world.promises.weigh_add (Promise.dues function) promise
  have none : promise.dues function = 0 := by
    rw [Promise.dues, unheard]
    rfl
  simp only [owed, withWorld, World.addPromise, arguments]
  omega

theorem arguments_invoke (invocation : Invocation) : (machine.invoke invocation).arguments function =
    machine.arguments function ++ (Entry.argument? function (.invoked invocation)).toList :=
  machine.arguments_note function (.invoked invocation)

/-- A call that is made was due before, or not at all. -/
theorem dues_invoke (invocation : Invocation) : (machine.invoke invocation).dues function =
    machine.owed function + (Entry.argument? function (.invoked invocation)).toList.length := by
  change 0 + ((machine.note (.invoked invocation)).push (.client invocation)).owed function = _
  rw [owed_push, owed_note]
  exact (Nat.zero_add _).trans (Nat.zero_add _)

end Parts

variable {machine : Machine} {function : Nat}

attribute [simp] Entry.argument? CompletionHandler.dues Task.dues Frame.dues

theorem dues_settle (index : Nat) (outcome : Outcome) :
    (machine.settle index outcome).dues function ≤ machine.owed function := by
  simp only [settle]
  split
  case h_1 => simp
  case h_2 waiting pending =>
      have written := machine.owed_setPromise function index
        ((machine.world.promise index).settle outcome)
      have gone : ((machine.world.promise index).settle outcome).dues function = 0 := rfl
      have waited : (machine.world.promise index).dues function =
          Count.total (waiting.map (Registration.dues function)) := by
        simp [Promise.dues, Promise.waiting, pending]
      simp only [dues_turn, owed_log, owed_note, Task.dues, Entry.argument?, Option.toList,
        List.length_nil]
      omega

theorem dues_tell (handler : CompletionHandler) (outcome : Outcome) :
    (machine.tell handler outcome).dues function ≤
      handler.dues function + machine.owed function := by
  cases handler with
  | mapping other derived =>
      cases outcome with
      | resolved value =>
          simp only [tell, dues_invoke, owed_push, Entry.argument?, CompletionHandler.dues,
            Frame.dues]
          split <;> simp [Nat.add_comm]
      | _ => simp [tell]
  | client handler hearing =>
      simp only [tell]
      split <;> simp [dues_invoke]
  | _ => cases outcome <;> simp [tell]

theorem dues_register (index : Nat) (handler : CompletionHandler) :
    (machine.register index handler).dues function ≤
      handler.dues function + machine.owed function := by
  simp only [register]
  split
  case h_1 waiting pending =>
      let registration : Registration := ⟨machine.world.registrations, handler⟩
      have written := machine.owed_setPromise function index
        ((machine.world.promise index).enqueue registration)
      have joined : ((machine.world.promise index).enqueue registration).dues function =
          (machine.world.promise index).dues function + handler.dues function := by
        simp [Promise.dues, Promise.enqueue, Promise.waiting, pending, Registration.dues,
          registration]
      have noted : (((machine.withWorld { machine.world with
          registrations := machine.world.registrations + 1 }).note
            (.registered index machine.world.registrations)).setPromise index
              ((machine.world.promise index).enqueue registration)).owed function =
          (machine.setPromise index ((machine.world.promise index).enqueue registration)).owed
            function := by
        simp only [owed, setPromise, withWorld, note, World.setPromise, arguments,
          List.reverse_cons, List.filterMap_append, List.filterMap_cons, Entry.argument?,
          List.filterMap_nil, List.append_nil]
      rw [dues_reply, noted]
      omega
  case h_2 outcome settled => simp

/-- A task hands on what is due. -/
theorem dues_perform (task : Task) :
    (machine.perform task).dues function ≤ task.dues function + machine.owed function := by
  cases task with
  | settle promise outcome => exact Nat.le_trans (dues_settle promise outcome) (Nat.le_add_left _ _)
  | dispatch promise outcome waiting =>
      cases waiting with
      | nil => simp [perform, dispatch]
      | cons registration waiting =>
          simp only [perform, dispatch, dues_turn, owed_push, owed_note, Task.dues, Frame.dues,
            Entry.argument?, Option.toList, List.length_nil, List.map_cons, Count.total_cons,
            Registration.dues]
          omega
  | tell handler outcome => exact dues_tell handler outcome
  | register promise handler => exact dues_register promise handler
  | forget handlers =>
      cases handlers with
      | nil => simp [perform, forget]
      | cons handler later =>
          cases handler <;> simp only [perform, forget] <;> split <;> simp
  | release promise =>
      have kept := machine.owed_sameWaiting function promise
        (machine.world.promise promise).removeShare rfl
      simp only [perform, release]
      split <;> simp [kept]
  | deliver index bytes =>
      simp only [perform, deliver]
      split
      · simp
      · split <;> simp
  | attach index handler =>
      simp only [perform, attach]
      split <;> simp
  | finish index ending =>
      simp only [perform, finish]
      split <;> simp
  | drain index =>
      simp only [perform, drain]
      split <;> simp
  | next index handler =>
      simp only [perform, next]
      split
      · simp
      · simp
      · split <;> simp [letGo]
  | feed handler bytes =>
      cases handler with
      | client handler => simp [perform, feed, dues_invoke]
      | collecting collector =>
          simp only [perform, feed]
          split
          · simp
          · split <;> simp [raise]
      | _ => simp [perform, feed]
  | feedEnd handler => cases handler <;> simp [perform, feedEnd, dues_invoke]
  | discard handler => cases handler <;> simp [perform, discard]
  | abandon index =>
      simp only [perform, abandon]
      split <;> simp

theorem dues_leave (index : Nat) {after : Frame} {otherwise : Control}
    (frame : after.dues function = 0) (control : otherwise.dues function = 0) :
    (machine.leave index after otherwise).dues function = machine.owed function := by
  simp only [leave]
  split
  · rw [dues_turn, owed_push, owed_setBody, frame]
    exact (Nat.zero_add _).trans (Nat.zero_add _)
  · rw [dues, control]
    exact Nat.zero_add _

theorem dues_resume (reply : Reply) (frame : Frame) :
    (machine.resume reply frame).dues function ≤ frame.dues function + machine.owed function := by
  cases frame with
  | leaving body => exact Nat.le_of_eq ((dues_leave body rfl rfl).trans (Nat.zero_add _).symm)
  | client invocation =>
      have pushed := machine.owed_push function (.client invocation)
      exact Nat.le_of_eq ((Nat.zero_add _).trans pushed)
  | rethrowing message => exact Nat.le_refl _
  | resolving derived => cases reply <;> simp [resume]
  | _ =>
      simp only [resume, letGo]
      repeat' split
      all_goals simp

theorem dues_unwind {message : String} (panicking : machine.control = .panic message)
    (frame : Frame) :
    (machine.unwind message frame).dues function ≤ frame.dues function + machine.owed function := by
  have still : machine.dues function = machine.owed function := by
    rw [dues, panicking]
    exact Nat.zero_add _
  cases frame with
  | leaving body => exact Nat.le_of_eq ((dues_leave body rfl rfl).trans (Nat.zero_add _).symm)
  | client invocation =>
      have pushed := machine.owed_push function (.client invocation)
      exact Nat.le_of_eq ((Nat.zero_add _).trans pushed)
  | rethrowing other => exact Nat.le_of_eq rfl
  | forgetting _ | dispatching _ _ _ | fed _ _ | fedEnd _ _ | releasing _ | texting _ _ =>
      simp [unwind, collapse]
  | _ => exact Nat.le_trans (Nat.le_of_eq still) (Nat.le_add_left _ _)

theorem dues_begin {call : Call} (admitted : machine.world.admits call = true) :
    (machine.begin call).dues function ≤
      machine.owed function + ((Move.call call).gives function).toNat := by
  have light {after : Machine} (same : after.dues function = machine.owed function) :
      after.dues function ≤ machine.owed function + ((Move.call call).gives function).toNat :=
    Nat.le_trans (Nat.le_of_eq same) (Nat.le_add_right _ _)
  cases call with
  | newPromise => exact light ((dues_reply ..).trans (owed_addPromise _ _ _ rfl))
  | newSettled outcome => exact light ((dues_reply ..).trans (owed_addPromise _ _ _ rfl))
  | map promise other =>
      have added := machine.owed_addPromise function (.inside 1) rfl
      simp only [begin, map, dues_turn, owed_push, added, Task.dues, Frame.dues,
        CompletionHandler.dues, Move.gives]
      split <;> simp_all [Nat.add_comm]
  | newBody config =>
      have added := (machine.withWorld (machine.world.addAccumulator
        (.new config.pendingCeiling))).owed_addPromise function (.inside 1) rfl
      refine light ?_
      simp only [begin, newBody, dues_turn, owed_push, Task.dues, Frame.dues,
        CompletionHandler.dues, Nat.zero_add]
      exact added
  | text body charset =>
      have added := machine.owed_addPromise function (.inside 2) rfl
      exact light (by simp [begin, text, added])
  | dropSink promise =>
      have kept := machine.owed_sameWaiting function promise
        { machine.world.promise promise with owned := false } rfl
      exact light (by simp [begin, kept])
  | newHandler handler =>
      cases handler with
      | collecting charset capacity promise =>
          have kept := (machine.withWorld (machine.world.addHandler
            (.collecting (.new charset capacity promise)))).owed_sameWaiting function promise
              (machine.world.promise promise).addShare rfl
          exact light ((dues_reply ..).trans kept)
      | _ => exact light (dues_reply ..)
  | dropSender body => exact light (dues_leave body rfl rfl)
  | tell handler outcome =>
      cases handler with
      | client _ _ | logging _ => exact light (by simp [begin])
      | _ => simp [World.admits, CompletionHandler.isFree] at admitted
  | newAccumulator _ | chunks _ =>
      refine light ?_
      simp only [begin, chunks, dues_reply, dues_turn, owed_push, Task.dues, Frame.dues,
        Nat.zero_add]
      rfl
  | _ => exact light (by simp [begin, hold, takeHandler])

theorem dues_tick (machine : Machine) (function : Nat) :
    machine.tick.dues function ≤ machine.dues function := by
  obtain ⟨world, stack, control, journal⟩ := machine
  cases control with
  | client sight => exact Nat.le_refl _
  | stopped => exact Nat.le_refl _
  | task task => exact @dues_perform ⟨world, stack, .task task, journal⟩ function task
  | reply reply =>
      cases stack with
      | nil => exact Nat.le_refl _
      | cons frame stack =>
          have resumed := @dues_resume ⟨world, stack, .reply reply, journal⟩ function reply frame
          have pushed := owed_push ⟨world, stack, .reply reply, journal⟩ function frame
          exact Nat.le_trans resumed (Nat.le_of_eq (pushed.symm.trans (Nat.zero_add _).symm))
  | panic message =>
      cases stack with
      | nil => exact Nat.le_refl _
      | cons frame stack =>
          have unwound := @dues_unwind ⟨world, stack, .panic message, journal⟩ function message rfl
            frame
          have pushed := owed_push ⟨world, stack, .panic message, journal⟩ function frame
          exact Nat.le_trans unwound (Nat.le_of_eq (pushed.symm.trans (Nat.zero_add _).symm))

/-- Only giving a function away makes something due. -/
theorem dues_act (machine : Machine) (function : Nat) (move : Move) :
    (machine.act move).dues function ≤ machine.dues function + (move.gives function).toNat := by
  have acted := machine.acted move
  generalize machine.act move = after at acted
  have still : machine.dues function ≤ machine.dues function + (move.gives function).toNat :=
    Nat.le_add_right _ _
  have popped {frame : Frame} {below : List Frame} (top : machine.stack = frame :: below)
      {control : Control} (light : control.dues function = 0) :
      ({ machine with stack := below, control } : Machine).dues function ≤
        machine.dues function := by
    simp only [dues, owed, top, light, List.map_cons, Count.total_cons, arguments]
    omega
  cases acted with
  | rest => exact still
  | tick => exact Nat.le_trans (machine.dues_tick function) still
  | call idle admitted =>
      exact Nat.le_trans (dues_begin admitted) (Nat.add_le_add_right (Nat.le_add_left _ _) _)
  | describe description idle => exact still
  | answer idle top accepted => exact Nat.le_trans (popped top rfl) still
  | panic idle top => exact Nat.le_trans (popped top rfl) still

/-- A function is called no more often than it was given away. -/
theorem dues_run (machine : Machine) (function : Nat) (moves : List Move) :
    (machine.run moves).dues function ≤
      machine.dues function + moves.countP (Move.gives function) := by
  induction moves generalizing machine with
  | nil => exact Nat.le_refl _
  | cons move moves ih =>
      have first := machine.dues_act function move
      have later := ih (machine.act move)
      have counted : (move :: moves).countP (Move.gives function) =
          moves.countP (Move.gives function) + (move.gives function).toNat := by
        cases gives : move.gives function <;> simp [gives]
      rw [run_cons, counted]
      omega

end Machine

end Handoff
