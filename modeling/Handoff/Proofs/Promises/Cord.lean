import Handoff.Proofs.Moves

namespace Handoff

/-! The cord of a promise.

The cord of a promise is all of the machine that concerns it: its row in the
table, the handlers that a dispatch still has to call, and its past.  A move of
the machine moves the cord of every promise by one of the steps below. -/

namespace Entry

def promise? : Entry → Option Nat
  | .registered promise _ | .told promise _ _ | .settled promise _ => some promise
  | _ => none

def registered? : Entry → Option Nat
  | .registered _ registration => some registration
  | _ => none

def told? : Entry → Option (Nat × Outcome)
  | .told _ registration outcome => some (registration, outcome)
  | _ => none

end Entry

namespace History

def registered (entries : List Entry) : List Nat :=
  entries.filterMap Entry.registered?

def told (entries : List Entry) : List (Nat × Outcome) :=
  entries.filterMap Entry.told?

@[simp] theorem registered_append (past : List Entry) (entry : Entry) :
    registered (past ++ [entry]) = registered past ++ entry.registered?.toList := by
  cases found : entry.registered? <;> simp [registered, found]

@[simp] theorem told_append (past : List Entry) (entry : Entry) :
    told (past ++ [entry]) = told past ++ entry.told?.toList := by
  cases found : entry.told? <;> simp [told, found]

end History

attribute [simp] Entry.registered? Entry.told?

/-- What is left of a dispatch: the outcome, and the handlers still to be called. -/
abbrev Dispatch : Type := Outcome × List Registration

structure Cord where
  promise : Promise
  made : Prop
  /-- The dispatch that control is about to go on with. -/
  turn : Option Dispatch
  /-- The dispatches that wait on the stack, innermost first. -/
  held : List Dispatch
  /-- A bound on the numbers of registrations. -/
  counter : Nat
  past : List Entry

def Task.dispatch? (index : Nat) : Task → Option Dispatch
  | .dispatch promise outcome waiting => if promise = index then some (outcome, waiting) else none
  | _ => none

def Control.dispatch? (index : Nat) : Control → Option Dispatch
  | .task work => work.dispatch? index
  | _ => none

def Frame.dispatch? (index : Nat) : Frame → Option Dispatch
  | .dispatching promise outcome waiting =>
      if promise = index then some (outcome, waiting) else none
  | _ => none

namespace Machine

def promisePast (machine : Machine) (index : Nat) : List Entry :=
  machine.journal.reverse.filter fun entry => entry.promise? = some index

/-- The handlers that were registered with a promise, in order. -/
def registered (machine : Machine) (index : Nat) : List Nat :=
  History.registered (machine.promisePast index)

/-- The handlers of a promise that were called, in order. -/
def told (machine : Machine) (index : Nat) : List (Nat × Outcome) :=
  History.told (machine.promisePast index)

def cord (machine : Machine) (index : Nat) : Cord where
  promise := machine.world.promise index
  made := index < machine.world.promises.size
  turn := machine.control.dispatch? index
  held := machine.stack.filterMap (Frame.dispatch? index)
  counter := machine.world.registrations
  past := machine.promisePast index

end Machine

namespace Cord

def blank : Cord :=
  ⟨⟨.pending [], 0, false⟩, False, none, [], 0, []⟩

def look (cord : Cord) (turn : Option Dispatch) : Cord :=
  { cord with turn }

def grow (cord : Cord) (made : Prop) : Cord :=
  { cord with made := cord.made ∨ made }

def count (cord : Cord) : Cord :=
  { cord with counter := cord.counter + 1 }

def become (cord : Cord) (promise : Promise) : Cord :=
  { cord with promise, made := True }

def note (cord : Cord) (entry : Entry) : Cord :=
  { cord with past := cord.past ++ [entry] }

/-- An entry is noted if it is about promise `index`. -/
def hear (cord : Cord) (index : Nat) (entry : Entry) : Cord :=
  if entry.promise? = some index then cord.note entry else cord

def leave (cord : Cord) (held : List Dispatch) : Cord :=
  { cord with held }

/-- A frame goes on the stack; it may hold the rest of a dispatch. -/
def meet (cord : Cord) : Option Dispatch → Cord
  | none => cord
  | some dispatch => cord.leave (dispatch :: cord.held)

/-- What one move of the machine does to the cord of promise `index`. -/
inductive Step (index : Nat) (cord : Cord) : Cord → Prop where
  | still (made : Prop) : Step index cord (cord.grow made)
  | skip (made : Prop) : Step index cord (cord.count.grow made)
  | make (promise : Promise) (fresh : ¬ cord.made) (unheard : promise.waiting = []) :
      Step index cord (cord.become promise)
  | share (promise : Promise) (same : promise.state = cord.promise.state) :
      Step index cord (cord.become promise)
  | settle (outcome : Outcome) (waiting : List Registration) (idle : cord.turn = none)
      (pending : cord.promise.state = .pending waiting) :
      Step index cord (((cord.become (cord.promise.settle outcome)).note
        (.settled index outcome)).look (some (outcome, waiting)))
  | wait (handler : CompletionHandler) (waiting : List Registration) (idle : cord.turn = none)
      (pending : cord.promise.state = .pending waiting) :
      Step index cord ((cord.count.note (.registered index cord.counter)).become
        (cord.promise.enqueue ⟨cord.counter, handler⟩))
  /-- A handler that comes late is called at once. -/
  | late (outcome : Outcome) (idle : cord.turn = none)
      (settled : cord.promise.state = .settled outcome) :
      Step index cord ((cord.count.note (.registered index cord.counter)).note
        (.told index cord.counter outcome))
  | tell (registration : Registration) (waiting : List Registration) (outcome : Outcome)
      (turn : cord.turn = some (outcome, registration :: waiting)) :
      Step index cord (((cord.note (.told index registration.number outcome)).leave
        ((outcome, waiting) :: cord.held)).look none)
  | finish (outcome : Outcome) (turn : cord.turn = some (outcome, [])) :
      Step index cord (cord.look none)
  | resume (dispatch : Dispatch) (held : List Dispatch) (idle : cord.turn = none)
      (top : cord.held = dispatch :: held) :
      Step index cord ((cord.leave held).look (some dispatch))
  /-- A panic takes a dispatch off the stack. -/
  | drop (dispatch : Dispatch) (held : List Dispatch) (idle : cord.turn = none)
      (top : cord.held = dispatch :: held) :
      Step index cord (cord.leave held)

variable {cord : Cord} {index : Nat}

theorem Step.unchanged {after : Cord} (same : after = cord) : Step index cord after := by
  simpa [same, grow] using @Step.still index cord False

theorem look_same {turn : Option Dispatch} (same : cord.turn = turn) : cord.look turn = cord := by
  subst same
  rfl

theorem Step.quiet {after : Cord} {turn : Option Dispatch} (same : after = cord.look turn)
    (idle : cord.turn = turn) : Step index cord after :=
  .unchanged (same.trans (look_same idle))

@[simp] theorem look_grow (turn : Option Dispatch) (made : Prop) :
    (cord.grow made).look turn = (cord.look turn).grow made := rfl

@[simp] theorem held_note (entry : Entry) : (cord.note entry).held = cord.held := rfl

@[simp] theorem leave_leave (first second : List Dispatch) :
    (cord.leave first).leave second = cord.leave second := rfl

@[simp] theorem leave_held : cord.leave cord.held = cord := rfl

@[simp] theorem grow_false : cord.grow False = cord := by
  simp [grow]

end Cord

namespace Machine

variable (machine : Machine) (index : Nat)

@[simp] theorem world_withWorld (world : World) : (machine.withWorld world).world = world := rfl

@[simp] theorem withWorld_withWorld (first second : World) :
    (machine.withWorld first).withWorld second = machine.withWorld second := rfl

@[simp] theorem cord_promise : (machine.cord index).promise = machine.world.promise index := rfl

@[simp] theorem cord_counter : (machine.cord index).counter = machine.world.registrations := rfl

@[simp] theorem cord_addAccumulator (world : World) (accumulator : Accumulator) :
    (machine.withWorld (world.addAccumulator accumulator)).cord index =
      (machine.withWorld world).cord index := rfl

@[simp] theorem cord_addBody (world : World) (body : Body) :
    (machine.withWorld (world.addBody body)).cord index = (machine.withWorld world).cord index := rfl

@[simp] theorem cord_addChannel (world : World) (channel : Channel) :
    (machine.withWorld (world.addChannel channel)).cord index =
      (machine.withWorld world).cord index := rfl

@[simp] theorem cord_addHandler (world : World) (handler : ChunkHandler) :
    (machine.withWorld (world.addHandler handler)).cord index =
      (machine.withWorld world).cord index := rfl

@[simp] theorem cord_withWorld_world :
    (machine.withWorld machine.world).cord index = machine.cord index := rfl

@[simp] theorem cord_countCauses (causes : Nat) :
    (machine.withWorld { machine.world with causes }).cord index = machine.cord index := rfl

@[simp] theorem cord_countRegistrations :
    (machine.withWorld { machine.world with
      registrations := machine.world.registrations + 1 }).cord index =
      (machine.cord index).count := rfl

@[simp] theorem cord_setAccumulator (other : Nat) (accumulator : Accumulator) :
    (machine.setAccumulator other accumulator).cord index = machine.cord index := rfl

@[simp] theorem cord_setBody (other : Nat) (body : Body) :
    (machine.setBody other body).cord index = machine.cord index := rfl

@[simp] theorem cord_setChannel (other : Nat) (channel : Channel) :
    (machine.setChannel other channel).cord index = machine.cord index := rfl

@[simp] theorem cord_setHandler (other : Nat) (handler : Option ChunkHandler) :
    (machine.setHandler other handler).cord index = machine.cord index := rfl

@[simp] theorem cord_setPromise_own (promise : Promise) :
    (machine.setPromise index promise).cord index = (machine.cord index).become promise := by
  have made : (index < max machine.world.promises.size (index + 1)) = True := eq_true (by omega)
  simp only [cord, setPromise, withWorld, World.setPromise, World.promise, Cord.become, promisePast,
    Store.size_set, Store.get_set_same, made]

theorem cord_setPromise_other {other : Nat} (promise : Promise) (apart : index ≠ other) :
    (machine.setPromise other promise).cord index =
      (machine.cord index).grow (index ≤ other) := by
  have made : (index < max machine.world.promises.size (other + 1)) =
      (index < machine.world.promises.size ∨ index ≤ other) := by
    refine propext ⟨fun less => ?_, fun less => ?_⟩ <;> omega
  simp only [cord, setPromise, withWorld, World.setPromise, World.promise, Cord.grow, promisePast,
    Store.get_set_other _ _ apart, Store.size_set, made]

@[simp] theorem cord_note (entry : Entry) :
    (machine.note entry).cord index = (machine.cord index).hear index entry := by
  by_cases own : entry.promise? = some index <;>
    simp [cord, note, promisePast, own, Cord.hear, Cord.note]

@[simp] theorem cord_push (frame : Frame) :
    (machine.push frame).cord index = (machine.cord index).meet (frame.dispatch? index) := by
  cases own : frame.dispatch? index <;>
    simp [cord, push, promisePast, own, Cord.meet, Cord.leave]

@[simp] theorem cord_turn (task : Task) :
    (machine.turn task).cord index = (machine.cord index).look (task.dispatch? index) := rfl

@[simp] theorem cord_reply (reply : Reply) :
    (machine.reply reply).cord index = (machine.cord index).look none := rfl

@[simp] theorem cord_control (control : Control) :
    ({ machine with control } : Machine).cord index =
      (machine.cord index).look (control.dispatch? index) := rfl

attribute [simp] Cord.hear Cord.meet Entry.promise? Frame.dispatch? Task.dispatch?
  Control.dispatch?

@[simp] theorem cord_log (notice : Notice) :
    (machine.log notice).cord index = machine.cord index := by
  simp [log]

@[simp] theorem cord_logs (notices : List Notice) :
    (notices.foldl log machine).cord index = machine.cord index := by
  induction notices generalizing machine with
  | nil => rfl
  | cons notice rest ih => exact (ih (machine.log notice)).trans (machine.cord_log index notice)

@[simp] theorem cord_invoke (invocation : Invocation) :
    (machine.invoke invocation).cord index = (machine.cord index).look none := by
  change (((machine.note (.invoked invocation)).push (.client invocation)).cord index).look none = _
  simp

end Machine

end Handoff
