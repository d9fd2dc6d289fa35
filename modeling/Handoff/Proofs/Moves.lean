import Handoff.Machine.Run

namespace Handoff

/-- What was asked of the library came to an end. -/
def Control.isOver : Control → Bool
  | .reply _ | .panic _ => true
  | .client _ | .task _ | .stopped => false

namespace Machine

/-! What a move can do.

`Moved` lists the ways in which one move takes a machine to another, each with
what it needs.  Frames are taken off a stack by going from `below.push frame` to
a machine made from `below`.  A law that every move keeps is proved by one case
for each way, and holds along runs by `run_induction`. -/

inductive Moved : Machine → Machine → Prop where
  | rest (machine : Machine) : Moved machine machine
  | perform {machine : Machine} {task : Task} (working : machine.control = .task task) :
      Moved machine (machine.perform task)
  | resume {below : Machine} {reply : Reply} {frame : Frame}
      (replied : below.control = .reply reply) :
      Moved (below.push frame) (below.resume reply frame)
  | unwind {below : Machine} {message : String} {frame : Frame}
      (panicking : below.control = .panic message) :
      Moved (below.push frame) (below.unwind message frame)
  /-- The outermost call of the client is over. -/
  | surface {machine : Machine} {sight : Sight} (empty : machine.stack = [])
      (ceased : machine.control.isOver = true) :
      Moved machine { machine with control := .client sight }
  | begin {machine : Machine} {sight : Sight} {call : Call}
      (idle : machine.control = .client sight) (admitted : machine.world.admits call = true) :
      Moved machine (machine.begin call)
  | describe {machine : Machine} {sight : Sight} (description : Cause.Description)
      (idle : machine.control = .client sight) :
      Moved machine (machine.describe description).2
  | answer {below : Machine} {sight : Sight} {invocation : Invocation} {reply : Reply}
      (idle : below.control = .client sight) (accepted : invocation.accepts reply = true) :
      Moved (below.push (.client invocation)) { below with control := .reply reply }
  | panic {below : Machine} {sight : Sight} {invocation : Invocation} {message : String}
      (idle : below.control = .client sight) :
      Moved (below.push (.client invocation)) { below with control := .panic message }

theorem moved_tick (machine : Machine) : Moved machine machine.tick := by
  obtain ⟨world, stack, control, journal⟩ := machine
  cases control with
  | client sight => exact .rest _
  | stopped => exact .rest _
  | task task => exact .perform rfl
  | reply reply =>
      cases stack with
      | nil => exact .surface rfl rfl
      | cons frame stack =>
          exact @Moved.resume ⟨world, stack, .reply reply, journal⟩ _ _ rfl
  | panic message =>
      cases stack with
      | nil => exact .surface rfl rfl
      | cons frame stack =>
          exact @Moved.unwind ⟨world, stack, .panic message, journal⟩ _ _ rfl

/-- The same ways, with the move that was made.  A move that does not fit is ignored. -/
inductive Acted (machine : Machine) : Move → Machine → Prop where
  | rest (move : Move) : Acted machine move machine
  | tick (move : Move) (working : ∀ sight, machine.control ≠ .client sight) :
      Acted machine move machine.tick
  | call {sight : Sight} {call : Call} (idle : machine.control = .client sight)
      (admitted : machine.world.admits call = true) :
      Acted machine (.call call) (machine.begin call)
  | describe {sight : Sight} (description : Cause.Description)
      (idle : machine.control = .client sight) :
      Acted machine (.describe description) (machine.describe description).2
  | answer {sight : Sight} {invocation : Invocation} {reply : Reply} {below : List Frame}
      (idle : machine.control = .client sight) (top : machine.stack = .client invocation :: below)
      (accepted : invocation.accepts reply = true) :
      Acted machine (.answer reply) { machine with stack := below, control := .reply reply }
  | panic {sight : Sight} {invocation : Invocation} {message : String} {below : List Frame}
      (idle : machine.control = .client sight) (top : machine.stack = .client invocation :: below) :
      Acted machine (.panic message) { machine with stack := below, control := .panic message }

theorem acted (machine : Machine) (move : Move) : Acted machine move (machine.act move) := by
  obtain ⟨world, stack, control, journal⟩ := machine
  cases control with
  | client sight =>
      cases move with
      | tick => exact .rest _
      | call call =>
          simp only [act]
          split
          · exact .call rfl ‹_›
          · exact .rest _
      | describe description => exact .describe description rfl
      | answer reply =>
          simp only [act]
          split
          · split
            · exact .answer rfl rfl ‹_›
            · exact .rest _
          · exact .rest _
      | panic message =>
          simp only [act]
          split
          · exact .panic rfl rfl
          · exact .rest _
  | _ =>
      cases move with
      | tick => exact .tick _ (by simp)
      | _ => exact .rest _

theorem moved_act (machine : Machine) (move : Move) : Moved machine (machine.act move) := by
  have acted := machine.acted move
  generalize machine.act move = after at acted
  obtain ⟨world, stack, control, journal⟩ := machine
  cases acted with
  | rest => exact .rest _
  | tick => exact moved_tick _
  | call idle admitted => exact .begin idle admitted
  | describe description idle => exact .describe description idle
  | @answer _ _ _ below idle top accepted =>
      obtain rfl := top
      exact @Moved.answer ⟨world, below, control, journal⟩ _ _ _ idle accepted
  | @panic _ _ _ below idle top =>
      obtain rfl := top
      exact @Moved.panic ⟨world, below, control, journal⟩ _ _ _ idle

@[simp] theorem run_nil (machine : Machine) : machine.run [] = machine := rfl

@[simp] theorem run_cons (machine : Machine) (move : Move) (moves : List Move) :
    machine.run (move :: moves) = (machine.act move).run moves := rfl

theorem run_append (machine : Machine) (earlier later : List Move) :
    machine.run (earlier ++ later) = (machine.run earlier).run later :=
  List.foldl_append

theorem run_induction {law : Machine → Prop} {machine : Machine}
    (kept : ∀ before after, Moved before after → law before → law after)
    (first : law machine) (moves : List Move) : law (machine.run moves) := by
  induction moves generalizing machine with
  | nil => exact first
  | cons move moves ih => exact ih (kept _ _ (machine.moved_act move) first)

end Machine

end Handoff
