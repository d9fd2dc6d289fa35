import Handoff.Proofs.Courses

namespace Handoff.Machine

/-! What the library does by itself.

Between two points at which client code runs only the library is at work, and
nothing the client tries meanwhile changes its course.  A law that is broken while
some work is halfway done, but holds again before client code runs, is therefore
as good as one that every move keeps. -/

/-- The library gets from one machine to another by itself, above `base`. -/
inductive Solo (base : List Frame) : Machine → Machine → Prop
  | still (machine : Machine) : Solo base machine machine
  | tick {machine after : Machine} (busy : ¬ Over base machine)
      (working : ∀ sight, machine.control ≠ .client sight)
      (rest : Solo base machine.tick after) : Solo base machine after

/-- The law holds, or will hold before client code runs. -/
inductive Soon (law : Machine → Prop) : Machine → Prop
  | now {machine : Machine} (holds : law machine) : Soon law machine
  | tick {machine : Machine} (working : ∀ sight, machine.control ≠ .client sight)
      (rest : Soon law machine.tick) : Soon law machine

variable {base : List Frame} {machine middle after : Machine} {law goal : Machine → Prop}

namespace Solo

theorem trans (earlier : Solo base machine middle) (later : Solo base middle after) :
    Solo base machine after := by
  induction earlier with
  | still machine => exact later
  | tick busy working rest ih => exact .tick busy working (ih later)

theorem task {task : Task} (rest : Solo base ((machine.turn task).perform task) after) :
    Solo base (machine.turn task) after :=
  .tick (fun ceased => by cases ceased.2) (fun _ same => by cases same) rest

/-- A reply goes through the frame on top. -/
theorem frame {frame : Frame} {below : Machine} {reply : Reply} (part : base <:+ below.stack)
    (replied : below.control = .reply reply) (rest : Solo base (below.resume reply frame) after) :
    Solo base (below.push frame) after := by
  obtain ⟨world, stack, control, journal⟩ := below
  obtain rfl : control = .reply reply := replied
  refine .tick (fun ceased => ?_) (fun _ same => by cases same) rest
  have longer := part.length_le
  rw [← ceased.1] at longer
  exact absurd longer (Nat.not_succ_le_self _)

theorem ends {allow : Machine → Move → Prop} (solo : Solo base machine after)
    (ends : Ends allow base goal after) : Ends allow base goal machine := by
  induction solo with
  | still machine => exact ends
  | tick busy working rest ih => exact ends_tick busy working (ih ends)

theorem reached (solo : Solo base machine after) : ∃ moves, machine.run moves = after := by
  induction solo with
  | still machine => exact ⟨[], rfl⟩
  | tick busy working rest ih =>
      obtain ⟨moves, same⟩ := ih
      exact ⟨.tick :: moves, same⟩

theorem soon (solo : Solo base machine after) (soon : Soon law after) : Soon law machine := by
  induction solo with
  | still machine => exact soon
  | tick busy working rest ih => exact .tick working (ih soon)

end Solo

namespace Soon

theorem client {sight : Sight} (soon : Soon law machine) (idle : machine.control = .client sight) :
    law machine := by
  cases soon with
  | now holds => exact holds
  | tick working rest => exact absurd idle (working sight)

theorem act {move : Move} (soon : Soon law machine)
    (kept : law machine → Soon law (machine.act move)) : Soon law (machine.act move) := by
  cases soon with
  | now holds => exact kept holds
  | tick working rest =>
      rcases act_of_working working move with same | ticked
      · rw [same]
        exact .tick working rest
      · rw [ticked]
        exact rest

end Soon

end Handoff.Machine
