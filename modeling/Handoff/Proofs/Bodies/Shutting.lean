import Handoff.Proofs.Bodies.Making

namespace Handoff

/-! A stream that shuts.

A stream shuts when it is closed, or when the next steps of the library close it:
control is about to end the stream, or to tell the handler that aborts it, and no
client code runs before that is done.  A stream that shuts goes on to do so. -/

namespace Strand

variable {index : Nat} {strand after : Strand}

theorem Step.closed (step : Step index strand after) (handled : strand.Handled)
    (closed : strand.accumulator.closed = true) : after.accumulator.closed = true := by
  cases step with
  | make ceiling fresh =>
      rw [(handled.unmade fresh).1] at closed
      cases closed
  | close ending idle opened => rw [closed] at opened; cases opened
  | _ => first | exact closed | rfl

/-- A closed stream at rest has let its handler go. -/
theorem Marked.unparked (marked : strand.Marked) (handled : strand.Handled)
    (closed : strand.accumulator.closed = true) (away : strand.attention = .away)
    (handler : ChunkHandler) : strand.accumulator.stage ≠ .parked handler := by
  intro parked
  have dry : strand.accumulator.queue = [] := by simpa [away] using handled.dry handler parked
  have idle := handled.idle (by simp [parked])
  have whole := marked.whole (by simp [parked])
  obtain ⟨chunks, shape⟩ := marked.shape (by simp [ceased, parked, idle])
  have unclosed : History.closings strand.past = [] := by
    rw [dry] at shape
    simpa using (List.append_eq_nil_iff.mp shape.symm).2
  simpa [unclosed, whole] using marked.marked.mp closed

end Strand

/-- Control is about to close a stream. -/
def Control.shuts (accumulator : Nat) : Control → Prop
  | .task (.finish index _) => index = accumulator
  | .task (.tell handler outcome) => handler = .aborting accumulator ∧ outcome.fails = true
  | .task (.dispatch _ outcome waiting) =>
      outcome.fails = true ∧ ∃ number rest, waiting = ⟨number, .aborting accumulator⟩ :: rest
  | _ => False

namespace Machine

variable {machine before after : Machine} {accumulator : Nat}

def Shuts (machine : Machine) (accumulator : Nat) : Prop :=
  (machine.world.accumulator accumulator).closed = true ∨ machine.control.shuts accumulator

theorem tell_aborting {outcome : Outcome} (fails : outcome.fails = true) :
    machine.tell (.aborting accumulator) outcome = machine.turn (.finish accumulator .aborted) := by
  cases outcome with
  | resolved value => cases fails
  | failed cause => rfl
  | cancelled force => rfl

theorem closed_finish (ending : Ending) :
    ((machine.finish accumulator ending).world.accumulator accumulator).closed = true := by
  simp only [finish]
  split
  case isTrue closed => exact closed
  case isFalse =>
      have row := accumulator_setAccumulator machine accumulator accumulator
        ((machine.world.accumulator accumulator).close ending)
      rw [if_pos rfl] at row
      exact (congrArg Accumulator.closed row).trans rfl

theorem shuts_perform {task : Task} (shuts : (Control.task task).shuts accumulator) :
    (machine.perform task).Shuts accumulator := by
  cases task with
  | finish index ending =>
      obtain rfl : index = accumulator := shuts
      exact .inl (closed_finish ending)
  | tell handler outcome =>
      obtain ⟨rfl, fails⟩ := shuts
      refine .inr ?_
      rw [perform, tell_aborting fails]
      exact rfl
  | dispatch promise outcome waiting =>
      obtain ⟨fails, number, rest, rfl⟩ := shuts
      exact .inr ⟨rfl, fails⟩
  | _ => exact shuts.elim

theorem Shuts.moved (shuts : before.Shuts accumulator)
    (handled : (before.strand accumulator).Handled) (moved : before.Moved after) :
    after.Shuts accumulator := by
  rcases shuts with closed | shuts
  · exact .inl ((Strand.step_of_moved moved accumulator).closed handled closed)
  · cases moved with
    | rest => exact .inr shuts
    | perform working =>
        rw [working] at shuts
        exact shuts_perform shuts
    | @resume below reply frame replied =>
        have shuts : below.control.shuts accumulator := shuts
        rw [replied] at shuts
        exact shuts.elim
    | @unwind below message frame panicking =>
        have shuts : below.control.shuts accumulator := shuts
        rw [panicking] at shuts
        exact shuts.elim
    | surface empty ceased =>
        cases control : before.control with
        | task task => simp [control, Control.isOver] at ceased
        | _ =>
            rw [control] at shuts
            exact shuts.elim
    | begin idle =>
        rw [idle] at shuts
        exact shuts.elim
    | describe description idle =>
        rw [idle] at shuts
        exact shuts.elim
    | @answer below sight invocation reply idle =>
        have shuts : below.control.shuts accumulator := shuts
        rw [idle] at shuts
        exact shuts.elim
    | @panic below sight invocation message idle =>
        have shuts : below.control.shuts accumulator := shuts
        rw [idle] at shuts
        exact shuts.elim

theorem Shuts.closed (shuts : machine.Shuts accumulator)
    (settled : ¬ machine.control.shuts accumulator) :
    (machine.world.accumulator accumulator).closed = true :=
  shuts.resolve_right settled

end Machine

end Handoff
