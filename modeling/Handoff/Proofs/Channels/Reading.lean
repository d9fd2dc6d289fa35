import Handoff.Proofs.Bodies.Shutting
import Handoff.Proofs.Channels.Current

namespace Handoff

/-! What the past of a run holds.

The journal only grows.  So what a reader got stays got, and a stream that was closed
has accepted all that it will ever accept. -/

/-- A stream that was closed accepts nothing more. -/
theorem Strand.Step.accepted {index : Nat} {strand after : Strand} (step : Step index strand after)
    (closed : strand.accumulator.closed = true) :
    History.accepted after.past = History.accepted strand.past := by
  cases step with
  | accept bytes idle fits => simp [Accumulator.refusal?, closed] at fits
  | _ => simp [look, note, become, enter, leave, grow]

namespace Machine

variable {machine before after : Machine} {channel : Nat}

section Growth

variable (machine)

theorem journal_logs (notices : List Notice) :
    machine.journal <:+ (notices.foldl log machine).journal := by
  induction notices generalizing machine with
  | nil => exact List.suffix_refl _
  | cons notice rest ih => exact (List.suffix_cons _ _).trans (ih (machine.log notice))

theorem journal_feed (handler : ChunkHandler) (bytes : Bytes) :
    machine.journal <:+ (machine.feed handler bytes).journal := by
  cases handler with
  | collecting collector =>
      simp only [feed, raise]
      repeat' split
      · exact List.suffix_refl _
      · exact machine.journal_logs _
      · exact List.suffix_refl _
  | client handler => exact List.suffix_cons _ _
  | logging name => exact List.suffix_cons _ _
  | forwarding channel => exact List.suffix_refl _

theorem journal_forget (handlers : List CompletionHandler) :
    (machine.forget handlers).journal = machine.journal := by
  cases handlers with
  | nil => rfl
  | cons handler rest => cases handler <;> cases rest <;> rfl

theorem journal_perform (task : Task) :
    machine.journal <:+ (machine.perform task).journal := by
  cases task with
  | feed handler bytes => exact machine.journal_feed handler bytes
  | forget handlers => exact machine.journal_forget handlers ▸ List.suffix_refl _
  | dispatch promise outcome waiting =>
      cases waiting with
      | nil => exact List.suffix_refl _
      | cons registration waiting => exact List.suffix_cons _ _
  | tell handler outcome =>
      simp only [perform, tell]
      repeat' split
      all_goals simp [invoke, reply, turn, push, note, log, setChannel, withWorld]
  | feedEnd handler =>
      cases handler <;> simp [perform, feedEnd, invoke, reply, turn, push, note, log, setChannel,
        withWorld]
  | discard handler =>
      cases handler <;> simp [perform, discard, reply, turn, note, setChannel, withWorld]
  | _ =>
      simp only [perform, settle, register, release, deliver, attach, finish, drain, next, letGo,
        abandon]
      repeat' split
      all_goals simp [reply, turn, push, note, log, setPromise, setAccumulator, withWorld,
        List.suffix_cons_iff]

theorem journal_leave (index : Nat) (next : Frame) (otherwise : Control) :
    (machine.leave index next otherwise).journal = machine.journal := by
  simp only [leave]
  split <;> rfl

end Growth

theorem journal_moved (moved : before.Moved after) : before.journal <:+ after.journal := by
  cases moved with
  | perform working => exact before.journal_perform _
  | @resume below reply frame replied =>
      cases frame with
      | leaving body => exact below.journal_leave body _ _ ▸ List.suffix_refl _
      | _ =>
          simp only [resume, letGo]
          repeat' split
          all_goals simp [Machine.reply, turn, push, note, log, setAccumulator, setChannel, setHandler,
            withWorld]
  | @unwind below message frame panicking =>
      cases frame with
      | leaving body => exact below.journal_leave body _ _ ▸ List.suffix_refl _
      | _ => simp [unwind, collapse, turn, push, note, log, setAccumulator, setChannel, setHandler,
          withWorld, List.suffix_cons_iff]
  | @begin _ sight call idle admitted =>
      cases call with
      | poll channel => exact List.suffix_cons _ _
      | dropSender body =>
          have same := journal_leave (before.setBody body
            { before.world.body body with owned := false }) body (.replying .done) (.reply .done)
          exact same ▸ List.suffix_refl _
      | newHandler handler => cases handler <;> exact List.suffix_refl _
      | _ => exact List.suffix_refl _
  | _ => exact List.suffix_refl _

theorem journal_run (machine : Machine) (moves : List Move) :
    machine.journal <:+ (machine.run moves).journal :=
  @run_induction (machine.journal <:+ ·.journal) machine
    (fun _ _ moved earlier => earlier.trans (journal_moved moved)) (List.suffix_refl _) moves

/-- What a reader got stays got. -/
theorem yields_run (machine : Machine) (moves : List Move) (channel : Nat) :
    machine.yields channel <+: (machine.run moves).yields channel := by
  have older := List.reverse_prefix.mpr (machine.journal_run moves)
  exact (older.filterMap _).filterMap _

theorem accepted_run {index : Nat} (handled : (machine.strand index).Handled)
    (closed : (machine.world.accumulator index).closed = true) (moves : List Move) :
    (machine.run moves).accepted index = machine.accepted index := by
  have frozen := @run_induction
    (fun after => (after.strand index).Handled ∧ (after.strand index).accumulator.closed = true ∧
      History.accepted (after.strand index).past = machine.accepted index) machine
    (by
      rintro before after moved ⟨handled, closed, same⟩
      have step := Strand.step_of_moved moved index
      exact ⟨handled.step step, step.closed handled closed, (step.accepted closed).trans same⟩)
    ⟨handled, closed, rfl⟩ moves
  exact frozen.2.2

end Machine

end Handoff
