import Handoff.Proofs.Channels.Reading

namespace Handoff

/-! Notes and the calls behind them.

The journal notes what a handler is told or given in the step in which the library turns
to a method of that handler.  If the handler is the client's, or a function of the client
is to be applied, that method is a call of client code.  Here every note is followed to
this call: nothing comes between them, so that the entry of the call is the next one in
the journal.  What is proved of the notes is proved of calls. -/

/-- The call of client code that a task makes. -/
def Task.invocation? : Task → Option Invocation
  | .tell (.client handler hearing) outcome =>
      if hearing.hears outcome then some (.told handler outcome) else none
  | .tell (.mapping function _) (.resolved value) => some (.mapping function value)
  | .feed (.client handler) bytes => some (.chunk handler bytes)
  | .feedEnd (.client handler) => some (.ending handler)
  | _ => none

/-- Entries of what a handler is told or given. -/
def Entry.isNote : Entry → Bool
  | .told _ _ _ | .handed _ _ | .ended _ => true
  | _ => false

/-- What a task notes of a handler, and the task in which it turns to that handler. -/
inductive Task.Notes (world : World) : Task → Entry → Task → Prop where
  | waited (promise : Nat) (outcome : Outcome) (registration : Registration)
      (waiting : List Registration) :
      Notes world (.dispatch promise outcome (registration :: waiting))
        (.told promise registration.number outcome) (.tell registration.handler outcome)
  | late {promise : Nat} {outcome : Outcome} (handler : CompletionHandler)
      (settled : (world.promise promise).state = .settled outcome) :
      Notes world (.register promise handler) (.told promise world.registrations outcome)
        (.tell handler outcome)
  | chunk {index : Nat} {bytes : Bytes} {rest : List Item} (handler : ChunkHandler)
      (first : (world.accumulator index).queue = .chunk bytes :: rest) :
      Notes world (.next index handler) (.handed index bytes) (.feed handler bytes)
  | ending {index : Nat} {rest : List Item} (handler : ChunkHandler)
      (first : (world.accumulator index).queue = .ending .finished :: rest)
      (wanted : (world.accumulator index).wantsEnd = true) :
      Notes world (.next index handler) (.ended index) (.feedEnd handler)

namespace Machine

variable {machine before after : Machine} {moves : List Move} {later past : List Entry}

def notes (machine : Machine) : List Entry :=
  machine.journal.filter Entry.isNote

/-- The library turns to a handler, and notes that last. -/
structure Turned (before after : Machine) (note : Entry) (turn : Task) : Prop where
  working : ∃ task, before.control = .task task ∧ task.Notes before.world note turn
  control : after.control = .task turn
  journal : ∃ others, after.journal = note :: (others ++ before.journal) ∧
    ∀ entry ∈ others, entry.isNote = false

/-! One step. -/

theorem notes_logs (machine : Machine) (notices : List Notice) :
    (notices.foldl log machine).notes = machine.notes := by
  induction notices generalizing machine with
  | nil => rfl
  | cons notice rest ih => exact ih (machine.log notice)

theorem notes_feed (machine : Machine) (handler : ChunkHandler) (bytes : Bytes) :
    (machine.feed handler bytes).notes = machine.notes := by
  cases handler with
  | collecting collector =>
      simp only [feed]
      repeat' split
      · rfl
      · exact machine.notes_logs _
      · rfl
  | _ => rfl

/-- A task makes no note, or one of the handler to which it turns. -/
theorem notes_perform {task : Task} (working : machine.control = .task task) :
    (machine.perform task).notes = machine.notes ∨
      ∃ note turn, Turned machine (machine.perform task) note turn := by
  cases task with
  | dispatch promise outcome waiting =>
      cases waiting with
      | nil => exact .inl rfl
      | cons registration waiting =>
          exact .inr ⟨_, _, ⟨_, working, .waited promise outcome registration waiting⟩, rfl, [],
            rfl, by simp⟩
  | register promise handler =>
      cases state : (machine.world.promise promise).state with
      | pending waiting =>
          left
          simp only [perform, register, state]
          rfl
      | settled outcome =>
          -- The registration itself is noted first, and is no note about the handler.
          refine .inr ⟨_, _, ⟨_, working, .late handler state⟩, ?_,
            [.registered promise machine.world.registrations], ?_, by simp [Entry.isNote]⟩
          all_goals simp only [perform, register, state]; rfl
  | next index handler =>
      cases queue : (machine.world.accumulator index).queue with
      | nil =>
          left
          simp only [perform, next, queue]
          rfl
      | cons item rest =>
          cases item with
          | chunk bytes =>
              refine .inr ⟨_, _, ⟨_, working, .chunk handler queue⟩, ?_, [], ?_, by simp⟩
              all_goals simp only [perform, next, queue]; rfl
          | ending ending =>
              simp only [perform, next, queue]
              split
              case isTrue told =>
                obtain ⟨finished, wanted⟩ := Bool.and_eq_true_iff.mp told
                obtain rfl := of_decide_eq_true finished
                have notes := Task.Notes.ending handler queue wanted
                exact .inr ⟨_, _, ⟨_, working, notes⟩, rfl, [], rfl, by simp⟩
              case isFalse => exact .inl rfl
  | feed handler bytes => exact .inl (machine.notes_feed handler bytes)
  | forget handlers =>
      have same := machine.journal_forget handlers
      exact .inl (congrArg (List.filter Entry.isNote) same)
  | _ =>
      left
      simp only [perform, settle, tell, release, deliver, attach, finish, drain, feedEnd, discard,
        abandon]
      repeat' split
      all_goals rfl

theorem notes_leave (machine : Machine) (index : Nat) (next : Frame) (otherwise : Control) :
    (machine.leave index next otherwise).notes = machine.notes :=
  congrArg (List.filter Entry.isNote) (machine.journal_leave index next otherwise)

/-- Only a task makes notes. -/
theorem notes_moved (moved : before.Moved after) :
    after.notes = before.notes ∨ ∃ note turn, Turned before after note turn := by
  cases moved with
  | perform working => exact before.notes_perform working
  | @resume below reply frame replied =>
      left
      cases frame with
      | leaving body => exact below.notes_leave body _ _
      | _ =>
          simp only [resume, letGo]
          repeat' split
          all_goals rfl
  | @unwind below message frame panicking =>
      left
      cases frame with
      | leaving body => exact below.notes_leave body _ _
      | _ => rfl
  | @begin _ sight call idle admitted =>
      left
      cases call with
      | dropSender body => exact notes_leave _ body _ _
      | newHandler handler => cases handler <;> rfl
      | _ => rfl
  | _ => exact .inl rfl

/-- What stands in a journal behind entries that are no notes. -/
theorem split_of_quiet {added old : List Entry} {note : Entry} (about : note.isNote = true)
    (quiet : ∀ entry ∈ added, entry.isNote = false) (whole : added ++ old = later ++ note :: past) :
    ∃ recent, old = recent ++ note :: past := by
  rcases List.append_eq_append_iff.mp whole with ⟨between, -, rest⟩ | ⟨between, split, rest⟩
  · exact ⟨between, rest⟩
  · cases between with
    | nil => exact ⟨[], rest.symm⟩
    | cons first between =>
        obtain ⟨rfl, -⟩ := List.cons.inj rest
        have silent := quiet note (split ▸ List.mem_append_right _ List.mem_cons_self)
        rw [about] at silent
        contradiction

/-- A note that is in the journal was there before the last move, or that move made it
and nothing has come after it. -/
theorem noted_moved (moved : before.Moved after) {note : Entry} (about : note.isNote = true)
    (noted : after.journal = later ++ note :: past) :
    (∃ recent, before.journal = recent ++ note :: past) ∨
      after.journal = note :: past ∧ ∃ turn, Turned before after note turn := by
  rcases notes_moved moved with same | ⟨last, turn, turned⟩
  · obtain ⟨added, whole⟩ := journal_moved moved
    have none : added.filter Entry.isNote = [] := by
      rw [notes, notes, ← whole, List.filter_append] at same
      exact List.append_left_eq_self.mp same
    refine .inl (split_of_quiet about (fun entry member => ?_) (whole.trans noted))
    simpa using List.filter_eq_nil_iff.mp none entry member
  · obtain ⟨others, journal, quiet⟩ := turned.journal
    rw [journal] at noted
    cases later with
    | nil =>
        obtain ⟨rfl, same⟩ := List.cons.inj noted
        exact .inr ⟨by rw [journal, same], turn, turned⟩
    | cons first later => exact .inl (split_of_quiet about quiet (List.cons.inj noted).2)

/-! Runs. -/

/-- A note that is in the journal after a run was there before, or one of the moves
made it. -/
theorem noted_run (machine : Machine) {note : Entry} (about : note.isNote = true)
    (noted : (machine.run moves).journal = later ++ note :: past) :
    (∃ recent, machine.journal = recent ++ note :: past) ∨
      ∃ earlier move rest turn, moves = earlier ++ move :: rest ∧
        ((machine.run earlier).act move).journal = note :: past ∧
          Turned (machine.run earlier) ((machine.run earlier).act move) note turn := by
  induction moves generalizing machine with
  | nil => exact .inl ⟨later, noted⟩
  | cons move moves ih =>
      -- What the later moves did not note was there after the first move.
      rcases ih (machine.act move) noted with ⟨recent, known⟩ | ⟨earlier, other, rest, turn, rfl, made⟩
      · rcases noted_moved (machine.moved_act move) about known with older | ⟨last, turn, turned⟩
        · exact .inl older
        · exact .inr ⟨[], move, moves, turn, rfl, last, turned⟩
      · exact .inr ⟨move :: earlier, other, rest, turn, rfl, made⟩

/-- The call that a task makes is the first entry of `later`, unless the library is still
about to make it. -/
def Heeds (machine : Machine) (turn : Task) (later : List Entry) : Prop :=
  ∀ invocation, turn.invocation? = some invocation →
    later.getLast? = some (.invoked invocation) ∨ later = [] ∧ machine.control = .task turn

theorem journal_of_invocation {task : Task} {invocation : Invocation}
    (call : task.invocation? = some invocation) :
    (machine.perform task).journal = .invoked invocation :: machine.journal := by
  unfold Task.invocation? at call
  split at call
  case h_1 handler hearing outcome =>
    split at call
    case isTrue hears =>
      cases call
      simp only [perform, tell, if_pos hears]
      rfl
    case isFalse => cases call
  all_goals cases call
  all_goals rfl

/-- Whatever comes after a turn to a handler begins with the call. -/
theorem heeds_run {turn : Task} (working : machine.control = .task turn)
    (journal : (machine.run moves).journal = later ++ machine.journal) :
    (machine.run moves).Heeds turn later := by
  intro invocation call
  have busy : ∀ sight, machine.control ≠ .client sight := by simp [working]
  rcases run_of_working busy moves with still | ⟨more, ticked⟩
  · rw [still] at journal ⊢
    exact .inr ⟨List.self_eq_append_left.mp journal, working⟩
  · have tick : machine.tick = machine.perform turn := by simp only [tick, working]
    obtain ⟨others, whole⟩ := machine.tick.journal_run more
    rw [← ticked, journal, tick, journal_of_invocation call, ← List.singleton_append,
      ← List.append_assoc] at whole
    left
    rw [← List.append_cancel_right whole, List.getLast?_concat]

/-- A note of a run, with the machine that made it and the call that follows. -/
theorem exists_turned {note : Entry} (about : note.isNote = true)
    (noted : (initial.run moves).journal = later ++ note :: past) :
    ∃ earlier rest task turn, moves = earlier ++ rest ∧
      (initial.run earlier).control = .task task ∧
        task.Notes (initial.run earlier).world note turn ∧ (initial.run moves).Heeds turn later := by
  rcases noted_run initial about noted with ⟨recent, known⟩ |
    ⟨earlier, move, rest, turn, rfl, journal, ⟨task, working, notes⟩, control, -⟩
  · cases recent <;> cases known
  · refine ⟨earlier, move :: rest, task, turn, rfl, working, notes, ?_⟩
    rw [run_append, run_cons] at noted ⊢
    exact heeds_run control (by rw [noted, journal])

/-- Whenever a run notes that a handler is told an outcome, this is the handler that was
registered under the number, and the next entry is the call in which it is told. -/
theorem told_heeded {promise number : Nat} {outcome : Outcome}
    (noted : (initial.run moves).journal = later ++ .told promise number outcome :: past) :
    ∃ earlier rest handler, moves = earlier ++ rest ∧
      ((∃ waiting, (initial.run earlier).control =
          .task (.dispatch promise outcome (⟨number, handler⟩ :: waiting))) ∨
        (initial.run earlier).control = .task (.register promise handler) ∧
          (initial.run earlier).world.registrations = number) ∧
      (initial.run moves).Heeds (.tell handler outcome) later := by
  obtain ⟨earlier, rest, task, turn, same, working, notes, heeds⟩ := exists_turned rfl noted
  cases notes with
  | waited _ _ registration waiting =>
      exact ⟨earlier, rest, _, same, .inl ⟨waiting, working⟩, heeds⟩
  | late handler settled => exact ⟨earlier, rest, handler, same, .inr ⟨working, rfl⟩, heeds⟩

/-- Whenever a run notes that a chunk is handed over, a drain of that accumulator has the
handler, and the next entry is the call in which the chunk is handed over. -/
theorem handed_heeded {index : Nat} {bytes : Bytes}
    (noted : (initial.run moves).journal = later ++ .handed index bytes :: past) :
    ∃ earlier rest handler, moves = earlier ++ rest ∧
      (initial.run earlier).control = .task (.next index handler) ∧
      (initial.run moves).Heeds (.feed handler bytes) later := by
  obtain ⟨earlier, rest, task, turn, same, working, notes, heeds⟩ := exists_turned rfl noted
  cases notes with
  | chunk handler first => exact ⟨earlier, rest, handler, same, working, heeds⟩

/-- Whenever a run notes that a stream ended for its handler, a drain of that accumulator
has the handler, and the next entry is the call in which it is told of the end. -/
theorem ended_heeded {index : Nat}
    (noted : (initial.run moves).journal = later ++ .ended index :: past) :
    ∃ earlier rest handler, moves = earlier ++ rest ∧
      (initial.run earlier).control = .task (.next index handler) ∧
      (initial.run moves).Heeds (.feedEnd handler) later := by
  obtain ⟨earlier, rest, task, turn, same, working, notes, heeds⟩ := exists_turned rfl noted
  cases notes with
  | ending handler first wanted => exact ⟨earlier, rest, handler, same, working, heeds⟩

end Machine

end Handoff
