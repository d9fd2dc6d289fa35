import Handoff.Buffer.Session
import Handoff.Proofs.Buffers.Growth

namespace Handoff.Buffer

/-! What can be done to a buffer, and what is true of it afterwards.

A buffer is made empty, with or without storage, and from then on only operated
on.  A refused operation leaves no trace. -/

inductive Operation where
  | append (bytes : Bytes)
  | appendText (text : String)
  | appendOctet (octet : UInt8)
  | write (bytes : Bytes)
  | flip
  | rewind
  | clear
  | read (count : Nat)
  | drain (responses : List Writer.Response)

def added (buffer : Buffer) (bytes : Bytes) : Answer × Buffer :=
  match buffer.append bytes with
  | .ok after => (.done, after)
  | .error error => (.refused error, buffer)

def perform (buffer : Buffer) : Operation → Answer × Buffer
  | .append bytes => buffer.added bytes
  | .appendText text => buffer.added (Bytes.ofText text)
  | .appendOctet octet => buffer.added [octet]
  | .write bytes =>
      match buffer.write bytes with
      | .ok after => (.written bytes.length, after)
      | .error error => (.notWritten error, buffer)
  | .flip => (.done, buffer.flip)
  | .rewind => (.done, buffer.rewind)
  | .clear => (.done, buffer.clear)
  | .read count =>
      let (bytes, after) := buffer.read count
      (.taken bytes, after)
  | .drain responses =>
      let drained := buffer.drain responses
      (.drained drained.result drained.received, drained.buffer)

/-- The answers to some operations, and the buffer after the last. -/
def run (buffer : Buffer) : List Operation → List Answer × Buffer
  | [] => ([], buffer)
  | operation :: rest =>
      let (answer, after) := buffer.perform operation
      let (answers, last) := after.run rest
      (answer :: answers, last)

/-- An empty buffer, with no storage or with storage for what is required. -/
inductive Made (capacity : Capacity) : Buffer → Prop where
  | new : Made capacity (new capacity)
  | withStorage {required : Nat} {buffer : Buffer}
      (made : withStorage capacity required = .ok buffer) : Made capacity buffer

/-- A buffer that was made, and then only operated on. -/
inductive Reachable : Buffer → Prop where
  | made {capacity : Capacity} {buffer : Buffer} (made : Made capacity buffer) : Reachable buffer
  | performed {buffer : Buffer} (operation : Operation) (reachable : Reachable buffer) :
      Reachable (buffer.perform operation).2

variable {capacity : Capacity} {buffer after : Buffer}

theorem Reachable.run (reachable : buffer.Reachable) (operations : List Operation) :
    (buffer.run operations).2.Reachable := by
  induction operations generalizing buffer with
  | nil => exact reachable
  | cons operation rest ih => exact ih (reachable.performed operation)

theorem Reachable.append (reachable : buffer.Reachable) {bytes : Bytes}
    (appended : buffer.append bytes = .ok after) : after.Reachable := by
  simpa only [perform, added, appended] using reachable.performed (.append bytes)

theorem Reachable.write (reachable : buffer.Reachable) {bytes : Bytes}
    (written : buffer.write bytes = .ok after) : after.Reachable := by
  simpa only [perform, written] using reachable.performed (.write bytes)

theorem Reachable.writeAll (reachable : buffer.Reachable) {bytes : Bytes}
    (written : buffer.writeAll bytes = .ok after) : after.Reachable := by
  unfold Buffer.writeAll at written
  split at written
  · cases written; exact reachable
  · exact reachable.write written

/-- What an operation can make of a buffer. -/
inductive Becomes (buffer : Buffer) : Buffer → Prop where
  | same : Becomes buffer buffer
  | grown (bytes : Bytes) (writing : buffer.reading = false)
      (fits : buffer.capacity.holds (buffer.length + bytes.length) = true) :
      Becomes buffer (buffer.grown bytes)
  | flipped : Becomes buffer buffer.flip
  | rewound : Becomes buffer buffer.rewind
  | cleared : Becomes buffer buffer.clear
  | read (count : Nat) : Becomes buffer (buffer.read count).2

theorem Sound.becomes_added (sound : buffer.Sound) (bytes : Bytes) :
    buffer.Becomes (buffer.added bytes).2 := by
  unfold added
  cases appended : buffer.append bytes with
  | error error => exact .same
  | ok after =>
      obtain ⟨writing, fits, rfl⟩ := sound.append_ok_iff.mp appended
      exact .grown bytes writing fits

theorem perform_write_buffer (bytes : Bytes) :
    (buffer.perform (.write bytes)).2 = (buffer.added bytes).2 := by
  simp only [perform, added, write]
  cases buffer.append bytes <;> rfl

theorem Sound.becomes (sound : buffer.Sound) (operation : Operation) :
    buffer.Becomes (buffer.perform operation).2 := by
  cases operation with
  | append bytes => exact sound.becomes_added bytes
  | appendText text => exact sound.becomes_added _
  | appendOctet octet => exact sound.becomes_added [octet]
  | write bytes => rw [perform_write_buffer]; exact sound.becomes_added bytes
  | flip => exact .flipped
  | rewind => exact .rewound
  | clear => exact .cleared
  | read count => exact .read count
  | drain responses =>
      simp only [perform, drain]
      split
      · exact .cleared
      · exact .same

@[simp] theorem flip_capacity : buffer.flip.capacity = buffer.capacity := by
  unfold flip
  split <;> rfl

@[simp] theorem flip_storage : buffer.flip.storage = buffer.storage := by
  unfold flip
  split <;> rfl

@[simp] theorem flip_content : buffer.flip.content = buffer.content := by
  unfold flip
  split <;> rfl

@[simp] theorem flip_reading : buffer.flip.reading = true := by
  unfold flip
  split
  · assumption
  · rfl

theorem Becomes.same_capacity (becomes : buffer.Becomes after) :
    after.capacity = buffer.capacity := by
  cases becomes with
  | same | grown | rewound | cleared => rfl
  | flipped => exact flip_capacity
  | read => exact flip_capacity

theorem Sound.kept (sound : buffer.Sound) (becomes : buffer.Becomes after) : after.Sound := by
  obtain ⟨storage, valid⟩ := sound
  cases becomes with
  | same | rewound | cleared => exact ⟨storage, valid⟩
  | grown bytes writing fits => exact Sound.grown ⟨storage, valid⟩ fits
  | flipped => exact ⟨by simpa using storage, by simpa using valid⟩
  | read count => exact ⟨by simpa [read] using storage, by simpa [read] using valid⟩

theorem Made.eq_new (made : Made capacity buffer) :
    buffer = { Buffer.new capacity with storage := buffer.storage } := by
  cases made with
  | new => rfl
  | withStorage made =>
      simp only [Buffer.withStorage, Capacity.storageFor_eq] at made
      split at made
      · cases made; rfl
      · cases made

theorem Made.sound (made : Made capacity buffer) : buffer.Sound := by
  cases made with
  | new => exact sound_new capacity
  | withStorage made =>
      simp only [Buffer.withStorage, Capacity.storageFor_eq] at made
      split at made
      case isTrue allowed => cases made; exact ⟨Capacity.step_le_limit _ _, fun _ => allowed.1⟩
      case isFalse => cases made

theorem Reachable.sound (reachable : buffer.Reachable) : buffer.Sound := by
  induction reachable with
  | made made => exact made.sound
  | performed operation reachable sound => exact sound.kept (sound.becomes operation)

/-- What `bytes` do to a buffer at whose end they are put. -/
structure Appends (buffer : Buffer) (bytes : Bytes) : Prop where
  readOnly : buffer.reading = true →
    buffer.perform (.append bytes) = (.refused .readOnly, buffer)
  /-- A buffer that is written to takes exactly what its capacity allows. -/
  accepted : buffer.reading = false →
    ((∃ after, buffer.append bytes = .ok after) ↔
      buffer.length + bytes.length = 0 ∨ buffer.capacity.isValid = true ∧
        buffer.length + bytes.length ≤ buffer.capacity.limit)
  taken (after : Buffer) : buffer.append bytes = .ok after →
    buffer.perform (.append bytes) = (.done, after) ∧
      after = { buffer with storage := after.storage, content := buffer.content ++ bytes }
  invalid : buffer.reading = false → buffer.capacity.isValid = false →
    buffer.length + bytes.length ≠ 0 →
      buffer.perform (.append bytes) = (.refused .invalidCapacity, buffer)
  exceeded : buffer.reading = false → buffer.capacity.isValid = true →
    buffer.capacity.limit < buffer.length + bytes.length →
      buffer.perform (.append bytes) =
        (.refused (.capacityExceeded (buffer.length + bytes.length) buffer.capacity.limit), buffer)
  /-- It makes no difference into which pieces the octets are cut, as long as all
  of them are taken. -/
  pieces (pieces : List Bytes) (after : Buffer) : pieces ≠ [] → pieces.flatten = bytes →
    (pieces.foldlM append buffer = .ok after ↔ buffer.append bytes = .ok after)

/-- A buffer takes exactly what fits, wherever that is cut, and what it does not
take leaves it as it was. -/
theorem appends_exactly (reachable : buffer.Reachable) (bytes : Bytes) : buffer.Appends bytes := by
  have sound := reachable.sound
  have refused (writing : buffer.reading = false)
      (exceeds : ¬ buffer.capacity.holds (buffer.length + bytes.length) = true) :
      buffer.perform (.append bytes) =
        (.refused (buffer.capacity.refusal (buffer.length + bytes.length)), buffer) := by
    simp only [perform, added, sound.append_eq writing, if_neg exceeds]
  constructor
  case readOnly =>
    intro reading
    simp [perform, added, append, reading]
  case accepted =>
    intro writing
    rw [← Capacity.holds_iff]
    simp [sound.append_ok_iff, writing]
  case taken =>
    intro after appended
    obtain ⟨-, -, rfl⟩ := sound.append_ok_iff.mp appended
    exact ⟨by simp only [perform, added, appended], rfl⟩
  case invalid =>
    intro writing invalid some
    rw [refused writing (by rw [Capacity.holds_iff, invalid]; simpa using some)]
    simp [Capacity.refusal, invalid]
  case exceeded =>
    intro writing valid exceeds
    rw [refused writing (by rw [Capacity.holds_iff]; omega)]
    simp [Capacity.refusal, valid]
  case pieces =>
    rintro pieces after several rfl
    exact sound.foldlM_append several

/-- A ceiling that is no whole number of increments is still used up. -/
theorem appends_exactly_uneven :
    let buffer := ((new (.growable 2 5)).perform (.append [1, 2, 3])).2
    buffer.storage = 4 ∧
    (∃ after, [[4], [], [5]].foldlM append buffer = .ok after) ∧
    buffer.perform (.append [4, 5, 6]) = (.refused (.capacityExceeded 6 5), buffer) := by
  have made : Made (.growable 2 5) (new (.growable 2 5)) := .new
  have appends := appends_exactly (.performed (.append [1, 2, 3]) (.made made))
  obtain ⟨after, whole⟩ := ((appends [4, 5]).accepted rfl).mpr (.inr ⟨rfl, by decide⟩)
  exact ⟨rfl, ⟨after, ((appends [4, 5]).pieces _ after (by simp) rfl).mpr whole⟩,
    (appends [4, 5, 6]).exceeded rfl rfl (by decide)⟩

namespace Session

/-- Both buffers of a session were made and then operated on. -/
structure Sane (session : Session) : Prop where
  current : session.current.Reachable
  saved : session.saved.Reachable

variable {session : Session}

theorem sane_start {opening : Opening} (started : start opening = .ok session) : session.Sane := by
  obtain ⟨capacity, required⟩ := opening
  cases required with
  | none => cases started; exact ⟨.made .new, .made .new⟩
  | some required =>
      cases made : withStorage (capacity.getD .usual) required with
      | error error => simp [start, made, bind, Except.bind] at started
      | ok buffer =>
          simp only [start, made, bind, Except.bind] at started
          cases started
          exact ⟨.made (.withStorage made), .made .new⟩

theorem Sane.change (sane : session.Sane) {buffer : Buffer} (reachable : buffer.Reachable) :
    Sane { session with current := buffer } :=
  ⟨reachable, sane.saved⟩

theorem Sane.append (sane : session.Sane) (bytes : Bytes) :
    (session.perform (.append bytes)).session.Sane := by
  change (match session.current.append bytes with
    | .ok buffer =>
        (⟨{ session with current := buffer }, .done, session.current.growth buffer⟩ : Result)
    | .error error => ⟨session, .refused error, []⟩).session.Sane
  split
  case h_1 buffer appended => exact sane.change (sane.current.append appended)
  case h_2 => exact sane

theorem Sane.perform (sane : session.Sane) (step : Step) : (session.perform step).session.Sane := by
  have operated (operation : Operation) := sane.change (sane.current.performed operation)
  cases step with
  | append bytes => exact sane.append bytes
  | appendTwo first second =>
      have one : (session.perform (.append first)).session.Sane := sane.append first
      simp only [Session.perform] at one ⊢
      split
      case h_1 between notices appended =>
          rw [appended] at one
          exact one.append second
      case h_2 => exact one
  | write bytes =>
      simp only [Session.perform]
      split
      case h_1 buffer written => exact sane.change (sane.current.write written)
      case h_2 => exact sane
  | writeAll bytes =>
      simp only [Session.perform]
      split
      case h_1 buffer written => exact sane.change (sane.current.writeAll written)
      case h_2 => exact sane
  | flush => exact sane
  | flip => exact operated .flip
  | rewind => exact operated .rewind
  | clear => exact operated .clear
  | read count => exact operated (.read count)
  | readable => exact sane
  | text charset => exact sane
  | capacity => exact sane
  | drain writer => exact operated (.drain _)
  | save => exact ⟨sane.current, sane.current⟩
  | swap => exact ⟨sane.saved, sane.current⟩
  | handOver => exact sane.change (.made .new)

/-- The session as it is after some steps. -/
def run (session : Session) (steps : List Step) : Session :=
  steps.foldl (fun session step => (session.perform step).session) session

theorem Sane.run (sane : session.Sane) (steps : List Step) : (session.run steps).Sane := by
  induction steps generalizing session with
  | nil => exact sane
  | cons step rest ih => exact ih (sane.perform step)

/-- Whatever a session was opened with and did since, both its buffers are reachable, so
that what is proved of reachable buffers is true of them. -/
theorem reachable_run {opening : Opening} (started : start opening = .ok session)
    (steps : List Step) :
    (session.run steps).current.Reachable ∧ (session.run steps).saved.Reachable := by
  have sane := (sane_start started).run steps
  exact ⟨sane.current, sane.saved⟩

end Session

end Handoff.Buffer
