import Handoff.Proofs.Buffers.Operations

namespace Handoff

/-! A buffer as a tape.

A tape has no storage and no cursor that could be out of place: while it is
written to there is only its content, and while it is read the content is what
lies behind the reader and what lies ahead.  Whatever is done to a buffer, its
answers are those of the tape. -/

inductive Tape where
  | writing (content : Bytes)
  | reading (behind ahead : Bytes)

namespace Tape

def content : Tape → Bytes
  | .writing content => content
  | .reading behind ahead => behind ++ ahead

def isReading : Tape → Bool
  | .writing _ => false
  | .reading _ _ => true

def position : Tape → Nat
  | .writing content => content.length
  | .reading behind _ => behind.length

def readable : Tape → Bytes
  | .writing content => content
  | .reading _ ahead => ahead

def extend (capacity : Capacity) (bytes : Bytes) : Tape → Except Error Tape
  | .reading _ _ => .error .readOnly
  | .writing content =>
      if capacity.holds (content.length + bytes.length) then .ok (.writing (content ++ bytes))
      else .error (capacity.refusal (content.length + bytes.length))

def flip : Tape → Tape
  | .writing content => .reading [] content
  | .reading behind ahead => .reading behind ahead

def rewind : Tape → Tape
  | .writing content => .writing content
  | .reading behind ahead => .reading [] (behind ++ ahead)

/-- Moves up to `count` octets behind the reader. -/
def read (count : Nat) (tape : Tape) : Bytes × Tape :=
  match tape.flip with
  | .writing content => ([], .writing content)
  | .reading behind ahead =>
      (ahead.take count, .reading (behind ++ ahead.take count) (ahead.drop count))

open Buffer (Operation Answer)

def added (capacity : Capacity) (tape : Tape) (bytes : Bytes) : Answer × Tape :=
  match tape.extend capacity bytes with
  | .ok after => (.done, after)
  | .error error => (.refused error, tape)

def perform (capacity : Capacity) (tape : Tape) : Operation → Answer × Tape
  | .append bytes => tape.added capacity bytes
  | .appendText text => tape.added capacity (Bytes.ofText text)
  | .appendOctet octet => tape.added capacity [octet]
  | .write bytes =>
      match tape.extend capacity bytes with
      | .ok after => (.written bytes.length, after)
      | .error error => (.notWritten (.refused error), tape)
  | .flip => (.done, tape.flip)
  | .rewind => (.done, tape.rewind)
  | .clear => (.done, .writing [])
  | .read count =>
      let (bytes, after) := tape.read count
      (.taken bytes, after)
  | .drain responses =>
      match Writer.writeAll responses tape.readable with
      | (.ok (), received) => (.drained (.ok tape.readable.length) received, .writing [])
      | (.error error, received) => (.drained (.error error) received, tape)

def run (capacity : Capacity) (tape : Tape) : List Operation → List Answer × Tape
  | [] => ([], tape)
  | operation :: rest =>
      let (answer, after) := tape.perform capacity operation
      let (answers, last) := after.run capacity rest
      (answer :: answers, last)

/-- The octets behind the reader; there is no reader while a tape is written to. -/
def behind : Tape → Bytes
  | .writing _ => []
  | .reading behind _ => behind

theorem behind_readable (tape : Tape) : tape.behind ++ tape.readable = tape.content := by
  cases tape <;> rfl

/-- What was read in the current pass, after one more operation.  A pass ends
when the reader goes back to the start or the content is gone. -/
def heard (before : Bytes) : Operation → Answer → Bytes
  | .rewind, _ => []
  | .clear, _ => []
  | .drain _, .drained (.ok _) _ => []
  | .read _, .taken bytes => before ++ bytes
  | _, _ => before

/-- What was read in the last pass of some operations with these answers. -/
def heardIn (before : Bytes) (operations : List Operation) (answers : List Answer) : Bytes :=
  (operations.zip answers).foldl
    (fun before (operation, answer) => heard before operation answer) before

theorem behind_extend {capacity : Capacity} {tape after : Tape} {bytes : Bytes}
    (extended : tape.extend capacity bytes = .ok after) : after.behind = tape.behind := by
  cases tape with
  | reading => cases extended
  | writing content =>
      simp only [extend] at extended
      split at extended
      · cases extended; rfl
      · cases extended

theorem behind_added (capacity : Capacity) (tape : Tape) (bytes : Bytes) :
    (tape.added capacity bytes).2.behind = tape.behind := by
  unfold added
  split
  case h_1 after extended => exact behind_extend extended
  case h_2 => rfl

theorem heard_perform (capacity : Capacity) (tape : Tape) (operation : Operation) :
    heard tape.behind operation (tape.perform capacity operation).1 =
      (tape.perform capacity operation).2.behind := by
  cases operation with
  | append bytes => exact (behind_added capacity tape bytes).symm
  | appendText text => exact (behind_added capacity tape _).symm
  | appendOctet octet => exact (behind_added capacity tape [octet]).symm
  | write bytes =>
      simp only [perform]
      split
      case h_1 after extended => exact (behind_extend extended).symm
      case h_2 => rfl
  | flip => cases tape <;> rfl
  | rewind => cases tape <;> rfl
  | clear => rfl
  | read count => cases tape <;> rfl
  | drain responses =>
      simp only [perform]
      split <;> rfl

theorem heardIn_run (capacity : Capacity) (tape : Tape) (operations : List Operation) :
    heardIn tape.behind operations (tape.run capacity operations).1 =
      (tape.run capacity operations).2.behind := by
  induction operations generalizing tape with
  | nil => rfl
  | cons operation rest ih =>
      have first := heard_perform capacity tape operation
      simp only [heardIn, run, List.zip_cons_cons, List.foldl_cons, first] at ih ⊢
      exact ih _

end Tape

namespace Buffer

variable {capacity : Capacity} {buffer after : Buffer}

/-- Nothing is out of place: there is storage for the content, and the cursor is
inside it, at its start unless the buffer is being read. -/
structure Steady (buffer : Buffer) : Prop extends Sound buffer where
  stored : buffer.length ≤ buffer.storage
  inside : buffer.cursor ≤ buffer.length
  unread : buffer.reading = false → buffer.cursor = 0

theorem Made.steady (made : Made capacity buffer) : buffer.Steady := by
  have sound := made.sound
  rw [made.eq_new] at sound ⊢
  exact ⟨sound, Nat.zero_le _, Nat.zero_le _, fun _ => rfl⟩

theorem Steady.flip (steady : buffer.Steady) : buffer.flip.Steady := by
  unfold Buffer.flip
  split
  · exact steady
  · exact ⟨⟨steady.storage, steady.valid⟩, steady.stored, Nat.zero_le _,
      fun idle => by cases idle⟩

theorem Steady.read (steady : buffer.Steady) (count : Nat) : (buffer.read count).2.Steady := by
  have flipped := steady.flip
  have reading : buffer.flip.reading = true := flip_reading
  have within : (buffer.flip.readable.take count).length ≤
      buffer.flip.length - buffer.flip.cursor := by
    simp only [readable, reading, ↓reduceIte, List.length_take, List.length_drop, length]
    omega
  refine ⟨steady.toSound.kept (.read count), flipped.stored, ?_, fun idle => ?_⟩
  · have := flipped.inside
    change buffer.flip.cursor + _ ≤ buffer.flip.length
    omega
  · exact absurd (reading.symm.trans idle) (by decide)

/-- An operation leaves everything in its place. -/
theorem Steady.kept (steady : buffer.Steady) (word : buffer.capacity.limit ≤ Count.limit)
    (becomes : buffer.Becomes after) : after.Steady := by
  cases becomes with
  | same => exact steady
  | grown bytes writing fits =>
      have start := steady.unread writing
      refine ⟨steady.toSound.grown fits, ?_, ?_, fun _ => start⟩
      · rw [length_grown]
        exact Capacity.le_room word fits _
      · exact start ▸ Nat.zero_le _
  | flipped => exact steady.flip
  | rewound => exact ⟨⟨steady.storage, steady.valid⟩, steady.stored, Nat.zero_le _, fun _ => rfl⟩
  | cleared => exact ⟨⟨steady.storage, steady.valid⟩, Nat.zero_le _, Nat.zero_le _, fun _ => rfl⟩
  | read count => exact steady.read count

/-- The tape a buffer stands for. -/
def tape (buffer : Buffer) : Tape :=
  if buffer.reading then
    .reading (buffer.content.take buffer.cursor) (buffer.content.drop buffer.cursor)
  else .writing buffer.content

theorem tape_of_reading (reading : buffer.reading = true) : buffer.tape =
    .reading (buffer.content.take buffer.cursor) (buffer.content.drop buffer.cursor) :=
  if_pos reading

theorem tape_of_writing (writing : buffer.reading = false) :
    buffer.tape = .writing buffer.content :=
  if_neg (by simp [writing])

theorem tape_flip (buffer : Buffer) : buffer.flip.tape = buffer.tape.flip := by
  unfold flip
  cases reading : buffer.reading with
  | true => simp [tape_of_reading, reading, Tape.flip]
  | false => simp [tape, reading, Tape.flip]

theorem tape_rewind (buffer : Buffer) : buffer.rewind.tape = buffer.tape.rewind := by
  unfold rewind
  cases reading : buffer.reading with
  | true => simp [tape, reading, Tape.rewind]
  | false => simp [tape, reading, Tape.rewind]

theorem tape_readable (buffer : Buffer) : buffer.tape.readable = buffer.readable := by
  unfold tape readable
  split <;> rfl

theorem tape_read (buffer : Buffer) (count : Nat) :
    buffer.tape.read count = Prod.map id tape (buffer.read count) := by
  have reading : buffer.flip.reading = true := flip_reading
  have shown : buffer.flip.readable = buffer.flip.content.drop buffer.flip.cursor := if_pos reading
  have taken : (buffer.flip.readable.take count).length = min count buffer.flip.readable.length :=
    List.length_take
  have front : buffer.flip.readable.take (min count buffer.flip.readable.length) =
      buffer.flip.readable.take count := List.take_eq_take_iff.mpr (by simp)
  have back : buffer.flip.readable.drop (min count buffer.flip.readable.length) =
      buffer.flip.readable.drop count := List.drop_eq_drop_iff.mpr (by simp)
  have after : (buffer.read count).2.tape =
      .reading (buffer.flip.content.take buffer.flip.cursor ++ buffer.flip.readable.take count)
        (buffer.flip.readable.drop count) := by
    rw [@tape_of_reading (buffer.read count).2 reading]
    simp only [read, taken]
    rw [List.take_add, ← List.drop_drop, ← shown, front, back]
  rw [Tape.read, ← tape_flip, tape_of_reading reading, ← shown, Prod.map, after]
  rfl

theorem Sound.tape_append (sound : buffer.Sound) (bytes : Bytes) :
    buffer.tape.extend buffer.capacity bytes = (buffer.append bytes).map tape := by
  cases reading : buffer.reading with
  | true => rw [append, if_pos reading, tape_of_reading reading]; rfl
  | false =>
      rw [sound.append_eq reading, tape_of_writing reading]
      change (if buffer.capacity.holds (buffer.length + bytes.length) then _ else _) = _
      split
      · exact congrArg Except.ok (@tape_of_writing (buffer.grown bytes) reading).symm
      · rfl

theorem Sound.tape_added (sound : buffer.Sound) (bytes : Bytes) :
    buffer.tape.added buffer.capacity bytes = Prod.map id tape (buffer.added bytes) := by
  unfold added Tape.added
  rw [sound.tape_append]
  cases buffer.append bytes <;> rfl

/-- One operation has the same answer on a buffer and on its tape, and leaves the
tape of what it leaves of the buffer. -/
theorem Sound.tape_perform (sound : buffer.Sound) (operation : Operation) :
    buffer.tape.perform buffer.capacity operation =
      Prod.map id tape (buffer.perform operation) := by
  cases operation with
  | append bytes => exact sound.tape_added bytes
  | appendText text => exact sound.tape_added _
  | appendOctet octet => exact sound.tape_added [octet]
  | write bytes =>
      simp only [Tape.perform, perform, write, sound.tape_append]
      cases buffer.append bytes <;> rfl
  | flip => simp [Tape.perform, perform, tape_flip]
  | rewind => simp [Tape.perform, perform, tape_rewind]
  | clear => rfl
  | read count => simp [Tape.perform, perform, tape_read]
  | drain responses =>
      simp only [Tape.perform, perform, drain, tape_readable]
      obtain ⟨result, received⟩ := Writer.writeAll responses buffer.readable
      cases result <;> rfl

/-- A buffer shows what is on a tape. -/
structure Shows (buffer : Buffer) (tape : Tape) : Prop where
  isReading : buffer.reading = tape.isReading
  content : buffer.content = tape.content
  length : buffer.length = tape.content.length
  isEmpty : buffer.isEmpty = tape.content.isEmpty
  position : buffer.position = tape.position
  readable : buffer.readable = tape.readable
  unread : tape.isReading = true → buffer.remaining = tape.readable.length
  free : tape.isReading = false → buffer.remaining + tape.content.length = buffer.storage

theorem Steady.position_le (steady : buffer.Steady) : buffer.position ≤ buffer.length := by
  unfold position
  split
  · exact steady.inside
  · exact Nat.le_refl _

theorem Steady.shows (steady : buffer.Steady) : buffer.Shows buffer.tape := by
  obtain ⟨-, stored, inside, -⟩ := steady
  cases reading : buffer.reading with
  | true =>
      rw [tape_of_reading reading]
      have whole := (List.take_append_drop buffer.cursor buffer.content).symm
      refine ⟨reading, whole, congrArg List.length whole, congrArg List.isEmpty whole, ?_,
        if_pos reading, fun _ => ?_, fun writing => by cases writing⟩
      · simpa [position, reading, Tape.position, Buffer.length] using (Nat.min_eq_left inside).symm
      · simp [remaining, reading, Tape.readable, Buffer.length]
  | false =>
      rw [tape_of_writing reading]
      refine ⟨reading, rfl, rfl, rfl, ?_, ?_, fun read => (by cases read), fun _ => ?_⟩
      · simp [position, reading, Tape.position, Buffer.length]
      · simp [Buffer.readable, reading, Tape.readable]
      · simpa [remaining, reading, Tape.content, Buffer.length] using Nat.sub_add_cancel stored

theorem Steady.run (steady : buffer.Steady) (word : buffer.capacity.limit ≤ Count.limit)
    (operations : List Operation) :
    buffer.tape.run buffer.capacity operations = Prod.map id tape (buffer.run operations) ∧
      (buffer.run operations).2.Steady ∧ (buffer.run operations).2.capacity = buffer.capacity := by
  induction operations generalizing buffer with
  | nil => exact ⟨rfl, steady, rfl⟩
  | cons operation rest ih =>
      have becomes := steady.toSound.becomes operation
      have same := becomes.same_capacity
      obtain ⟨tapes, last, capacity⟩ := ih (steady.kept word becomes) (same ▸ word)
      refine ⟨?_, last, capacity.trans same⟩
      rw [same] at tapes
      simp only [Tape.run, Buffer.run, steady.toSound.tape_perform, Prod.map, id, tapes]

theorem flip_flip (buffer : Buffer) : buffer.flip.flip = buffer.flip :=
  if_pos flip_reading

theorem Made.tape_eq (made : Made capacity buffer) : buffer.tape = .writing [] := by
  rw [made.eq_new]
  rfl

/-- Whatever is done to a buffer, it gives the answers of a tape on which the same
is done, and shows what is on that tape in the end.  Cursor, length, storage and
limit, which is a 64-bit count, stay in this order, and what the last pass read,
with what it has not read yet, is the whole content. -/
theorem refines_tape (word : capacity.limit ≤ Count.limit) (made : Made capacity buffer)
    (operations : List Operation) :
    let answers := (buffer.run operations).1
    let last := (buffer.run operations).2
    let expected := (Tape.writing []).run capacity operations
    answers = expected.1 ∧ last.Shows expected.2 ∧ last.capacity = capacity ∧
    last.cursor ≤ last.length ∧ last.position ≤ last.length ∧ last.length ≤ last.storage ∧
    last.storage ≤ capacity.limit ∧ (last.reading = false → last.cursor = 0) ∧
    last.flip.flip = last.flip ∧
    Tape.heardIn [] operations answers ++ last.readable = last.content := by
  have same : buffer.capacity = capacity := by rw [made.eq_new]; rfl
  obtain ⟨tapes, steady, kept⟩ := made.steady.run (same ▸ word) operations
  rw [same, made.tape_eq] at tapes
  have answers : (buffer.run operations).1 = ((Tape.writing []).run capacity operations).1 := by
    rw [tapes]; rfl
  have stands : (buffer.run operations).2.tape = ((Tape.writing []).run capacity operations).2 := by
    rw [tapes]; rfl
  have shows : (buffer.run operations).2.Shows ((Tape.writing []).run capacity operations).2 :=
    stands ▸ steady.shows
  have heard : Tape.heardIn [] operations (buffer.run operations).1 =
      ((Tape.writing []).run capacity operations).2.behind :=
    answers ▸ Tape.heardIn_run capacity (.writing []) operations
  refine ⟨answers, shows, kept.trans same, steady.inside, steady.position_le, steady.stored,
    ?_, steady.unread, flip_flip _, ?_⟩
  · have storage := steady.storage
    rwa [kept, same] at storage
  · rw [heard, shows.readable, shows.content, Tape.behind_readable]

/-- A pre-sized buffer with an odd ceiling: it is filled, read halfway, refuses
an append, begins anew and is drained into a writer that fails. -/
theorem refines_tape_halfway :
    ∃ buffer, withStorage (.fixed 5) 3 = .ok buffer ∧
      let operations : List Operation :=
        [.append [1, 2, 3], .appendOctet 4, .append [5, 6], .read 3, .appendOctet 7, .rewind,
          .read 1, .drain [.takes 2, .fails Writer.Limited.full]]
      let last := (buffer.run operations).2
      last.remaining = 3 ∧ last.storage = 4 ∧ last.position ≤ last.length ∧
      Tape.heardIn [] operations (buffer.run operations).1 = [1] ∧
      Tape.heardIn [] operations (buffer.run operations).1 ++ last.readable = last.content := by
  have made : Made (.fixed 5) ⟨.fixed 5, 4, [], 0, false⟩ := @Made.withStorage _ 3 _ rfl
  have refines := refines_tape (by decide) made
    [.append [1, 2, 3], .appendOctet 4, .append [5, 6], .read 3, .appendOctet 7, .rewind,
      .read 1, .drain [.takes 2, .fails Writer.Limited.full]]
  obtain ⟨-, -, -, -, position, -, -, -, -, whole⟩ := refines
  exact ⟨_, rfl, rfl, rfl, position, rfl, whole⟩

end Buffer

end Handoff
