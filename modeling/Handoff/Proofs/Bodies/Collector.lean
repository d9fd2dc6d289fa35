import Handoff.Handler
import Handoff.Proofs.Buffers.Growth

namespace Handoff

/-! What a collector holds.

However a body is cut into chunks, a collector takes all of them as long as the
body fits, and then holds their concatenation.  The first chunk that does not fit
is refused, and so is everything after it. -/

namespace Capacity

variable {capacity : Capacity}

/-- The refusal of the first chunk that does not fit, if there is one. -/
def firstRefusal (capacity : Capacity) (held : Nat) : List Bytes → Option Error
  | [] => none
  | bytes :: rest =>
      if capacity.holds (held + bytes.length) then
        capacity.firstRefusal (held + bytes.length) rest
      else some (capacity.refusal (held + bytes.length))

theorem firstRefusal_append (held : Nat) (chunks : List Bytes) (bytes : Bytes) :
    capacity.firstRefusal held (chunks ++ [bytes]) =
      (capacity.firstRefusal held chunks).or
        (if capacity.holds (held + chunks.flatten.length + bytes.length) then none
        else some (capacity.refusal (held + chunks.flatten.length + bytes.length))) := by
  induction chunks generalizing held with
  | nil => simp [firstRefusal]
  | cons chunk rest ih =>
      simp only [List.cons_append, firstRefusal, List.flatten_cons, List.length_append]
      split
      · rw [ih, ← Nat.add_assoc]
      · rfl

/-- Nothing is refused exactly if the whole fits. -/
theorem firstRefusal_eq_none {held : Nat} (sound : capacity.holds held = true)
    (chunks : List Bytes) : capacity.firstRefusal held chunks = none ↔
      capacity.holds (held + chunks.flatten.length) = true := by
  induction chunks generalizing held with
  | nil => simp [firstRefusal, sound]
  | cons chunk rest ih =>
      simp only [firstRefusal, List.flatten_cons, List.length_append, ← Nat.add_assoc]
      split
      case isTrue fits => exact ih fits
      case isFalse refused =>
          have exceeds : ¬ capacity.holds (held + chunk.length + rest.flatten.length) = true :=
            fun fits => refused (holds_of_le fits (Nat.le_add_right _ _))
          exact iff_of_false (by simp) exceeds

theorem firstRefusal_eq_some {held : Nat} {chunks : List Bytes} {error : Error}
    (refused : capacity.firstRefusal held chunks = some error)
    (sound : capacity.holds held = true) :
    ∃ earlier bytes later, chunks = earlier ++ bytes :: later ∧
      capacity.holds (held + earlier.flatten.length) = true ∧
      capacity.holds (held + (earlier ++ [bytes]).flatten.length) = false ∧
      error = capacity.refusal (held + (earlier ++ [bytes]).flatten.length) := by
  induction chunks generalizing held with
  | nil => simp [firstRefusal] at refused
  | cons chunk rest ih =>
      simp only [firstRefusal] at refused
      split at refused
      case isTrue fits =>
          obtain ⟨earlier, bytes, later, rfl, held, exceeds, rfl⟩ := ih refused fits
          refine ⟨chunk :: earlier, bytes, later, rfl, ?_⟩
          simpa [Nat.add_assoc] using And.intro held exceeds
      case isFalse exceeds =>
          have same : error = capacity.refusal (held + chunk.length) := by simpa using refused.symm
          exact ⟨[], chunk, rest, rfl, by simpa using sound, by simpa using exceeds, by simp [same]⟩

end Capacity

namespace Collector

def collect (charset : Charset) (capacity : Capacity) (promise : Nat) (chunks : List Bytes) :
    Collector :=
  chunks.foldl take (new charset capacity promise)

variable {charset : Charset} {capacity : Capacity} {promise : Nat} {chunks : List Bytes}

theorem take_collect (bytes : Bytes) :
    (collect charset capacity promise chunks).take bytes =
      collect charset capacity promise (chunks ++ [bytes]) := by
  simp [collect]

theorem promise_take (collector : Collector) (bytes : Bytes) :
    (collector.take bytes).promise = collector.promise := by
  unfold take
  repeat' split
  all_goals rfl

@[simp] theorem promise_collect :
    (collect charset capacity promise chunks).promise = promise := by
  have kept (chunks : List Bytes) (collector : Collector) :
      (chunks.foldl take collector).promise = collector.promise := by
    induction chunks generalizing collector with
    | nil => rfl
    | cons bytes rest ih => exact (ih _).trans (promise_take collector bytes)
  exact kept chunks _

/-- A collector holds everything it was given, unless something was refused. -/
structure Collected (collector : Collector) (charset : Charset) (capacity : Capacity)
    (chunks : List Bytes) : Prop where
  named : collector.charset = charset
  overflowed : collector.overflowed = (capacity.firstRefusal 0 chunks).isSome
  bounded : collector.buffer.capacity = capacity
  writing : collector.buffer.reading = false
  sound : collector.buffer.Sound
  content : capacity.firstRefusal 0 chunks = none → collector.buffer.content = chunks.flatten

theorem Collected.append {collector : Collector}
    (collected : collector.Collected charset capacity chunks)
    (whole : capacity.firstRefusal 0 chunks = none) (bytes : Bytes) :
    match capacity.firstRefusal 0 (chunks ++ [bytes]) with
    | none => collector.buffer.append bytes = .ok (collector.buffer.grown bytes) ∧
        (collector.buffer.grown bytes).Sound ∧
        (collector.buffer.grown bytes).content = (chunks ++ [bytes]).flatten
    | some error => collector.buffer.append bytes = .error error := by
  have content := collected.content whole
  have length : collector.buffer.length = chunks.flatten.length := by
    rw [Buffer.length, content]
  rw [Capacity.firstRefusal_append, whole, Option.none_or, Nat.zero_add, ← length,
    ← collected.bounded]
  split
  case h_1 nothing =>
      have fits : collector.buffer.capacity.holds (collector.buffer.length + bytes.length) = true := by
        by_cases fits : collector.buffer.capacity.holds (collector.buffer.length + bytes.length) = true
        · exact fits
        · simp [fits] at nothing
      exact ⟨by rw [collected.sound.append_eq collected.writing, if_pos fits],
        collected.sound.grown fits, by simp [Buffer.grown, content]⟩
  case h_2 error refused =>
      split at refused
      · simp at refused
      case isFalse exceeds =>
          obtain rfl := Option.some.inj refused
          rw [collected.sound.append_eq collected.writing, if_neg exceeds]

theorem Collected.take {collector : Collector}
    (collected : collector.Collected charset capacity chunks) (bytes : Bytes) :
    (collector.take bytes).Collected charset capacity (chunks ++ [bytes]) := by
  have more := @Capacity.firstRefusal_append capacity 0 chunks bytes
  unfold Collector.take
  cases refused : capacity.firstRefusal 0 chunks with
  | some error =>
      have ceased : collector.overflowed = true := by simp [collected.overflowed, refused]
      rw [refused, Option.some_or] at more
      simp only [ceased, ↓reduceIte]
      exact ⟨collected.named, by simp [ceased, more], collected.bounded, collected.writing, collected.sound,
        by simp [more]⟩
  | none =>
      have whole : collector.overflowed = false := by simp [collected.overflowed, refused]
      have appended := collected.append refused bytes
      simp only [whole, Bool.false_eq_true, ↓reduceIte]
      split at appended
      case h_1 fits =>
          obtain ⟨appended, sound, content⟩ := appended
          simp only [appended]
          exact ⟨collected.named, by simp [fits], collected.bounded, collected.writing, sound,
            fun _ => content⟩
      case h_2 error exceeds =>
          simp only [appended]
          exact ⟨collected.named, by simp [exceeds], collected.bounded, collected.writing, collected.sound,
            by simp [exceeds]⟩

theorem collected_new (charset : Charset) (capacity : Capacity) (promise : Nat) :
    (new charset capacity promise).Collected charset capacity [] :=
  ⟨rfl, rfl, rfl, rfl, Buffer.sound_new capacity, fun _ => rfl⟩

theorem collected_collect (charset : Charset) (capacity : Capacity) (promise : Nat)
    (chunks : List Bytes) :
    (collect charset capacity promise chunks).Collected charset capacity chunks := by
  have further (later earlier : List Bytes) (collector : Collector)
      (collected : collector.Collected charset capacity earlier) :
      (later.foldl Collector.take collector).Collected charset capacity (earlier ++ later) := by
    induction later generalizing earlier collector with
    | nil => simpa using collected
    | cons bytes rest ih => simpa using ih (earlier ++ [bytes]) _ (collected.take bytes)
  exact further chunks [] _ (collected_new charset capacity promise)

/-- The text of a body that fits is its octets decoded at once, wherever it was
cut. -/
theorem text_collect (whole : capacity.firstRefusal 0 chunks = none) :
    (collect charset capacity promise chunks).text = charset.decode chunks.flatten := by
  obtain ⟨named, -, -, writing, -, content⟩ := collected_collect charset capacity promise chunks
  have content := content whole
  have nothing : charset.decode [] = "" := by cases charset <;> rfl
  have readable : (collect charset capacity promise chunks).buffer.flip.readable =
      chunks.flatten := by
    simp [Buffer.flip, Buffer.readable, writing, content]
  rw [Collector.text, Buffer.text?, readable, named]
  cases octets : chunks.flatten with
  | nil => simp [nothing]
  | cons octet rest => simp

end Collector

end Handoff
