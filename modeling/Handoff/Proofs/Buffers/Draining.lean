import Handoff.Proofs.Buffers.Operations

namespace Handoff

/-! Draining a buffer.

A writer may take less than it is offered, ask to be called again, or give up in the
middle.  At every call, what it took before and what it is offered make up what there
was to write; so in the end it has everything, or something is left.  The buffer waits
for the outcome: it is cleared when everything was taken, and otherwise not touched. -/

namespace Writer

/-- One call of a writer. -/
structure Call where
  offered : Bytes
  response : Response

/-- Why the writer gives up, if it does. -/
def Response.failure? : Response → Option WriteError
  | .takes 0 => some .tookNothing
  | .takes (_ + 1) | .interrupted => none
  | .fails error => some error

namespace Call

def taken (call : Call) : Bytes :=
  match call.response with
  | .takes count => call.offered.take count
  | .interrupted | .fails _ => []

def left (call : Call) : Bytes :=
  match call.response with
  | .takes count => call.offered.drop count
  | .interrupted | .fails _ => call.offered

theorem taken_left (call : Call) : call.taken ++ call.left = call.offered := by
  obtain ⟨offered, response⟩ := call
  cases response with
  | takes count => exact List.take_append_drop count offered
  | interrupted => rfl
  | fails error => rfl

theorem left_of_failure {call : Call} {error : WriteError}
    (failed : call.response.failure? = some error) : call.left = call.offered := by
  obtain ⟨offered, response⟩ := call
  cases response with
  | takes count =>
      cases count with
      | zero => rfl
      | succ count => cases failed
  | interrupted => rfl
  | fails error => rfl

end Call

/-- The calls that are made until everything offered is taken or the writer gives up. -/
def calls : List Response → Bytes → List Call
  | _, [] => []
  | [], offered => [⟨offered, .takes offered.length⟩]
  | response :: responses, offered =>
      ⟨offered, response⟩ ::
        if response.failure?.isSome then [] else calls responses (Call.left ⟨offered, response⟩)

/-- What a writer took, call after call. -/
def takenIn (calls : List Call) : Bytes :=
  calls.flatMap Call.taken

@[simp] theorem takenIn_nil : takenIn [] = [] := rfl

@[simp] theorem takenIn_cons (call : Call) (calls : List Call) :
    takenIn (call :: calls) = call.taken ++ takenIn calls :=
  List.flatMap_cons

variable {responses : List Response} {offered : Bytes}

/-- Why the writer gave up in the course of some calls. -/
def failure? (calls : List Call) : Option WriteError :=
  calls.findSome? fun call => call.response.failure?

/-- What was taken before a call and what is offered then are the whole. -/
theorem offered_of_calls {before after : List Call} {call : Call}
    (made : calls responses offered = before ++ call :: after) :
    call.offered ≠ [] ∧ takenIn before ++ call.offered = offered := by
  fun_induction calls responses offered generalizing before with
  | case1 responses => simp at made
  | case2 offered some =>
      cases before with
      | nil =>
          cases made
          exact ⟨some, rfl⟩
      | cons first before => simp at made
  | case3 response responses offered some ih =>
      cases before with
      | nil =>
          cases made
          exact ⟨some, rfl⟩
      | cons other before =>
          obtain ⟨rfl, later⟩ := List.cons.inj made
          split at later
          case isTrue => simp at later
          case isFalse =>
            obtain ⟨offers, whole⟩ := ih later
            refine ⟨offers, ?_⟩
            rw [takenIn_cons, List.append_assoc, whole]
            exact Call.taken_left ⟨offered, response⟩

/-- A writer that does not give up takes everything. -/
theorem takenIn_of_success (succeeds : failure? (calls responses offered) = none) :
    takenIn (calls responses offered) = offered := by
  fun_induction calls responses offered with
  | case1 responses => rfl
  | case2 offered some => simp [Call.taken]
  | case3 response responses offered some ih =>
      rw [failure?, List.findSome?_cons] at succeeds
      cases failed : response.failure? with
      | some error => simp [failed] at succeeds
      | none =>
          simp only [failed] at succeeds
          rw [takenIn_cons, Option.isSome_none, if_neg Bool.false_ne_true, ih succeeds]
          exact Call.taken_left ⟨offered, response⟩

/-- A writer that gives up leaves something. -/
theorem takenIn_of_failure {error : WriteError}
    (fails : failure? (calls responses offered) = some error) :
    ∃ left, left ≠ [] ∧ takenIn (calls responses offered) ++ left = offered := by
  fun_induction calls responses offered with
  | case1 responses => cases fails
  | case2 offered some =>
      cases offered with
      | nil => exact absurd rfl some
      | cons octet offered => cases fails
  | case3 response responses offered some ih =>
      rw [failure?, List.findSome?_cons] at fails
      cases failed : response.failure? with
      | some other =>
          refine ⟨offered, some, ?_⟩
          have whole := Call.taken_left ⟨offered, response⟩
          rw [Call.left_of_failure failed] at whole
          simpa [failed] using whole
      | none =>
          simp only [failed] at fails
          obtain ⟨left, more, whole⟩ := ih fails
          refine ⟨left, more, ?_⟩
          rw [takenIn_cons, Option.isSome_none, if_neg Bool.false_ne_true, List.append_assoc, whole]
          exact Call.taken_left ⟨offered, response⟩

/-- What a writer got is what it took in its calls, and it gives up when one of them
does. -/
theorem writeAllFrom_eq (pieces : List Bytes) :
    (writeAllFrom pieces responses offered).2.reverse.flatten =
        pieces.reverse.flatten ++ takenIn (calls responses offered) ∧
      (writeAllFrom pieces responses offered).1 =
        (failure? (calls responses offered)).elim (.ok ()) .error := by
  fun_induction calls responses offered generalizing pieces with
  | case1 responses => cases responses <;> simp [writeAllFrom, failure?]
  | case2 offered some =>
      obtain ⟨octet, offered, rfl⟩ := List.exists_cons_of_ne_nil some
      simp [writeAllFrom, failure?, Call.taken, Response.failure?]
  | case3 response responses offered some ih =>
      obtain ⟨octet, offered, rfl⟩ := List.exists_cons_of_ne_nil some
      cases response with
      | fails error => simp [writeAllFrom, failure?, Call.taken, Response.failure?]
      | interrupted =>
          simpa [writeAllFrom, failure?, Call.taken, Call.left, Response.failure?] using ih pieces
      | takes count =>
          cases count with
          | zero => simp [writeAllFrom, failure?, Call.taken, Response.failure?]
          | succ count =>
              have later := ih ((octet :: offered).take (count + 1) :: pieces)
              simpa [writeAllFrom, failure?, Call.taken, Call.left, Response.failure?] using later

theorem writeAll_eq (responses : List Response) (offered : Bytes) :
    writeAll responses offered = ((failure? (calls responses offered)).elim (.ok ()) .error,
      takenIn (calls responses offered)) := by
  obtain ⟨received, result⟩ := @writeAllFrom_eq responses offered []
  exact Prod.ext result received

/-- A writer that never gives up, whatever it is offered. -/
def Obliges (responses : List Response) : Prop :=
  ∀ response ∈ responses, response.failure? = none

theorem failure?_of_obliges (obliges : Obliges responses) :
    failure? (calls responses offered) = none := by
  fun_induction calls responses offered with
  | case1 responses => rfl
  | case2 offered some =>
      obtain ⟨octet, offered, rfl⟩ := List.exists_cons_of_ne_nil some
      rfl
  | case3 response responses offered some ih =>
      have goes := obliges response (List.mem_cons_self ..)
      have later := ih fun other member => obliges other (List.mem_cons_of_mem _ member)
      simpa [failure?, goes] using later

end Writer

namespace Buffer

variable {buffer : Buffer}

/-- What is read past is content. -/
theorem Becomes.inside {after : Buffer} (becomes : buffer.Becomes after)
    (inside : buffer.cursor ≤ buffer.length) : after.cursor ≤ after.length := by
  have flipped : buffer.flip.cursor ≤ buffer.flip.length := by
    unfold flip
    split
    · exact inside
    · exact Nat.zero_le _
  cases becomes with
  | same => exact inside
  | rewound => exact Nat.zero_le _
  | cleared => exact Nat.zero_le _
  | flipped => exact flipped
  | grown bytes writing fits =>
      change buffer.cursor ≤ (buffer.content ++ bytes).length
      rw [List.length_append]
      exact Nat.le_trans inside (Nat.le_add_right _ _)
  | read count =>
      change buffer.flip.cursor + (buffer.flip.readable.take count).length ≤ buffer.flip.length
      rw [readable, if_pos flip_reading, List.length_take, List.length_drop]
      change buffer.flip.cursor ≤ buffer.flip.content.length at flipped
      change _ ≤ buffer.flip.content.length
      omega

theorem Reachable.inside (reachable : buffer.Reachable) : buffer.cursor ≤ buffer.length := by
  induction reachable with
  | made made => rw [made.eq_new]; exact Nat.zero_le _
  | performed operation reachable inside => exact (reachable.sound.becomes operation).inside inside

/-- What became of a buffer that was drained into a writer. -/
structure Drains (buffer : Buffer) (responses : List Writer.Response) : Prop where
  inside : buffer.cursor ≤ buffer.length
  /-- The writer has what it took in its calls, and is always offered all of the rest. -/
  received : (buffer.drain responses).received =
    Writer.takenIn (Writer.calls responses buffer.readable)
  offered {before after : List Writer.Call} {call : Writer.Call} :
    Writer.calls responses buffer.readable = before ++ call :: after →
      call.offered ≠ [] ∧ Writer.takenIn before ++ call.offered = buffer.readable
  completed {count : Nat} : (buffer.drain responses).result = .ok count →
    (buffer.drain responses).received = buffer.readable ∧ count = buffer.readable.length ∧
      (buffer.drain responses).buffer =
        { buffer with content := [], cursor := 0, reading := false }
  /-- The writer gave up and got a part; the buffer is as it was, and another writer can
  still get everything. -/
  failed {error : WriteError} : (buffer.drain responses).result = .error error →
    Writer.failure? (Writer.calls responses buffer.readable) = some error ∧
      (∃ left, left ≠ [] ∧ (buffer.drain responses).received ++ left = buffer.readable) ∧
      (buffer.drain responses).buffer = buffer ∧
      ∀ others, Writer.Obliges others →
        ((buffer.drain responses).buffer.drain others).result = .ok buffer.readable.length ∧
          ((buffer.drain responses).buffer.drain others).received = buffer.readable
  nothing : buffer.readable = [] → Writer.calls responses buffer.readable = [] ∧
    (buffer.drain responses).result = .ok 0 ∧ (buffer.drain responses).received = []

theorem drain_of_success {responses : List Writer.Response}
    (succeeds : Writer.failure? (Writer.calls responses buffer.readable) = none) :
    buffer.drain responses = ⟨.ok buffer.readable.length, buffer.readable, buffer.clear⟩ := by
  rw [drain, Writer.writeAll_eq, Writer.takenIn_of_success succeeds, succeeds]
  rfl

theorem drain_of_failure {responses : List Writer.Response} {error : WriteError}
    (fails : Writer.failure? (Writer.calls responses buffer.readable) = some error) :
    buffer.drain responses =
      ⟨.error error, Writer.takenIn (Writer.calls responses buffer.readable), buffer⟩ := by
  rw [drain, Writer.writeAll_eq, fails]
  rfl

/-- A drain is all or nothing for the buffer.  Either the writer has everything that
could be read, once and in order, and the buffer is empty; or the writer gave up, it
has less than that, and the buffer is as it was. -/
theorem drains_all_or_nothing (reachable : buffer.Reachable) (responses : List Writer.Response) :
    buffer.Drains responses := by
  have received : (buffer.drain responses).received =
      Writer.takenIn (Writer.calls responses buffer.readable) := by
    rw [drain, Writer.writeAll_eq]
    cases Writer.failure? (Writer.calls responses buffer.readable) <;> rfl
  constructor
  case inside => exact reachable.inside
  case received => exact received
  case offered => exact Writer.offered_of_calls
  case completed =>
    intro count succeeded
    cases failed : Writer.failure? (Writer.calls responses buffer.readable) with
    | none =>
        rw [drain_of_success failed] at succeeded ⊢
        cases succeeded
        exact ⟨rfl, rfl, rfl⟩
    | some error => rw [drain_of_failure failed] at succeeded; cases succeeded
  case failed =>
    intro error gaveUp
    cases failed : Writer.failure? (Writer.calls responses buffer.readable) with
    | none => rw [drain_of_success failed] at gaveUp; cases gaveUp
    | some other =>
        rw [drain_of_failure failed] at gaveUp ⊢
        cases gaveUp
        refine ⟨rfl, Writer.takenIn_of_failure failed, rfl, fun others obliges => ?_⟩
        have again : Writer.failure? (Writer.calls others buffer.readable) = none :=
          Writer.failure?_of_obliges obliges
        exact ⟨by rw [drain_of_success again], by rw [drain_of_success again]⟩
  case nothing =>
    intro empty
    have uncalled : Writer.calls responses buffer.readable = [] := by rw [empty, Writer.calls]
    rw [received, drain_of_success (by rw [uncalled]; rfl), uncalled, empty]
    exact ⟨rfl, rfl, rfl⟩

/-- A buffer that was read halfway meets a writer that takes an octet, is interrupted and
gives up. -/
theorem drains_all_or_nothing_halfway :
    let buffer := ((new (.growable 4 8)).run [.append [1, 2, 3, 4, 5], .read 2]).2
    let drained := buffer.drain [.takes 1, .interrupted, .takes 0]
    drained.received = [3] ∧ drained.buffer = buffer ∧
      (drained.buffer.drain [.takes 2, .interrupted]).received = [3, 4, 5] := by
  have reachable : ((new (.growable 4 8)).run [.append [1, 2, 3, 4, 5], .read 2]).2.Reachable :=
    Reachable.run (.made .new) _
  have law := drains_all_or_nothing reachable [.takes 1, .interrupted, .takes 0]
  obtain ⟨-, -, kept, again⟩ := law.failed rfl
  exact ⟨law.received, kept, (again [.takes 2, .interrupted] (by simp [Writer.Obliges,
    Writer.Response.failure?])).2⟩

end Buffer

end Handoff
