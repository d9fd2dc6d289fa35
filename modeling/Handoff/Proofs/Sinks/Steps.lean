import Handoff.Proofs.Sinks.Stakes
import Handoff.Proofs.Streams.Custody

namespace Handoff

theorem Promise.stands_enqueue (promise : Promise) (registration : Registration) :
    (promise.enqueue registration).shares = promise.shares ∧
      (promise.enqueue registration).isDone = promise.isDone ∧
      (promise.enqueue registration).owned = promise.owned := by
  cases state : promise.state <;> simp [enqueue, state, isDone, outcome?]

namespace Machine

/-! No token is lost.

Each step hands on the tokens of the task or the frame it begins with.  Only the
release of the derived sink takes one, together with the share it stands for. -/

/-- What is known of the derived promise from outside. -/
def standing (machine : Machine) (link : Link) : Nat × Bool × Bool :=
  let promise := machine.world.promise link.derived
  (promise.shares, promise.isDone, promise.owned)

/-- The derived promise stands as before, and the tokens of a load were handed on. -/
structure Bears (link : Link) (load : Nat) (machine after : Machine) : Prop where
  standing : after.standing link = machine.standing link
  load : load + machine.rest link ≤ after.tokens link

variable {link : Link} {machine : Machine}

theorem standing_setPromise (index : Nat) (promise : Promise)
    (kept : index = link.derived → promise.shares = (machine.world.promise index).shares ∧
      promise.isDone = (machine.world.promise index).isDone ∧
      promise.owned = (machine.world.promise index).owned) :
    (machine.setPromise index promise).standing link = machine.standing link := by
  simp only [standing, promise_setPromise]
  split
  case isTrue same =>
      obtain ⟨shares, done, owned⟩ := kept same.symm
      rw [shares, done, owned, same]
  case isFalse => rfl

theorem standing_logs (machine : Machine) (notices : List Notice) :
    (notices.foldl log machine).standing link = machine.standing link := by
  induction notices generalizing machine with
  | nil => rfl
  | cons notice later ih => exact ih (machine.log notice)

theorem bears_settle {index : Nat} (outcome : Outcome) (apart : index ≠ link.derived) :
    Bears link 0 machine (machine.settle index outcome) := by
  simp only [settle]
  split
  case h_1 => exact ⟨rfl, by simp⟩
  case h_2 waiting pending =>
      refine ⟨standing_setPromise _ _ fun same => absurd same apart, ?_⟩
      have settled : ((machine.world.promise index).settle outcome).tokens link = 0 := rfl
      have waited : (machine.world.promise index).tokens link =
          Count.total (waiting.map (Registration.tokens link)) := by
        simp [Promise.tokens, Promise.waiting, pending]
      have handed : machine.rest link + 0 ≤
          (machine.setPromise index ((machine.world.promise index).settle outcome)).rest link +
            Count.total (waiting.map (Registration.tokens link)) :=
        machine.rest_setPromise link _ _ (fun _ => by omega) (fun _ => by omega)
      simp only [tokens_turn, rest_log, rest_note, Task.tokens]
      omega

theorem bears_dispatch (index : Nat) (outcome : Outcome) (waiting : List Registration) :
    Bears link ((Task.dispatch index outcome waiting).tokens link) machine
      (machine.dispatch index outcome waiting) := by
  cases waiting with
  | nil => exact ⟨rfl, by simp [dispatch, Task.tokens]⟩
  | cons registration waiting =>
      refine ⟨rfl, ?_⟩
      simp only [dispatch, Task.tokens, Frame.tokens, tokens_turn, rest_push, rest_note,
        List.map_cons, Count.total_cons, List.map_nil, Count.total_nil, Registration.tokens]
      omega

theorem bears_tell (handler : CompletionHandler) (outcome : Outcome) :
    Bears link 0 machine (machine.tell handler outcome) := by
  cases handler with
  | client handler hearing =>
      simp only [tell]
      split
      · exact ⟨rfl, by simp⟩
      · exact ⟨rfl, by simp⟩
  | logging name => exact ⟨rfl, by simp [tell]⟩
  | mapping function derived =>
      cases outcome with
      | resolved value => exact ⟨rfl, by simp [tell, Frame.tokens]⟩
      | _ => exact ⟨rfl, by simp [tell, Task.tokens]⟩
  | forwarding channel => exact ⟨rfl, by simp [tell]⟩
  | _ => cases outcome <;> exact ⟨rfl, by simp [tell, Task.tokens]⟩

theorem bears_register (index : Nat) (handler : CompletionHandler) :
    Bears link ((Task.register index handler).tokens link) machine
      (machine.register index handler) := by
  simp only [register]
  split
  case h_1 waiting pending =>
      have row := (machine.world.promise index).stands_enqueue
        ⟨machine.world.registrations, handler⟩
      have joined : ((machine.world.promise index).enqueue
          ⟨machine.world.registrations, handler⟩).tokens link =
            (machine.world.promise index).tokens link + handler.tokens link := by
        simp [Promise.tokens, Promise.enqueue, Promise.waiting, pending, Registration.tokens]
      refine ⟨standing_setPromise _ _ fun _ => row, ?_⟩
      have handed : machine.rest link + (Task.register index handler).tokens link ≤
          (machine.setPromise index ((machine.world.promise index).enqueue
            ⟨machine.world.registrations, handler⟩)).rest link + 0 := by
        refine machine.rest_setPromise link _ _ (fun own => ?_) (fun other => ?_)
        · simp only [Task.tokens, if_pos own]
          omega
        · simp [Task.tokens, other]
      rw [tokens_reply, Nat.add_comm]
      exact handed
  case h_2 outcome settled =>
      refine ⟨rfl, ?_⟩
      simp only [Task.tokens, tokens_turn, rest_push, rest_note, rest_countRegistrations,
        Frame.tokens, List.map_cons, List.map_nil, Count.total_cons, Count.total_nil]
      split <;> omega

theorem bears_forget (handlers : List CompletionHandler) :
    Bears link ((Task.forget handlers).tokens link) machine (machine.forget handlers) := by
  cases handlers with
  | nil => exact ⟨rfl, by simp [forget, Task.tokens]⟩
  | cons handler later =>
      have held : (if later.isEmpty then machine else machine.push (.forgetting later)).rest link =
          Count.total (later.map (CompletionHandler.tokens link)) + machine.rest link := by
        cases later with
        | nil => simp
        | cons first others => exact machine.rest_push link (.forgetting (first :: others))
      have standing : (if later.isEmpty then machine
          else machine.push (.forgetting later)).standing link = machine.standing link := by
        split <;> rfl
      cases handler with
      | mapping function derived =>
          refine ⟨standing, ?_⟩
          simp only [forget, Task.tokens, tokens_turn, held, List.map_cons, Count.total_cons,
            CompletionHandler.tokens]
          omega
      | passing promise =>
          refine ⟨standing, ?_⟩
          simp only [forget, Task.tokens, tokens_turn, held, List.map_cons, Count.total_cons,
            CompletionHandler.tokens]
          omega
      | _ =>
          refine ⟨standing, ?_⟩
          simp only [forget, Task.tokens, tokens_reply, rest_setChannel, held, List.map_cons,
            Count.total_cons, CompletionHandler.tokens]
          omega

theorem bears_release {index : Nat} (apart : index ≠ link.derived) :
    Bears link 0 machine (machine.release index) := by
  have standing : (machine.setPromise index (machine.world.promise index).removeShare).standing
      link = machine.standing link :=
    standing_setPromise _ _ fun same => absurd same apart
  have handed : machine.rest link + 0 ≤
      (machine.setPromise index (machine.world.promise index).removeShare).rest link + 0 :=
    machine.rest_setPromise link _ _ (fun _ => Nat.le_refl _) (fun _ => Nat.le_refl _)
  simp only [release]
  split
  · refine ⟨standing, ?_⟩
    simp only [tokens_turn, rest_push, Task.tokens, Frame.tokens]
    omega
  · refine ⟨standing, ?_⟩
    simp only [tokens_reply]
    omega

/-! Streams.  A step that writes the row of an accumulator keeps its handler, or
gives it to control. -/

theorem rest_sameStage (index : Nat) {accumulator : Accumulator}
    (same : accumulator.stage = (machine.world.accumulator index).stage) :
    machine.rest link ≤ (machine.setAccumulator index accumulator).rest link := by
  have handed : machine.rest link + 0 ≤
      (machine.setAccumulator index accumulator).rest link + 0 :=
    machine.rest_setAccumulator link _ _ (fun _ => Nat.le_of_eq (by rw [same]))
      (fun _ => Nat.le_refl _)
  exact handed

/-- A row without a handler is written. -/
theorem rest_emptyStage (index : Nat) (accumulator : Accumulator)
    (empty : link.stream = some index → (machine.world.accumulator index).stage.tokens link = 0) :
    (if link.stream = some index then accumulator.stage.tokens link else 0) + machine.rest link ≤
      (machine.setAccumulator index accumulator).rest link := by
  have handed : machine.rest link +
      (if link.stream = some index then accumulator.stage.tokens link else 0) ≤
        (machine.setAccumulator index accumulator).rest link + 0 := by
    refine machine.rest_setAccumulator link _ _ (fun own => ?_) (fun other => ?_)
    · rw [if_pos own, empty own]
      omega
    · simp [other]
  omega

theorem bears_deliver (index : Nat) (bytes : Bytes) :
    Bears link 0 machine (machine.deliver index bytes) := by
  simp only [deliver]
  split
  · exact ⟨rfl, by simp⟩
  · refine ⟨by split <;> rfl, ?_⟩
    have kept : machine.rest link ≤ (machine.setAccumulator index
        ((machine.world.accumulator index).enqueue bytes)).rest link :=
      rest_sameStage index rfl
    simp only [tokens_turn, rest_push, rest_note, Task.tokens, Frame.tokens]
    split
    · omega
    · have logged := kept
      simp only [Nat.zero_add]
      exact logged

theorem bears_attach (index : Nat) (handler : ChunkHandler) :
    Bears link ((Task.attach index handler).tokens link) machine (machine.attach index handler) := by
  simp only [attach]
  split
  case isTrue attached =>
      refine ⟨rfl, ?_⟩
      simp only [tokens_turn, rest_push, Task.tokens, Frame.tokens]
      split <;> omega
  case isFalse unattached =>
      refine ⟨rfl, ?_⟩
      have empty : (machine.world.accumulator index).stage.tokens link = 0 := by
        rw [Accumulator.unattached_of_not_attached (by simpa using unattached)]
        rfl
      have handed := rest_emptyStage index ((machine.world.accumulator index).park handler) fun _ => empty
      simp only [tokens_turn, rest_push, rest_log, Task.tokens, Frame.tokens, Nat.zero_add]
      exact handed

theorem bears_finish (index : Nat) (ending : Ending) :
    Bears link 0 machine (machine.finish index ending) := by
  simp only [finish]
  split
  · exact ⟨rfl, by simp⟩
  · refine ⟨rfl, ?_⟩
    have kept : machine.rest link ≤ (machine.setAccumulator index
        ((machine.world.accumulator index).close ending)).rest link :=
      rest_sameStage index rfl
    simpa [Task.tokens, Frame.tokens] using kept

theorem bears_drain (index : Nat) : Bears link 0 machine (machine.drain index) := by
  simp only [drain]
  split
  case h_1 handler parked =>
      refine ⟨rfl, ?_⟩
      have handed : machine.rest link + 0 ≤ (machine.setAccumulator index
          { machine.world.accumulator index with stage := .draining }).rest link +
            (if link.stream = some index then handler.tokens link else 0) := by
        refine machine.rest_setAccumulator link _ _ (fun own => ?_) (fun _ => Nat.zero_le _)
        rw [if_pos own, parked]
        simp [Stage.tokens]
      rw [Nat.zero_add, tokens_turn, Nat.add_comm]
      exact handed
  all_goals exact ⟨rfl, by simp⟩

theorem bears_letGo (index : Nat) (handler : ChunkHandler)
    (empty : link.stream = some index → (machine.world.accumulator index).stage.tokens link = 0) :
    Bears link (if link.stream = some index then handler.tokens link else 0) machine
      (machine.letGo index handler) := by
  refine ⟨rfl, ?_⟩
  have handed := rest_emptyStage index (machine.world.accumulator index).release empty
  have more : (if link.stream = some index then handler.tokens link else 0) ≤
      handler.tokens link := by
    split <;> omega
  have empty : (machine.world.accumulator index).release.stage.tokens link = 0 := rfl
  rw [empty, ite_self, Nat.zero_add] at handed
  have given := Nat.add_le_add more handed
  rw [letGo, tokens_turn, rest_push, rest_note]
  simp only [Frame.tokens, Nat.zero_add]
  exact given

end Machine

theorem ChunkHandler.tokens_eq_stakes {link : Link} (handler : ChunkHandler) :
    handler.tokens link = handler.stakes link.derived := by
  cases handler <;> rfl

theorem ChunkHandler.tokens_take {link : Link} (handler : ChunkHandler) (bytes : Bytes) :
    (handler.take bytes).tokens link = handler.tokens link := by
  rw [tokens_eq_stakes, stakes_take, tokens_eq_stakes]

theorem ChunkHandler.tokens_close {link : Link} (handler : ChunkHandler) :
    handler.close.tokens link = handler.tokens link := by
  rw [tokens_eq_stakes, stakes_close, tokens_eq_stakes]

namespace Machine

variable {link : Link} {machine : Machine}

theorem bears_next (index : Nat) (handler : ChunkHandler)
    (empty : link.stream = some index → (machine.world.accumulator index).stage.tokens link = 0) :
    Bears link ((Task.next index handler).tokens link) machine (machine.next index handler) := by
  simp only [next]
  split
  case h_1 =>
      refine ⟨rfl, ?_⟩
      rw [tokens_reply]
      exact rest_emptyStage index ((machine.world.accumulator index).park handler) empty
  case h_2 bytes later first =>
      refine ⟨rfl, ?_⟩
      have kept : machine.rest link ≤ (machine.setAccumulator index
          ((machine.world.accumulator index).dequeue bytes later)).rest link :=
        rest_sameStage index rfl
      rw [tokens_turn, rest_push, rest_note]
      simp only [Task.tokens, Frame.tokens, ChunkHandler.tokens_take, Nat.zero_add]
      exact Nat.add_le_add_left kept _
  case h_3 ending later first =>
      have kept : machine.rest link ≤ (machine.setAccumulator index
          { machine.world.accumulator index with queue := later }).rest link :=
        rest_sameStage index rfl
      split
      · refine ⟨rfl, ?_⟩
        rw [tokens_turn, rest_push, rest_note]
        simp only [Task.tokens, Frame.tokens, ChunkHandler.tokens_close, Nat.zero_add]
        exact Nat.add_le_add_left kept _
      · have bears := @bears_letGo link (machine.setAccumulator index
          { machine.world.accumulator index with queue := later }) index handler fun own => by
            rw [accumulator_setAccumulator_own]
            exact empty own
        exact ⟨bears.standing, Nat.le_trans (Nat.add_le_add_left kept _) bears.load⟩

theorem bears_feed (handler : ChunkHandler) (bytes : Bytes) :
    Bears link 0 machine (machine.feed handler bytes) := by
  cases handler with
  | client handler => exact ⟨rfl, by simp [feed]⟩
  | logging name => exact ⟨rfl, by simp [feed]⟩
  | forwarding channel => exact ⟨rfl, by simp [feed]⟩
  | collecting collector =>
      simp only [feed]
      split
      · exact ⟨rfl, by simp⟩
      · split
        · exact ⟨standing_logs _ _, by simp⟩
        · exact ⟨rfl, by simp [raise, Task.tokens, Frame.tokens]⟩

theorem bears_feedEnd (handler : ChunkHandler) :
    Bears link 0 machine (machine.feedEnd handler) := by
  cases handler <;> exact ⟨rfl, by simp [feedEnd, Task.tokens]⟩

theorem bears_discard (handler : ChunkHandler) :
    Bears link ((Task.discard handler).tokens link) machine (machine.discard handler) := by
  cases handler <;> exact ⟨rfl, by simp [discard, Task.tokens, ChunkHandler.tokens]⟩

theorem bears_abandon (index : Nat) : Bears link 0 machine (machine.abandon index) := by
  simp only [abandon]
  split
  · refine ⟨rfl, ?_⟩
    rw [tokens_turn]
    exact Nat.add_le_add_right (Nat.zero_le _) _
  · exact ⟨rfl, by simp [Task.tokens, Frame.tokens]⟩

/-- A task that does not touch the derived promise hands on its tokens. -/
theorem bears_perform {task : Task} (unsettled : ∀ outcome, task ≠ .settle link.derived outcome)
    (unreleased : task ≠ .release link.derived)
    (empty : ∀ index handler, task = .next index handler → link.stream = some index →
      (machine.world.accumulator index).stage.tokens link = 0) :
    Bears link (task.tokens link) machine (machine.perform task) := by
  cases task with
  | settle index outcome => exact bears_settle outcome fun same => unsettled outcome (by rw [same])
  | dispatch index outcome waiting => exact bears_dispatch index outcome waiting
  | tell handler outcome => exact bears_tell handler outcome
  | register index handler => exact bears_register index handler
  | forget handlers => exact bears_forget handlers
  | release index =>
      have apart : index ≠ link.derived := fun same => unreleased (by rw [same])
      have free : (Task.release index).tokens link = 0 := if_neg apart
      rw [free]
      exact bears_release apart
  | deliver index bytes => exact bears_deliver index bytes
  | attach index handler => exact bears_attach index handler
  | finish index ending => exact bears_finish index ending
  | drain index => exact bears_drain index
  | next index handler => exact bears_next index handler (empty index handler rfl)
  | feed handler bytes => exact bears_feed handler bytes
  | feedEnd handler => exact bears_feedEnd handler
  | discard handler => exact bears_discard handler
  | abandon index => exact bears_abandon index

/-! Frames and calls. -/

theorem bears_leave (index : Nat) {after : Frame} {otherwise : Control}
    (light : otherwise.tokens link = 0) :
    Bears link 0 machine (machine.leave index after otherwise) := by
  simp only [leave]
  split
  · refine ⟨rfl, ?_⟩
    rw [tokens_turn, rest_push, rest_setBody]
    omega
  · refine ⟨rfl, ?_⟩
    rw [tokens, light]
    exact Nat.le_refl _

theorem bears_resume (reply : Reply) (frame : Frame)
    (empty : ∀ index handler, frame = .fed index handler ∨ frame = .fedEnd index handler →
      link.stream = some index → (machine.world.accumulator index).stage.tokens link = 0)
    (joined : ∀ body, link.body = some body → (machine.world.body body).promise = link.source) :
    Bears link (frame.tokens link) machine (machine.resume reply frame) := by
  cases frame with
  | client invocation =>
      refine ⟨rfl, ?_⟩
      change _ ≤ 0 + (machine.push (.client invocation)).rest link
      simp [Frame.tokens]
  | replying other => exact ⟨rfl, by simp [resume, Frame.tokens]⟩
  | forgetting handlers => exact ⟨rfl, Nat.le_refl _⟩
  | dispatching promise outcome waiting => exact ⟨rfl, Nat.le_refl _⟩
  | resolving derived =>
      cases reply <;> exact ⟨rfl, by simp [resume, Frame.tokens, Task.tokens]⟩
  | dropping =>
      simp only [resume]
      split <;> exact ⟨rfl, by simp [Frame.tokens]⟩
  | releasing promise =>
      refine ⟨rfl, ?_⟩
      rw [resume, tokens_turn]
      exact Nat.add_le_add_right (Nat.zero_le _) _
  | fed index handler =>
      have kept (wantsEnd : Bool) : machine.rest link ≤ (machine.setAccumulator index
          { machine.world.accumulator index with wantsEnd }).rest link :=
        rest_sameStage index rfl
      cases reply <;> exact ⟨rfl, Nat.add_le_add_left (kept _) _⟩
  | fedEnd index handler => exact bears_letGo index handler (empty index handler (.inr rfl))
  | released => exact ⟨rfl, by simp [resume, Frame.tokens]⟩
  | finishing promise value =>
      simp only [resume]
      split <;> exact ⟨rfl, by simp [Frame.tokens, Task.tokens]⟩
  | settling promise outcome => exact ⟨rfl, by simp [resume, Frame.tokens, Task.tokens]⟩
  | leaving body => exact bears_leave body rfl
  | texting body derived =>
      simp only [resume]
      split
      · refine ⟨rfl, ?_⟩
        simp only [tokens_turn, rest_push, Task.tokens, Frame.tokens]
        split <;> split <;> omega
      · refine ⟨rfl, ?_⟩
        simp only [tokens_turn, rest_push, Task.tokens, Frame.tokens, CompletionHandler.tokens]
        split
        case isTrue own => simp [own.1, joined body own.2]
        case isFalse => omega
  | streaming body channel =>
      simp only [resume]
      split
      · exact ⟨rfl, by simp [Frame.tokens]⟩
      · refine ⟨rfl, ?_⟩
        simp only [tokens_turn, rest_push, Frame.tokens]
        omega
  | returning index handler => exact ⟨rfl, by simp [resume, Frame.tokens]⟩
  | rethrowing message => exact ⟨rfl, Nat.le_refl _⟩

theorem bears_collapse (index : Nat) (handler : ChunkHandler) (message : String)
    (empty : link.stream = some index → (machine.world.accumulator index).stage.tokens link = 0) :
    Bears link (if link.stream = some index then handler.tokens link else 0) machine
      (((machine.collapse index).push (.rethrowing message)).turn (.discard handler)) := by
  refine ⟨rfl, ?_⟩
  have handed := rest_emptyStage index (machine.world.accumulator index).collapse empty
  have more : (if link.stream = some index then handler.tokens link else 0) ≤
      handler.tokens link := by
    split <;> omega
  have empty : (machine.world.accumulator index).collapse.stage.tokens link = 0 := rfl
  rw [empty, ite_self, Nat.zero_add] at handed
  rw [tokens_turn, rest_push, collapse, rest_log, rest_note]
  simp only [Task.tokens, Frame.tokens, Nat.zero_add]
  exact Nat.add_le_add more handed

theorem bears_unwind {message : String} (panicking : machine.control = .panic message)
    (frame : Frame)
    (empty : ∀ index handler, frame = .fed index handler ∨ frame = .fedEnd index handler →
      link.stream = some index → (machine.world.accumulator index).stage.tokens link = 0) :
    Bears link (frame.tokens link) machine (machine.unwind message frame) := by
  have still : machine.tokens link = machine.rest link := by
    rw [tokens, panicking]
    exact Nat.zero_add _
  cases frame with
  | client invocation =>
      refine ⟨rfl, ?_⟩
      change _ ≤ 0 + (machine.push (.client invocation)).rest link
      simp [Frame.tokens]
  | forgetting handlers => exact ⟨rfl, by simp [unwind, Frame.tokens, Task.tokens]⟩
  | dispatching promise outcome waiting =>
      refine ⟨rfl, ?_⟩
      have same : (CompletionHandler.tokens link ∘ Registration.handler) =
          Registration.tokens link := rfl
      simp [unwind, Frame.tokens, Task.tokens, List.map_map, same]
  | fed index handler => exact bears_collapse index handler message (empty index handler (.inl rfl))
  | fedEnd index handler =>
      exact bears_collapse index handler message (empty index handler (.inr rfl))
  | releasing promise =>
      refine ⟨rfl, ?_⟩
      rw [unwind, tokens_turn, rest_push]
      simp only [Frame.tokens]
      omega
  | leaving body => exact bears_leave body rfl
  | texting body derived =>
      refine ⟨rfl, ?_⟩
      rw [unwind, tokens_turn, rest_push]
      simp only [Frame.tokens, Task.tokens]
      split <;> split <;> omega
  | streaming body channel =>
      refine ⟨rfl, ?_⟩
      have same : (machine.unwind message (.streaming body channel)).tokens link =
        machine.tokens link := rfl
      rw [same, still]
      exact Nat.le_of_eq (Nat.zero_add _)
  | returning index handler =>
      refine ⟨rfl, ?_⟩
      have same : (machine.unwind message (.returning index handler)).tokens link =
        machine.tokens link := rfl
      rw [same, still]
      exact Nat.le_of_eq (Nat.zero_add _)
  | rethrowing other => exact ⟨rfl, Nat.le_refl _⟩
  | _ =>
      refine ⟨rfl, ?_⟩
      rw [unwind, still]
      exact Nat.le_of_eq (Nat.zero_add _)

theorem bears_addPromise (made : link.Made machine.world) (promise : Promise) :
    (machine.withWorld (machine.world.addPromise promise)).standing link = machine.standing link ∧
      (machine.withWorld (machine.world.addPromise promise)).rest link = machine.rest link := by
  have row {index : Nat} (made : index < machine.world.promises.size) :
      (machine.world.addPromise promise).promise index = machine.world.promise index :=
    (Store.get_add _ _ _).trans (if_neg (Nat.ne_of_lt made))
  refine ⟨?_, ?_⟩
  · simp only [standing, withWorld, row made.derived]
  · have awaiting : (machine.withWorld (machine.world.addPromise promise)).awaiting link =
        machine.awaiting link := by
      simp only [Machine.awaiting, withWorld, row made.source]
    simp only [rest, awaiting]
    rfl

theorem rest_addAccumulator (made : link.Made machine.world) (accumulator : Accumulator) :
    (machine.withWorld (machine.world.addAccumulator accumulator)).rest link =
      machine.rest link := by
  have streaming : (machine.withWorld (machine.world.addAccumulator accumulator)).streaming link =
      machine.streaming link := by
    cases stream : link.stream with
    | none => simp [Machine.streaming, stream]
    | some index =>
        have row : (machine.world.addAccumulator accumulator).accumulator index =
            machine.world.accumulator index :=
          (Store.get_add _ _ _).trans (if_neg (Nat.ne_of_lt (made.stream index stream)))
        simp [Machine.streaming, stream, withWorld, row]
  simp only [rest, streaming]
  rfl

theorem bears_begin {call : Call} (made : link.Made machine.world)
    (unowned : (machine.world.promise link.derived).owned = false)
    (admitted : machine.world.admits call = true) : Bears link 0 machine (machine.begin call) := by
  have apart {index : Nat} (owned : (machine.world.promise index).owned = true) :
      index ≠ link.derived := by
    rintro rfl
    rw [unowned] at owned
    cases owned
  have light (task : Task) : 0 + machine.rest link ≤ task.tokens link + machine.rest link :=
    Nat.add_le_add_right (Nat.zero_le _) _
  cases call with
  | newPromise =>
      obtain ⟨standing, rest⟩ := bears_addPromise made .forClient
      refine ⟨standing, ?_⟩
      exact Nat.le_of_eq (by rw [begin, tokens_reply, rest, Nat.zero_add])
  | newSettled outcome =>
      obtain ⟨standing, rest⟩ := bears_addPromise made (.done outcome)
      refine ⟨standing, ?_⟩
      exact Nat.le_of_eq (by rw [begin, tokens_reply, rest, Nat.zero_add])
  | dropSink promise =>
      have handed : machine.rest link + 0 ≤ (machine.setPromise promise
          { machine.world.promise promise with owned := false }).rest link + 0 :=
        machine.rest_setPromise link _ _ (fun _ => Nat.le_refl _) (fun _ => Nat.le_refl _)
      refine ⟨standing_setPromise _ _ fun same => absurd same (apart admitted), ?_⟩
      rw [begin, tokens_turn]
      exact Nat.add_le_add (Nat.zero_le _) handed
  | map promise function =>
      obtain ⟨standing, rest⟩ := bears_addPromise made (.inside 1)
      refine ⟨standing, ?_⟩
      rw [begin, map, tokens_turn, rest_push, rest]
      omega
  | newAccumulator ceiling =>
      refine ⟨rfl, ?_⟩
      exact Nat.le_of_eq (by rw [begin, tokens_reply, rest_addAccumulator made, Nat.zero_add])
  | newHandler handler =>
      cases handler with
      | collecting charset capacity promise =>
          have handed : machine.rest link + 0 ≤ (machine.setPromise promise
              (machine.world.promise promise).addShare).rest link + 0 :=
            machine.rest_setPromise link _ _ (fun _ => Nat.le_refl _) (fun _ => Nat.le_refl _)
          refine ⟨?_, ?_⟩
          · exact @standing_setPromise link machine promise (machine.world.promise promise).addShare
              fun same => absurd same (apart admitted)
          · exact Nat.le_trans (Nat.le_of_eq (Nat.add_comm _ _))
              (Nat.le_trans handed (Nat.le_of_eq (Nat.zero_add _).symm))
      | _ => exact ⟨rfl, Nat.le_refl _⟩
  | newBody config =>
      have promises : (machine.begin (.newBody config)).standing link = machine.standing link :=
        (bears_addPromise made (.inside 1)).1
      have handed : ((machine.withWorld (machine.world.addAccumulator
          (.new config.pendingCeiling))).withWorld ((machine.world.addAccumulator
            (.new config.pendingCeiling)).addPromise (.inside 1))).rest link = machine.rest link := by
        have larger : link.Made (machine.world.addAccumulator (.new config.pendingCeiling)) :=
          ⟨made.derived, made.source, fun index own => Nat.lt_of_lt_of_le (made.stream index own)
            (Nat.le_of_lt (Nat.lt_of_lt_of_eq (Nat.lt_succ_self _) (Store.size_add _ _).symm))⟩
        have added := (@bears_addPromise link
          (machine.withWorld (machine.world.addAccumulator (.new config.pendingCeiling))) larger
            (.inside 1)).2
        exact added.trans (rest_addAccumulator made _)
      refine ⟨promises, ?_⟩
      rw [begin, newBody, tokens_turn, rest_push]
      change 0 + machine.rest link ≤ _ + (_ + ((machine.withWorld (machine.world.addAccumulator
          (.new config.pendingCeiling))).withWorld ((machine.world.addAccumulator
            (.new config.pendingCeiling)).addPromise (.inside 1))).rest link)
      rw [handed]
      omega
  | send body bytes =>
      refine ⟨rfl, ?_⟩
      rw [begin, tokens_turn, hold, rest_push, rest_setBody]
      omega
  | complete body value =>
      refine ⟨rfl, ?_⟩
      rw [begin, tokens_turn, rest_push, hold, rest_push, rest_setBody]
      omega
  | fail body outcome =>
      refine ⟨rfl, ?_⟩
      rw [begin, tokens_turn, rest_push, hold, rest_push, rest_setBody]
      omega
  | dropSender body =>
      have bears := @bears_leave link
        (machine.setBody body { machine.world.body body with owned := false }) body
          (.replying .done) (.reply .done) rfl
      exact ⟨bears.standing, bears.load⟩
  | text body charset =>
      obtain ⟨standing, rest⟩ := bears_addPromise made (.inside 2)
      refine ⟨standing, ?_⟩
      rw [begin, text, tokens_turn, rest_push, rest]
      omega
  | chunks body =>
      refine ⟨rfl, ?_⟩
      change 0 + machine.rest link ≤ _ + (machine.push (.streaming body _)).rest link
      rw [rest_push]
      omega
  | feed handler bytes =>
      refine ⟨rfl, ?_⟩
      change 0 + machine.rest link ≤ _ + (machine.push (.returning handler _)).rest link
      rw [rest_push]
      omega
  | feedEnd handler =>
      refine ⟨rfl, ?_⟩
      change 0 + machine.rest link ≤
        _ + ((machine.push (.returning handler _)).push (.replying .done)).rest link
      rw [rest_push, rest_push]
      omega
  | poll channel => exact ⟨rfl, Nat.le_refl _⟩
  | dropStream channel => exact ⟨rfl, Nat.le_refl _⟩
  | _ =>
      refine ⟨rfl, ?_⟩
      simp only [begin, takeHandler, tokens_turn, rest_setHandler]
      exact light _

end Machine

end Handoff
