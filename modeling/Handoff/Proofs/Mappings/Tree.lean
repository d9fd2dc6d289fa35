import Handoff.Proofs.Mappings.Stages
import Handoff.Proofs.Sessions.Likeness

namespace Handoff

namespace Machine

/-! The futures that are derived from a future.

A mapping is a call of the client in the course of a run, and the futures that can be
reached from a future over mappings are its tree.  Whoever waits for a derived future
is the client's, writes a log, or maps it: the other handlers of the library wait for
the completions of bodies. -/

variable {machine after : Machine} {moves : List Move} {mapping : Mapping}
  {functions : List Nat} {root future : Nat}

/-- A call of the run that maps a future. -/
inductive Mapped (moves : List Move) : Mapping → Prop
  | call {earlier later : List Move} {source function : Nat} {sight : Sight}
      (cut : moves = earlier ++ .call (.map source function) :: later)
      (idle : (initial.run earlier).control = .client sight)
      (admitted : (initial.run earlier).world.admits (.map source function) = true) :
      Mapped moves ⟨source, function, (initial.run earlier).world.promises.size⟩

/-- A future is reached from another with functions, the first one first. -/
inductive Reaches (moves : List Move) (root : Nat) : List Nat → Nat → Prop
  | root : Reaches moves root [] root
  | map {functions : List Nat} {source function derived : Nat}
      (earlier : Reaches moves root functions source)
      (last : Mapped moves ⟨source, function, derived⟩) :
      Reaches moves root (functions ++ [function]) derived

theorem Mapped.more (mapped : Mapped moves mapping) (more : List Move) :
    Mapped (moves ++ more) mapping := by
  cases mapped with
  | @call earlier later source function sight cut idle admitted =>
      refine @Mapped.call _ earlier (later ++ more) source function sight ?_ idle admitted
      rw [cut, List.append_assoc, List.cons_append]

theorem Mapped.mem (mapped : Mapped moves mapping) :
    .call (.map mapping.source mapping.function) ∈ moves := by
  cases mapped with
  | call cut idle admitted =>
      rw [cut]
      exact List.mem_append_right _ (List.mem_cons_self ..)

theorem Mapped.lt (mapped : Mapped moves mapping) : mapping.source < mapping.derived := by
  cases mapped with
  | call cut idle admitted => simpa [World.admits] using admitted

/-- A later mapping makes a later promise. -/
theorem size_lt {earlier later : List Move} {source function : Nat} {sight : Sight}
    (idle : (initial.run earlier).control = .client sight)
    (admitted : (initial.run earlier).world.admits (.map source function) = true) :
    (initial.run earlier).world.promises.size <
      (initial.run (earlier ++ .call (.map source function) :: later)).world.promises.size := by
  have begun := act_call idle admitted
  have reached : ((initial.run earlier).begin (.map source function)).Reached :=
    begun ▸ Reached.run ⟨earlier, rfl⟩ [.call (.map source function)]
  have grown := (reached.rooted.run later).2.promises
  rw [run_append, run_cons, begun]
  exact Nat.lt_of_lt_of_le (size_map ▸ Nat.lt_succ_self _) grown

/-- A derived future was made by one mapping only. -/
theorem Mapped.unique {other : Mapping} (mapped : Mapped moves mapping)
    (again : Mapped moves other) (same : mapping.derived = other.derived) : mapping = other := by
  cases mapped with
  | @call earlier later source function sight cut idle admitted =>
  cases again with
  | @call earlier' later' source' function' sight' cut' idle' admitted' =>
      have same : (initial.run earlier).world.promises.size =
        (initial.run earlier').world.promises.size := same
      rcases List.append_eq_append_iff.mp (cut.symm.trans cut') with
        ⟨between, first, rest⟩ | ⟨between, first, rest⟩
      · cases between with
        | nil =>
            obtain ⟨call, -⟩ := List.cons.inj rest
            cases call
            rw [first, List.append_nil]
        | cons move between =>
            obtain ⟨rfl, -⟩ := List.cons.inj rest
            exact absurd (first ▸ same) (Nat.ne_of_lt (size_lt idle admitted))
      · cases between with
        | nil =>
            obtain ⟨call, -⟩ := List.cons.inj rest
            cases call
            rw [first, List.append_nil]
        | cons move between =>
            obtain ⟨rfl, -⟩ := List.cons.inj rest
            exact absurd (first ▸ same.symm) (Nat.ne_of_lt (size_lt idle' admitted'))

theorem Reaches.more (path : Reaches moves root functions future) (more : List Move) :
    Reaches (moves ++ more) root functions future := by
  induction path with
  | root => exact .root
  | map earlier last ih => exact .map ih (last.more more)

theorem Reaches.le (path : Reaches moves root functions future) : root ≤ future := by
  induction path with
  | root => exact Nat.le_refl _
  | map earlier last ih => exact Nat.le_of_lt (Nat.lt_of_le_of_lt ih last.lt)

/-- The last mapping of a way. -/
theorem Reaches.last {function : Nat} (path : Reaches moves root (functions ++ [function]) future) :
    ∃ source, Reaches moves root functions source ∧ Mapped moves ⟨source, function, future⟩ := by
  generalize same : functions ++ [function] = all at path
  cases path with
  | root => simp at same
  | @map others source other derived earlier last =>
      obtain ⟨rfl, alike⟩ := List.append_inj' same rfl
      obtain rfl := List.head_eq_of_cons_eq alike
      exact ⟨source, earlier, last⟩

theorem Reaches.ends (path : Reaches moves root functions future) (more : functions ≠ []) :
    ∃ source function, Mapped moves ⟨source, function, future⟩ := by
  cases path with
  | root => exact absurd rfl more
  | @map _ source function _ _ last => exact ⟨source, function, last⟩

theorem Reaches.lt (path : Reaches moves root functions future) (more : functions ≠ []) :
    root < future := by
  cases path with
  | root => exact absurd rfl more
  | map earlier last => exact Nat.lt_of_le_of_lt earlier.le last.lt

theorem Reaches.trans {middle : Nat} {later : List Nat} (path : Reaches moves root functions middle)
    (rest : Reaches moves middle later future) : Reaches moves root (functions ++ later) future := by
  induction rest with
  | root => simpa using path
  | map earlier last ih =>
      rw [← List.append_assoc]
      exact .map ih last

/-- Who may wait for a derived future. -/
def Origin (moves : List Move) (future : Nat) : CompletionHandler → Prop
  | .client _ _ | .logging _ => True
  | .mapping function derived => Mapped moves ⟨future, function, derived⟩
  | .passing _ | .aborting _ | .forwarding _ => False

theorem Origin.more {handler : CompletionHandler} (origin : Origin moves future handler)
    (more : List Move) : Origin (moves ++ more) future handler := by
  cases handler with
  | mapping function derived => exact Mapped.more origin more
  | _ => exact origin

/-- No body is completed through the future, one that is still to be made included. -/
def Detached (future : Nat) (machine : Machine) : Prop :=
  ∀ body, (machine.world.body body).promise ≠ future

theorem Apart.detached (apart : machine.Apart future) (positive : 0 < future) :
    machine.Detached future := by
  intro body
  by_cases made : body < machine.world.bodies.size
  · exact apart body made
  · have blank : machine.world.body body = default :=
      machine.world.bodies.get_of_size_le (Nat.le_of_not_lt made)
    rw [blank]
    exact Nat.ne_of_lt positive

section Registrations

variable {index : Nat} {handler : CompletionHandler}

theorem promises_resume (machine : Machine) (reply : Reply) (frame : Frame) :
    (machine.resume reply frame).world.promises = machine.world.promises := by
  cases frame <;> simp only [resume, letGo, leave] <;> repeat' split
  all_goals rfl

theorem promises_unwind (machine : Machine) (message : String) (frame : Frame) :
    (machine.unwind message frame).world.promises = machine.world.promises := by
  cases frame <;> simp only [unwind, collapse, leave] <;> repeat' split
  all_goals rfl

/-- A handler that waits for a promise was registered with it. -/
theorem waiting_perform {task : Task} {registration : Registration}
    (member : registration ∈ ((machine.perform task).world.promise index).waiting) :
    registration ∈ (machine.world.promise index).waiting ∨
      task = .register index registration.handler := by
  have kept {other : Machine} {turn : Option Dispatch}
      (same : other.cord index = (machine.cord index).look turn)
      (member : registration ∈ (other.world.promise index).waiting) :
      registration ∈ (machine.world.promise index).waiting := by
    have row : other.world.promise index = machine.world.promise index := congrArg Cord.promise same
    exact row ▸ member
  cases task with
  | settle promise outcome =>
      refine .inl ?_
      simp only [perform, settle] at member
      split at member
      · exact member
      · have member : registration ∈ ((machine.setPromise promise
          ((machine.world.promise promise).settle outcome)).world.promise index).waiting := member
        rw [promise_setPromise] at member
        split at member
        · simp [Promise.settle, Promise.waiting] at member
        · exact member
  | register promise handler =>
      simp only [perform, register] at member
      split at member
      · have member : registration ∈ ((machine.setPromise promise
          ((machine.world.promise promise).enqueue
            ⟨machine.world.registrations, handler⟩)).world.promise index).waiting := member
        rw [promise_setPromise] at member
        split at member
        case isTrue same =>
            subst same
            exact (Promise.mem_waiting_enqueue member).imp_right fun same => by rw [same]
        case isFalse => exact .inl member
      · exact .inl member
  | release promise =>
      refine .inl ?_
      have row : registration ∈ ((machine.setPromise promise
          (machine.world.promise promise).removeShare).world.promise index).waiting := by
        simp only [perform, release] at member
        split at member
        · exact member
        · exact member
      rw [promise_setPromise] at row
      split at row
      case isTrue same => exact same ▸ row
      case isFalse => exact row
  | dispatch promise outcome waiting => cases waiting <;> exact .inl member
  | tell handler outcome => exact .inl (kept (machine.cord_tell index _ _) member)
  | forget handlers => exact .inl (kept (machine.cord_forget index _) member)
  | deliver accumulator bytes => exact .inl (kept (machine.cord_deliver index _ _) member)
  | attach accumulator handler => exact .inl (kept (machine.cord_attach index _ _) member)
  | finish accumulator ending => exact .inl (kept (machine.cord_finish index _ _) member)
  | drain accumulator => exact .inl (kept (machine.cord_drain index _) member)
  | next accumulator handler => exact .inl (kept (machine.cord_next index _ _) member)
  | feed handler bytes => exact .inl (kept (machine.cord_feed index _ _) member)
  | feedEnd handler => exact .inl (kept (machine.cord_feedEnd index _) member)
  | discard handler => exact .inl (kept (machine.cord_discard index _) member)
  | abandon body => exact .inl (kept (machine.cord_abandon index _) member)

/-- A tick adds to the handlers that wait only the one that was to be registered. -/
theorem waiting_tick {registration : Registration}
    (member : registration ∈ (machine.tick.world.promise index).waiting) :
    registration ∈ (machine.world.promise index).waiting ∨
      machine.control = .task (.register index registration.handler) := by
  obtain ⟨world, stack, control, journal⟩ := machine
  cases control with
  | client sight => exact .inl member
  | stopped => exact .inl member
  | task task =>
      exact (waiting_perform member).imp_right fun same => by rw [same]
  | reply reply =>
      cases stack with
      | nil => exact .inl member
      | cons frame stack =>
          have same := promises_resume ⟨world, stack, .reply reply, journal⟩ reply frame
          refine .inl ?_
          simp only [tick, World.promise, same] at member
          exact member
  | panic message =>
      cases stack with
      | nil => exact .inl member
      | cons frame stack =>
          have same := promises_unwind ⟨world, stack, .panic message, journal⟩ message frame
          refine .inl ?_
          simp only [tick, World.promise, same] at member
          exact member

/-- The library registers handlers with completions of bodies only, and none that
map. -/
theorem registered_tick (asks : machine.tick.control = .task (.register index handler)) :
    (∃ body, index = (machine.world.body body).promise) ∧
      ∀ function derived, handler ≠ .mapping function derived := by
  obtain ⟨world, stack, control, journal⟩ := machine
  cases control with
  | client sight => cases asks
  | stopped => cases asks
  | task task => exact absurd asks (control_perform _ task index handler)
  | reply reply =>
      cases stack with
      | nil => cases asks
      | cons frame stack =>
          obtain ⟨body, unmapped⟩ := control_resume asks
          exact ⟨body, unmapped⟩
  | panic message =>
      cases stack with
      | nil => cases asks
      | cons frame stack => exact absurd asks (control_unwind rfl)

end Registrations

/-- The handlers of a derived future, and the one that is being registered with it. -/
structure Traces (moves : List Move) (future : Nat) (machine : Machine) : Prop where
  waiting : ∀ registration ∈ (machine.world.promise future).waiting,
    Origin moves future registration.handler
  registering : ∀ handler, machine.control = .task (.register future handler) →
    Origin moves future handler

theorem waiting_begin (call : Call) :
    ((machine.begin call).world.promise future).waiting =
      (machine.world.promise future).waiting := by
  have added {promise : Promise} (unheard : promise.waiting = []) :
      ((machine.world.addPromise promise).promise future).waiting =
        (machine.world.promise future).waiting := by
    by_cases own : future = machine.world.promises.size
    · have row : (machine.world.addPromise promise).promise future = promise :=
        (Store.get_add _ _ _).trans (if_pos own)
      have blank : machine.world.promise future = default :=
        machine.world.promises.get_of_size_le (Nat.le_of_eq own.symm)
      rw [row, blank, unheard]
      rfl
    · exact congrArg Promise.waiting ((Store.get_add _ _ _).trans (if_neg own))
  have written {index : Nat} {promise : Promise}
      (same : promise.waiting = (machine.world.promise index).waiting) :
      ((machine.setPromise index promise).world.promise future).waiting =
        (machine.world.promise future).waiting := by
    rw [promise_setPromise]
    split
    case isTrue own => rw [same, own]
    case isFalse => rfl
  cases call with
  | newPromise => exact @added .forClient rfl
  | newSettled outcome => exact @added (.done outcome) rfl
  | map source function => exact @added (.inside 1) rfl
  | newBody config => exact @added (.inside 1) rfl
  | text body charset => exact @added (.inside 2) rfl
  | dropSink promise => exact written rfl
  | newHandler handler =>
      cases handler with
      | collecting charset capacity promise =>
          exact @written promise (machine.world.promise promise).addShare rfl
      | _ => rfl
  | dropSender body =>
      simp only [begin, leave]
      split <;> rfl
  | _ => rfl

/-- Every call that registers a handler with a derived future is one of the client. -/
theorem origin_begin {call : Call} {sight : Sight} {handler : CompletionHandler}
    (idle : (initial.run moves).control = .client sight)
    (admitted : (initial.run moves).world.admits call = true)
    (made : future < (initial.run moves).world.promises.size)
    (working : ((initial.run moves).begin call).control = .task (.register future handler)) :
    Origin (moves ++ [.call call]) future handler := by
  cases call with
  | listen promise number hearing =>
      obtain ⟨-, rfl⟩ := Task.register.inj (Control.task.inj working)
      trivial
  | log promise name =>
      obtain ⟨-, rfl⟩ := Task.register.inj (Control.task.inj working)
      trivial
  | map source function =>
      obtain ⟨rfl, rfl⟩ := Task.register.inj (Control.task.inj working)
      exact .call rfl idle admitted
  | newBody config =>
      obtain ⟨rfl, -⟩ := Task.register.inj (Control.task.inj working)
      exact absurd made (Nat.lt_irrefl _)
  | newHandler handler => cases handler <;> cases working
  | dropSender body =>
      simp only [begin, leave] at working
      split at working <;> cases working
  | _ => cases working

theorem Traces.act (traces : Traces moves future (initial.run moves))
    (made : future < (initial.run moves).world.promises.size)
    (detached : (initial.run moves).Detached future) (move : Move) :
    Traces (moves ++ [move]) future ((initial.run moves).act move) := by
  have still : Traces (moves ++ [move]) future (initial.run moves) :=
    ⟨fun registration member => (traces.waiting registration member).more [move],
      fun handler working => (traces.registering handler working).more [move]⟩
  have acted := (initial.run moves).acted move
  generalize (initial.run moves).act move = after at acted
  -- Nothing is registered but by a call of the client.
  have away {control : Control} {stack : List Frame}
      (free : ∀ handler, control ≠ .task (.register future handler)) :
      Traces (moves ++ [move]) future { initial.run moves with control, stack } :=
    ⟨still.waiting, fun handler working => absurd working (free handler)⟩
  cases acted with
  | rest => exact still
  | tick =>
      refine ⟨fun registration member => ?_, fun handler working => ?_⟩
      · rcases waiting_tick member with earlier | working
        · exact still.waiting registration earlier
        · exact still.registering _ working
      · obtain ⟨⟨body, same⟩, -⟩ := registered_tick working
        exact absurd same.symm (detached body)
  | @call _ call idle admitted =>
      refine ⟨fun registration member => ?_, fun handler working => ?_⟩
      · rw [waiting_begin call] at member
        exact still.waiting registration member
      · exact origin_begin idle admitted made working
  | describe description idle =>
      exact ⟨still.waiting, fun handler working => by cases idle.symm.trans working⟩
  | answer idle top accepted => exact away fun handler => by simp
  | panic idle top => exact away fun handler => by simp

/-- A law of a machine and its past holds for good if every move keeps it. -/
theorem past_induction {law : List Move → Machine → Prop}
    (kept : ∀ moves move, law moves (initial.run moves) →
      law (moves ++ [move]) ((initial.run moves).act move))
    (first : law moves (initial.run moves)) (later : List Move) :
    law (moves ++ later) (initial.run (moves ++ later)) := by
  induction later generalizing moves with
  | nil =>
      rw [List.append_nil]
      exact first
  | cons move later ih =>
      have next := kept moves move first
      have same : initial.run (moves ++ [move]) = (initial.run moves).act move := run_append ..
      rw [← same] at next
      have all := ih next
      rwa [List.append_assoc, List.singleton_append] at all

/-- From its making on, a derived future is traced. -/
theorem Traces.run (traces : Traces moves future (initial.run moves))
    (made : future < (initial.run moves).world.promises.size)
    (apart : (initial.run moves).Apart future) (positive : 0 < future) (later : List Move) :
    Traces (moves ++ later) future (initial.run (moves ++ later)) := by
  let law (moves : List Move) (machine : Machine) : Prop :=
    Traces moves future machine ∧ future < machine.world.promises.size ∧ machine.Apart future
  have kept (moves : List Move) (move : Move) (holds : law moves (initial.run moves)) :
      law (moves ++ [move]) ((initial.run moves).act move) := by
    obtain ⟨traces, made, apart⟩ := holds
    have reached : (initial.run moves).Reached := ⟨moves, rfl⟩
    exact ⟨traces.act made (apart.detached positive) move,
      Nat.lt_of_lt_of_le made (reached.rooted.grown move).promises, apart.act made reached move⟩
  exact (past_induction kept ⟨traces, made, apart⟩ later).1

theorem Mapped.traces (mapped : Mapped moves mapping) :
    Traces moves mapping.derived (initial.run moves) := by
  cases mapped with
  | @call earlier later source function sight cut idle admitted =>
      have reached : (initial.run earlier).Reached := ⟨earlier, rfl⟩
      have begun : initial.run (earlier ++ [.call (.map source function)]) =
          (initial.run earlier).begin (.map source function) :=
        (run_append ..).trans (act_call idle admitted)
      have source_lt : source < (initial.run earlier).world.promises.size := by
        simpa [World.admits] using admitted
      have row : ((initial.run earlier).begin (.map source function)).world.promise
          (initial.run earlier).world.promises.size = .inside 1 :=
        (Store.get_add _ _ _).trans (if_pos rfl)
      have traces : Traces (earlier ++ [.call (.map source function)])
          (initial.run earlier).world.promises.size
            (initial.run (earlier ++ [.call (.map source function)])) := by
        rw [begun]
        refine ⟨fun registration member => ?_, fun handler working => ?_⟩
        · rw [row] at member
          cases member
        · obtain ⟨same, -⟩ := Task.register.inj (Control.task.inj working)
          exact absurd same (Nat.ne_of_lt source_lt)
      have apart : ((initial.run earlier).begin (.map source function)).Apart
          (initial.run earlier).world.promises.size :=
        fun body known => Nat.ne_of_lt (reached.within_made.world.bodies body ⟨trivial, known⟩).2
      have whole := traces.run (begun ▸ size_map ▸ Nat.lt_succ_self _) (begun ▸ apart)
        (Nat.lt_of_le_of_lt (Nat.zero_le _) source_lt) later
      rw [List.append_assoc, List.singleton_append, ← cut] at whole
      exact whole

end Machine

end Handoff
