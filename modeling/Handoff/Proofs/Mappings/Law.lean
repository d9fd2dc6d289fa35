import Handoff.Proofs.Channels.Delivery
import Handoff.Proofs.Mappings.Cancelling

namespace Handoff

/-! The law of mappings.

A future that is derived with functions has the outcome of its root, with the functions
applied to a value one after the other.  The law holds along the way from the root to
the future: each mapping keeps it for one step, whenever it was made.  It needs that no
future on the way is cancelled by the client, and that every mapping of an outcome that
is dispatched is told: a panic of another handler drops those after it, and with them
the sinks of the futures that they derive. -/

/-- Functions one after the other, the first one first. -/
def composed (apply : Nat → String → String) (functions : List Nat) (value : String) : String :=
  functions.foldl (fun value function => apply function value) value

namespace Outcome

variable {apply : Nat → String → String}

theorem through_nil : through (composed apply []) = id := by
  funext outcome
  cases outcome <;> rfl

theorem through_comp (functions : List Nat) (function : Nat) :
    through (apply function) ∘ through (composed apply functions) =
      through (composed apply (functions ++ [function])) := by
  funext outcome
  cases outcome with
  | resolved value => simp [through, composed]
  | _ => rfl

theorem value?_through (function : String → String) (outcome : Outcome) :
    (outcome.through function).value? = outcome.value?.map function := by
  cases outcome <;> rfl

end Outcome

namespace Machine

variable {moves : List Move} {root source derived future : Nat} {functions : List Nat}
  {apply : Nat → String → String} {exempt : Option Nat}

theorem obeys_at {allow : Machine → Move → Bool} {machine : Machine} {earlier later : List Move}
    {move : Move} (obeyed : obeys allow machine (earlier ++ move :: later) = true) :
    allow (machine.run earlier) move = true := by
  induction earlier generalizing machine with
  | nil => exact (Bool.and_eq_true_iff.mp obeyed).1
  | cons first earlier ih => exact ih (Bool.and_eq_true_iff.mp obeyed).2

/-- The functions of a tree return the values that they are to compute, and no panic drops
a mapping that waits to be told of the outcome of one of its futures. -/
structure Undisturbed (moves : List Move) (root : Nat) (apply : Nat → String → String) : Prop where
  computed : ∀ functions function future, Reaches moves root (functions ++ [function]) future →
    obeys (computes function (apply function)) initial moves = true
  whole : ∀ functions future, Reaches moves root functions future →
    obeys (undivided future) initial moves = true

theorem Shelters.undivided {machine : Machine} (shelters : machine.Shelters) (promise : Nat)
    (move : Move) : machine.undivided promise move = true := by
  simp only [Machine.undivided]
  split
  case h_1 message other outcome waiting below panicking stack =>
      have amid : amidDispatch machine.stack = true := by rw [stack]; rfl
      have quiet := shelters.control amid
      rw [panicking] at quiet
      exact quiet.elim
  case h_2 => rfl

/-- A run in which neither completion handlers nor mapping functions panic drops no
mapping. -/
theorem obeys_undivided {machine : Machine} (reached : machine.Reached)
    (shelters : machine.Shelters) (tamed : obeys tame machine moves = true) (promise : Nat) :
    obeys (undivided promise) machine moves = true := by
  induction moves generalizing machine with
  | nil => rfl
  | cons move moves ih =>
      obtain ⟨tame, rest⟩ := Bool.and_eq_true_iff.mp tamed
      exact Bool.and_eq_true_iff.mpr ⟨shelters.undivided promise move,
        ih (reached.run [move]) (shelters.act reached.handled tame) rest⟩

theorem Undisturbed.of_tame (tamed : obeys tame initial moves = true)
    (computed : ∀ source function, .call (.map source function) ∈ moves →
      obeys (computes function (apply function)) initial moves = true) :
    Undisturbed moves root apply where
  computed functions function future path := by
    obtain ⟨source, -, last⟩ := path.last
    exact computed source function last.mem
  whole functions future path := obeys_undivided ⟨[], rfl⟩ shelters_initial tamed future

/-- The client cancels no derived future of the tree, the exempt one apart. -/
def Uncancelled (moves : List Move) (root : Nat) (exempt : Option Nat) : Prop :=
  ∀ functions future, Reaches moves root functions future → functions ≠ [] →
    exempt ≠ some future → ∀ force, .call (.cancel future force) ∉ moves

/-- The future was not derived from the exempt one. -/
def Outside (moves : List Move) (exempt : Option Nat) (future : Nat) : Prop :=
  ∀ other, exempt = some other → ∀ functions, ¬ Reaches moves other functions future

/-- A mapping that nobody disturbs keeps its law. -/
theorem Mapped.keeps {mapping : Mapping} {apply : String → String} (mapped : Mapped moves mapping)
    (computed : obeys (computes mapping.function apply) initial moves = true)
    (whole : obeys (undivided mapping.source) initial moves = true)
    (uncancelled : ∀ force, .call (.cancel mapping.derived force) ∉ moves) :
    mapping.Keeps apply (moves.countP (Move.gives mapping.function) = 1) (initial.run moves) := by
  cases mapped with
  | @call earlier later source function sight cut idle admitted =>
      have reached : (initial.run earlier).Reached := ⟨earlier, rfl⟩
      have own : (Move.call (.map source function)).gives function = true := beq_self_eq_true function
      have counted : moves.countP (Move.gives function) =
          earlier.countP (Move.gives function) + (later.countP (Move.gives function) + 1) := by
        rw [cut, List.countP_append, List.countP_cons_of_pos own]
      have few (once : moves.countP (Move.gives function) = 1) :
          (initial.run earlier).dues function = 0 := by
        have dues := dues_run initial function earlier
        have none : initial.dues function = 0 := rfl
        omega
      have began := act_call idle admitted
      have first : Mapping.Keeps _ apply (moves.countP (Move.gives function) = 1)
          ((initial.run earlier).begin (.map source function)) :=
        Mapping.keeps_map reached admitted few
      rw [← began] at first
      have run : initial.run moves =
          ((initial.run earlier).act (.call (.map source function))).run later := by
        rw [cut, run_append, run_cons]
      rw [run]
      refine first.run (reached.run [_]) fun before move after same => ?_
      have cut : moves = (earlier ++ .call (.map source function) :: before) ++ move :: after := by
        rw [cut, same, List.append_assoc, List.cons_append]
      have at_run : ((initial.run earlier).act (.call (.map source function))).run before =
          initial.run (earlier ++ .call (.map source function) :: before) := by
        rw [run_append, run_cons]
      rw [at_run]
      refine ⟨fun force asked => uncancelled force ?_, ?_, ?_, fun once => ?_⟩
      · rw [cut, ← asked]
        exact List.mem_append_right _ (List.mem_cons_self ..)
      · exact obeys_at (cut ▸ whole)
      · exact obeys_at (cut ▸ computed)
      · have rest : later.countP (Move.gives function) = 0 := by omega
        have member : move ∈ later := same ▸ List.mem_append_right _ (List.mem_cons_self ..)
        simpa using List.countP_eq_zero.mp rest move member

theorem Outside.earlier (outside : Outside moves exempt derived) {function : Nat}
    (last : Mapped moves ⟨source, function, derived⟩) : Outside moves exempt source :=
  fun other same functions path => outside other same (functions ++ [function]) (.map path last)

theorem Outside.ne (outside : Outside moves exempt future) : exempt ≠ some future :=
  fun same => outside future same [] .root

section Tree

variable (undisturbed : Undisturbed moves root apply) (uncancelled : Uncancelled moves root exempt)

include undisturbed uncancelled

theorem keeps_last {function : Nat} (earlier : Reaches moves root functions source)
    (last : Mapped moves ⟨source, function, derived⟩) (outside : Outside moves exempt derived) :
    (⟨source, function, derived⟩ : Mapping).Keeps (apply function)
      (moves.countP (Move.gives function) = 1) (initial.run moves) := by
  have path : Reaches moves root (functions ++ [function]) derived := .map earlier last
  exact last.keeps (undisturbed.computed _ _ _ path) (undisturbed.whole _ _ earlier)
    (uncancelled _ _ path (by simp) outside.ne)

/-- When no outcome is on its way, a derived future has the outcome of its root. -/
theorem outcome?_delivered (delivered : (initial.run moves).Delivered)
    (path : Reaches moves root functions future) (outside : Outside moves exempt future) :
    ((initial.run moves).world.promise future).outcome? =
      ((initial.run moves).world.promise root).outcome?.map
        (Outcome.through (composed apply functions)) := by
  induction path with
  | root => rw [Outcome.through_nil, Option.map_id, id]
  | @map functions source function derived earlier last ih =>
      have keeps := keeps_last undisturbed uncancelled earlier last outside
      rw [(keeps.delivered delivered).1, ih (outside.earlier last), Option.map_map,
        Outcome.through_comp]

/-- A function that was given away once was called if there was a value for it. -/
theorem arguments_delivered {function : Nat} (delivered : (initial.run moves).Delivered)
    (path : Reaches moves root (functions ++ [function]) future)
    (outside : Outside moves exempt future) (once : moves.countP (Move.gives function) = 1) :
    (initial.run moves).arguments function =
      (((initial.run moves).world.promise root).outcome?.bind Outcome.value?).toList.map
        (composed apply functions) := by
  obtain ⟨source, earlier, last⟩ := path.last
  have keeps := keeps_last undisturbed uncancelled earlier last outside
  have follows := outcome?_delivered undisturbed uncancelled delivered earlier
    (outside.earlier last)
  rw [(keeps.delivered delivered).2 once, follows]
  cases ((initial.run moves).world.promise root).outcome? with
  | none => rfl
  | some outcome =>
      rw [Option.map_some, Option.bind_some, Option.bind_some, Outcome.value?_through]
      exact Option.toList_map

end Tree

/-- The client cancels a future that is pending. -/
structure Cancels (earlier : List Move) (future : Nat) (force : Bool) : Prop where
  idle : ∃ sight, (initial.run earlier).control = .client sight
  admitted : (initial.run earlier).world.admits (.cancel future force) = true
  pending : ((initial.run earlier).world.promise future).outcome? = none

/-- A settlement that was begun is made before control goes elsewhere. -/
theorem outcome?_settling {machine : Machine} {outcome : Outcome} (reached : machine.Reached)
    (working : machine.control = .task (.settle future outcome))
    (pending : (machine.world.promise future).outcome? = none) {later : List Move}
    (left : ∀ task, (machine.run later).control ≠ .task task) :
    ((machine.run later).world.promise future).outcome? = some outcome := by
  obtain ⟨more, same⟩ := run_of_task working (left _)
  obtain ⟨waiting, state⟩ := Promise.outcome?_eq_none.mp pending
  have settled := (tick_settle_pending working state).2.2.1
  rw [same]
  exact outcome?_run ((reached.run [.tick]).lawful future) (Promise.outcome?_eq_some.mpr settled)
    more

theorem Cancels.outcome? {earlier later : List Move} {force : Bool}
    (cancels : Cancels earlier future force)
    (idle : ∃ sight, (initial.run (earlier ++ .call (.cancel future force) :: later)).control =
      .client sight) :
    ((initial.run (earlier ++ .call (.cancel future force) :: later)).world.promise
      future).outcome? = some (.cancelled force) := by
  obtain ⟨sight, quiet⟩ := cancels.idle
  have began := act_call quiet cancels.admitted
  have reached : ((initial.run earlier).act (.call (.cancel future force))).Reached :=
    ⟨earlier ++ [.call (.cancel future force)], run_append ..⟩
  rw [run_append, run_cons] at idle ⊢
  rw [began] at reached idle ⊢
  obtain ⟨sight, idle⟩ := idle
  exact outcome?_settling reached rfl cancels.pending fun task same => by cases idle.symm.trans same

/-- What was derived from a derived future is not disturbed either, and not cancelled if
only that future is. -/
theorem Undisturbed.onward (undisturbed : Undisturbed moves root apply)
    (path : Reaches moves root functions derived) : Undisturbed moves derived apply where
  computed later function future rest := by
    refine undisturbed.computed (functions ++ later) function future ?_
    rw [List.append_assoc]
    exact path.trans rest
  whole later future rest := undisturbed.whole _ _ (path.trans rest)

theorem Uncancelled.onward (uncancelled : Uncancelled moves root (some derived))
    (path : Reaches moves root functions derived) : Uncancelled moves derived none :=
  fun later future rest more _ => uncancelled (functions ++ later) future (path.trans rest)
    (by simp [more]) fun same => Nat.ne_of_lt (rest.lt more) (Option.some.inj same)

/-- The law of mappings.  When no outcome is on its way, and the client cancelled no
derived future, each one has the outcome of the root with its functions applied to the
value, and each function that was given to one mapping was called once if there was a
value, and never otherwise.  If the client cancelled one of them while it was pending,
that one and those derived from it have this cancellation, and all others have the
outcomes of the law; the cancellation itself left them as they were, unless those who
were told of it made calls of their own. -/
theorem mapping_law (undisturbed : Undisturbed moves root apply)
    (delivered : (initial.run moves).Delivered) :
    (Uncancelled moves root none →
      (∀ functions future, Reaches moves root functions future →
        ((initial.run moves).world.promise future).outcome? =
          ((initial.run moves).world.promise root).outcome?.map
            (Outcome.through (composed apply functions))) ∧
      (∀ functions function future, Reaches moves root (functions ++ [function]) future →
        moves.countP (Move.gives function) = 1 →
          (initial.run moves).arguments function =
            (((initial.run moves).world.promise root).outcome?.bind Outcome.value?).toList.map
              (composed apply functions)) ∧
      (∀ functions first second both left right,
        Reaches moves root (functions ++ [first, second]) left →
          Reaches moves root (functions ++ [both]) right →
            (∀ value, apply both value = apply second (apply first value)) →
              ((initial.run moves).world.promise left).outcome? =
                ((initial.run moves).world.promise right).outcome?)) ∧
    (∀ earlier later derived force,
      moves = earlier ++ .call (.cancel derived force) :: later →
        Cancels earlier derived force →
          (∃ functions, functions ≠ [] ∧ Reaches earlier root functions derived) →
            Uncancelled moves root (some derived) →
              (∀ functions future, Reaches moves derived functions future →
                ((initial.run moves).world.promise future).outcome? = some (.cancelled force)) ∧
              (∀ functions future, Reaches moves root functions future →
                Outside moves (some derived) future →
                  ((initial.run moves).world.promise future).outcome? =
                    ((initial.run moves).world.promise root).outcome?.map
                      (Outcome.through (composed apply functions))) ∧
              (∀ after, Called (fun _ move => ∀ call, move ≠ .call call) (.cancel derived force)
                (initial.run earlier) after →
                  ∀ future, Outside earlier (some derived) future →
                    after.world.promise future = (initial.run earlier).world.promise future)) := by
  refine ⟨fun uncancelled => ?_, fun earlier later derived force cut cancels derives uncancelled => ?_⟩
  · have anywhere (future : Nat) : Outside moves none future := fun _ none => by cases none
    have follows (functions : List Nat) (future : Nat) (path : Reaches moves root functions future) :=
      outcome?_delivered undisturbed uncancelled delivered path (anywhere future)
    refine ⟨follows, fun functions function future path => ?_, ?_⟩
    · exact arguments_delivered undisturbed uncancelled delivered path (anywhere future)
    · intro functions first second both left right twice once same
      have equal : composed apply (functions ++ [first, second]) =
          composed apply (functions ++ [both]) := by
        funext value
        simp [composed, same]
      rw [follows _ _ twice, follows _ _ once, equal]
  · obtain ⟨functions, more, path⟩ := derives
    have path_run : Reaches moves root functions derived := cut ▸ path.more _
    refine ⟨fun others future rest => ?_, fun others future rest outside => ?_, ?_⟩
    · have cancelled := cancels.outcome? (cut ▸ delivered.idle)
      rw [outcome?_delivered (undisturbed.onward path_run) (uncancelled.onward path_run) delivered
        rest fun _ none => by cases none]
      rw [cut, cancelled]
      rfl
    · exact outcome?_delivered undisturbed uncancelled delivered rest outside
    · intro after called future outside
      obtain ⟨source, function, mapped⟩ := path.ends more
      exact promise_cancelled mapped called (outside derived rfl)

/-! A future is mapped twice over and once directly, and settled with all three
derived futures in place. -/

def marks : Nat → String → String
  | 1, value => value ++ "!"
  | 2, value => value ++ "?"
  | _, value => value ++ "!?"

def derivations : List Move :=
  [.call .newPromise, .tick, .call (.map 0 1)] ++ .replicate 3 .tick ++
    .call (.map 1 2) :: .replicate 3 .tick ++ .call (.map 0 3) :: .replicate 3 .tick

def markings : List Move :=
  derivations ++ .call (.settle 0 (.resolved "a")) :: .replicate 3 .tick ++
    .answer (.value "a!") :: .replicate 4 .tick ++ .answer (.value "a!?") :: .replicate 14 .tick ++
      .answer (.value "a!?") :: .replicate 9 .tick

/-- The first of them is cancelled before, and its own derived future is mapped once more
at the end. -/
def revocations : List Move :=
  derivations ++ .call (.cancel 1 true) :: .replicate 11 .tick ++
    .call (.settle 0 (.resolved "a")) :: .replicate 3 .tick ++
      .answer (.value "a!") :: .replicate 8 .tick ++ .answer (.value "a!?") :: .replicate 9 .tick ++
        .call (.map 2 4) :: .replicate 9 .tick

theorem mapped_derivations (later : List Move) :
    Mapped (derivations ++ later) ⟨0, 1, 1⟩ ∧ Mapped (derivations ++ later) ⟨1, 2, 2⟩ ∧
      Mapped (derivations ++ later) ⟨0, 3, 3⟩ := by
  refine ⟨.more ?_ later, .more ?_ later, .more ?_ later⟩
  · exact @Mapped.call derivations (derivations.take 2) (derivations.drop 3) 0 1
      (.replied (.made 0)) rfl rfl rfl
  · exact @Mapped.call derivations (derivations.take 6) (derivations.drop 7) 1 2
      (.replied (.made 1)) rfl rfl rfl
  · exact @Mapped.call derivations (derivations.take 10) (derivations.drop 11) 0 3
      (.replied (.made 2)) rfl rfl rfl

theorem undisturbed_markings : Undisturbed markings 0 marks := by
  refine .of_tame (by decide) fun source function member => ?_
  have given : function = 1 ∨ function = 2 ∨ function = 3 := by
    simp [markings, derivations] at member
    omega
  rcases given with rfl | rfl | rfl <;> decide

theorem undisturbed_revocations : Undisturbed revocations 0 marks := by
  refine .of_tame (by decide) fun source function member => ?_
  have given : function = 1 ∨ function = 2 ∨ function = 3 ∨ function = 4 := by
    simp [revocations, derivations] at member
    omega
  rcases given with rfl | rfl | rfl | rfl <;> decide

theorem uncancelled_markings : Uncancelled markings 0 none := by
  intro functions future path more exempt force member
  simp [markings, derivations] at member

theorem uncancelled_revocations : Uncancelled revocations 0 (some 1) := by
  intro functions future path more exempt force member
  simp [revocations, derivations] at member
  exact exempt (congrArg some member.1.symm)

/-- The second derived future of the root is not derived from the first. -/
theorem outside_derivations (later : List Move) : Outside (derivations ++ later) (some 1) 3 := by
  intro other same functions path
  obtain rfl := Option.some.inj same
  obtain ⟨-, -, direct⟩ := mapped_derivations later
  cases path with
  | map earlier last =>
      cases last.unique direct rfl
      exact absurd earlier.le (by decide)

/-- All goes on as the law says: the two ways to the same function have equal outcomes,
and a cancellation of the first future stays with what was derived from it. -/
theorem mapping_law_marked :
    ((initial.run markings).world.promise 2).outcome? = some (.resolved "a!?") ∧
      (initial.run markings).arguments 2 = ["a!"] ∧
      ((initial.run markings).world.promise 2).outcome? =
        ((initial.run markings).world.promise 3).outcome? ∧
      ((initial.run revocations).world.promise 2).outcome? = some (.cancelled true) ∧
      ((initial.run revocations).world.promise 3).outcome? = some (.resolved "a!?") ∧
      (((initial.run derivations).begin (.cancel 1 true)).run (.replicate 10 .tick)).world.promise 3 =
        (initial.run derivations).world.promise 3 := by
  obtain ⟨first, second, direct⟩ := mapped_derivations (markings.drop 14)
  obtain ⟨first', second', direct'⟩ := mapped_derivations (revocations.drop 14)
  have kept := (mapping_law undisturbed_markings (.quiet rfl rfl)).1 uncancelled_markings
  have outcome := kept.1 [1, 2] 2 (.map (.map .root first) second)
  have asked := kept.2.1 [1] 2 2 (.map (.map .root first) second) (by decide)
  have equal := kept.2.2 [] 1 2 3 2 3 (.map (.map .root first) second) (.map .root direct)
    fun value => by simp [marks, String.append_assoc]
  have cancelled := (mapping_law undisturbed_revocations (.quiet rfl rfl)).2 derivations
    (revocations.drop 15) 1 true rfl ⟨⟨_, rfl⟩, rfl, rfl⟩
    ⟨[1], by simp, .map .root (mapped_derivations []).1⟩ uncancelled_revocations
  have called : Called (fun _ move => ∀ call, move ≠ .call call) (.cancel 1 true)
      (initial.run derivations) _ :=
    called_ticks 10 rfl rfl (fun _ => by simp) (by decide) ⟨rfl, rfl⟩
  exact ⟨outcome, asked, equal, cancelled.1 [2] 2 (.map .root second'),
    cancelled.2.1 [3] 3 (.map .root direct') (outside_derivations _),
    cancelled.2.2 _ called 3 (outside_derivations [])⟩

/-- A listener of the root was there before the root was mapped, and panics when it is
told of the value. -/
def interrupted : List Move :=
  [.call .newPromise, .tick, .call (.listen 0 7 .all), .tick, .tick] ++
    .call (.map 0 1) :: .replicate 3 .tick ++ .call (.settle 0 (.resolved "a")) ::
      .replicate 3 .tick ++ .panic "broken" :: .replicate 11 .tick

/-- A derived future has a listener. -/
def overheard : List Move :=
  [.call .newPromise, .tick, .call (.map 0 1)] ++ .replicate 3 .tick ++
    [.call (.listen 1 7 .all), .tick, .tick]

/-- The derived future is cancelled, and its listener settles the root. -/
def meddled : List Move :=
  overheard ++ .call (.cancel 1 true) :: .replicate 3 .tick ++
    .call (.settle 0 (.resolved "b")) :: .replicate 3 .tick

/-- Two provisos of the law are needed.  A panic that cuts the dispatch short leaves the
derived future cancelled, though its function never panicked and nobody cancelled it; and
a listener that is told of a cancellation may go on to settle the root. -/
theorem mapping_interrupted :
    (Reaches interrupted 0 [1] 1 ∧ obeys (computes 1 (marks 1)) initial interrupted = true ∧
      Uncancelled interrupted 0 none ∧ (initial.run interrupted).Delivered ∧
        ((initial.run interrupted).world.promise 0).outcome? = some (.resolved "a") ∧
          ((initial.run interrupted).world.promise 1).outcome? = some (.cancelled false) ∧
            (initial.run interrupted).arguments 1 = []) ∧
      Reaches overheard 0 [1] 1 ∧ Cancels overheard 1 true ∧
        ((initial.run overheard).world.promise 0).outcome? = none ∧
          ((initial.run meddled).world.promise 0).outcome? = some (.resolved "b") := by
  have mapped : Mapped interrupted ⟨0, 1, 1⟩ :=
    @Mapped.call interrupted (interrupted.take 5) (interrupted.drop 6) 0 1 (.replied .done) rfl rfl
      rfl
  have heard : Mapped overheard ⟨0, 1, 1⟩ :=
    @Mapped.call overheard (overheard.take 2) (overheard.drop 3) 0 1 (.replied (.made 0)) rfl rfl
      rfl
  refine ⟨⟨.map .root mapped, by decide, ?_, .quiet rfl rfl, rfl, rfl, rfl⟩, .map .root heard,
    ⟨⟨_, rfl⟩, rfl, rfl⟩, rfl, rfl⟩
  intro functions future path more exempt force member
  simp [interrupted] at member

end Machine

end Handoff
