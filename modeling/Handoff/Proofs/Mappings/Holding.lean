import Handoff.Proofs.Channels.Reading
import Handoff.Proofs.Mappings.Attempts
import Handoff.Proofs.Mappings.Dues

namespace Handoff

/-! A mapping whose derived future is pending.

The sink of the derived future has one holder, the handler that maps.  As long as the
handler rests, with its source or in a frame on the stack, nobody else settles the
derived future or lets go of its sink: the client can only cancel it. -/

/-- A future that is derived from another with a function. -/
structure Mapping where
  source : Nat
  function : Nat
  derived : Nat

def Mapping.handler (mapping : Mapping) : CompletionHandler :=
  .mapping mapping.function mapping.derived

def CompletionHandler.maps : CompletionHandler → Bool
  | .mapping _ _ => true
  | _ => false

def Mapping.link (mapping : Mapping) : Link :=
  ⟨mapping.derived, mapping.source, none, none⟩

namespace Count

theorem le_total {α : Type} (weight : α → Nat) {items : List α} {item : α} (member : item ∈ items) :
    weight item ≤ total (items.map weight) := by
  induction items with
  | nil => cases member
  | cons first items ih =>
      rw [List.map_cons, total_cons]
      rcases List.mem_cons.mp member with rfl | later
      · exact Nat.le_add_right _ _
      · exact Nat.le_trans (ih later) (Nat.le_add_left _ _)

theorem total_zero {α : Type} (weight : α → Nat) {items : List α}
    (light : ∀ item ∈ items, weight item = 0) : total (items.map weight) = 0 := by
  induction items with
  | nil => rfl
  | cons first items ih =>
      rw [List.map_cons, total_cons, light first (List.mem_cons_self ..), Nat.zero_add]
      exact ih fun item member => light item (List.mem_cons_of_mem _ member)

end Count

theorem Store.le_weigh {α : Type} [Inhabited α] (weight : α → Nat) (store : Store α) (index : Nat)
    (light : weight default = 0) : weight (store.get index) ≤ store.weigh weight := by
  have weighs := store.weigh_set weight index default light
  omega

namespace Machine

variable {machine : Machine} {frame : Frame} {below : List Frame} {move : Move}

/-- The stakes that rest: on the stack, and with the handlers that wait for promises. -/
def lodged (machine : Machine) (sink : Nat) : Nat :=
  Count.total (machine.stack.map (Frame.stakes sink)) +
    machine.world.promises.weigh (Promise.stakes sink)

/-- No panic takes a dispatch of the promise off the stack before all mappings were told. -/
def undivided (promise : Nat) (machine : Machine) (_ : Move) : Bool :=
  match machine.control, machine.stack with
  | .panic _, .dispatching other _ waiting :: _ =>
      other != promise || !waiting.any fun registration => registration.handler.maps
  | _, _ => true

/-- A mapping function returns, with the value that it is to compute. -/
def computes (function : Nat) (apply : String → String) (machine : Machine) (move : Move) : Bool :=
  match machine.control, machine.stack, move with
  | .client _, .client (.mapping other value) :: _, .answer (.value answer) =>
      other != function || answer == apply value
  | .client _, .client (.mapping other _) :: _, .panic _ => other != function
  | _, _, _ => true

/-- A frame that is on top is taken off the stack. -/
inductive Takes (machine : Machine) (frame : Frame) (below : List Frame) (move : Move) : Prop where
  | resume (reply : Reply) (replied : machine.control = .reply reply)
      (taken : machine.act move = { machine with stack := below }.resume reply frame)
  | unwind (message : String) (panicking : machine.control = .panic message)
      (taken : machine.act move = { machine with stack := below }.unwind message frame)
  | answer (sight : Sight) (invocation : Invocation) (reply : Reply)
      (idle : machine.control = .client sight) (called : frame = .client invocation)
      (answered : move = .answer reply) (accepted : invocation.accepts reply = true)
      (taken : machine.act move = { machine with stack := below, control := .reply reply })
  | panic (sight : Sight) (invocation : Invocation) (message : String)
      (idle : machine.control = .client sight) (called : frame = .client invocation)
      (panicked : move = .panic message)

/-- A frame stays on the stack until it is on top and taken off. -/
theorem part_act (part : frame :: below <:+ machine.stack) (move : Move) :
    frame :: below <:+ (machine.act move).stack ∨
      machine.stack = frame :: below ∧ Takes machine frame below move := by
  have acted := machine.acted move
  generalize same : machine.act move = after at acted
  -- The frame is the one that is taken, or it is deeper.
  have leaves {top : Frame} {rest : List Frame} (whole : machine.stack = top :: rest) :
      top = frame ∧ rest = below ∨ frame :: below <:+ rest := by
    rw [whole] at part
    rcases List.suffix_cons_iff.mp part with own | deeper
    · obtain ⟨rfl, rfl⟩ := List.cons.inj own
      exact .inl ⟨rfl, rfl⟩
    · exact .inr deeper
  cases acted with
  | rest => exact .inl part
  | call idle admitted => exact .inl (part.trans (rises_begin machine _).1)
  | describe description idle => exact .inl part
  | @answer sight invocation reply _ idle top accepted =>
      rcases leaves top with ⟨rfl, rfl⟩ | deeper
      · exact .inr ⟨top, .answer sight invocation reply idle rfl rfl accepted same⟩
      · exact .inl deeper
  | @panic sight invocation message _ idle top =>
      rcases leaves top with ⟨rfl, rfl⟩ | deeper
      · exact .inr ⟨top, .panic sight invocation message idle rfl rfl⟩
      · exact .inl deeper
  | tick _ working =>
      obtain ⟨world, stack, control, journal⟩ := machine
      cases control with
      | client sight => exact absurd rfl (working sight)
      | stopped => exact .inl part
      | task task => exact .inl (part.trans (rises_perform _ task).1)
      | reply reply =>
          cases stack with
          | nil => exact .inl part
          | cons top rest =>
              rcases leaves rfl with ⟨rfl, rfl⟩ | deeper
              · exact .inr ⟨rfl, .resume reply rfl same⟩
              · exact .inl (deeper.trans
                  (rises_resume ⟨world, rest, .reply reply, journal⟩ reply top rfl).1)
      | panic message =>
          cases stack with
          | nil => exact .inl part
          | cons top rest =>
              rcases leaves rfl with ⟨rfl, rfl⟩ | deeper
              · exact .inr ⟨rfl, .unwind message rfl same⟩
              · exact .inl (deeper.trans
                  (rises_unwind ⟨world, rest, .panic message, journal⟩ message top rfl).1)

/-- A handler waits until the outcome that settles its promise is dispatched. -/
theorem waiting_act {registration : Registration} {index : Nat}
    (made : index < machine.world.promises.size)
    (member : registration ∈ (machine.world.promise index).waiting) (move : Move) :
    registration ∈ ((machine.act move).world.promise index).waiting ∨
      ∃ outcome waiting, (machine.act move).control = .task (.dispatch index outcome waiting) ∧
        registration ∈ waiting ∧
          ((machine.act move).world.promise index).outcome? = some outcome := by
  have step := Cord.step_of_moved (machine.moved_act move) index
  generalize same : (machine.act move).cord index = cord at step
  have row : (machine.act move).world.promise index = cord.promise := congrArg Cord.promise same
  cases step with
  | make promise fresh => exact absurd made fresh
  | share promise state =>
      refine .inl ?_
      rw [row, Promise.waiting]
      exact state ▸ member
  | wait handler waiting idle pending =>
      refine .inl ?_
      have pending : (machine.world.promise index).state = .pending waiting := pending
      rw [row]
      simp only [Promise.waiting, pending] at member
      simp [Cord.become, Promise.enqueue, pending, Promise.waiting, member]
  | settle outcome waiting idle pending =>
      have pending : (machine.world.promise index).state = .pending waiting := pending
      have turn : (machine.act move).control.dispatch? index = some (outcome, waiting) :=
        congrArg Cord.turn same
      refine .inr ⟨outcome, waiting, ?_, ?_, ?_⟩
      · cases control : (machine.act move).control with
        | task task =>
            cases task <;> simp [control] at turn
            obtain ⟨rfl, rfl, rfl⟩ := turn
            rfl
        | _ => simp [control] at turn
      · simpa only [Promise.waiting, pending] using member
      · rw [row]
        rfl
  | _ => exact .inl (row ▸ member)

theorem size_map {source function : Nat} : (machine.begin (.map source function)).world.promises.size =
    machine.world.promises.size + 1 := Store.size_add _ _

/-- Only promises that were made are mentioned. -/
theorem Reached.within_made (reached : machine.Reached) :
    machine.Within ⟨(· < machine.world.promises.size), fun _ => True, fun _ => True, fun _ => True,
      True⟩ :=
  reached.rooted _ trivial
    ⟨fun _ made => made, fun _ _ => trivial, fun _ _ => trivial, fun _ _ => trivial⟩

/-- A promise that was there before a body was made does not complete it. -/
theorem Apart.act {sink : Nat} (apart : machine.Apart sink) (made : sink < machine.world.promises.size)
    (reached : machine.Reached) (move : Move) : (machine.act move).Apart sink := by
  intro body known
  have moved := machine.moved_act move
  have kept (earlier : body < machine.world.bodies.size) :
      ((machine.act move).world.body body).promise ≠ sink := by
    obtain ⟨site, rfl, guards⟩ := reached.guarded body earlier
    rw [(guards.moved (reached.handled _) moved).promise, ← guards.promise]
    exact apart site.body earlier
  rcases bodies_moved moved reached.rooted with same | ⟨config, born⟩
  · exact kept (same ▸ known)
  · by_cases earlier : body < machine.world.bodies.size
    · exact kept earlier
    · have size : (machine.begin (.newBody config)).world.bodies.size =
          machine.world.bodies.size + 1 := Store.size_add _ _
      rw [born, size] at known
      obtain rfl : body = machine.world.bodies.size := by omega
      have row : (machine.begin (.newBody config)).world.body machine.world.bodies.size =
          ⟨machine.world.accumulators.size, machine.world.promises.size, config, 1, true⟩ :=
        (Store.get_add _ _ _).trans (if_pos rfl)
      rw [born, row]
      exact (Nat.ne_of_lt made).symm

/-- A promise that is not settled or released stands as it stood. -/
theorem standing_act {link : Link} (made : link.Made machine.world)
    (streamless : link.stream = none) (bodiless : link.body = none)
    (unowned : (machine.world.promise link.derived).owned = false)
    (unsettled : ∀ outcome, machine.control ≠ .task (.settle link.derived outcome))
    (unreleased : machine.control ≠ .task (.release link.derived)) (move : Move) :
    (machine.act move).standing link = machine.standing link := by
  have moved := machine.moved_act move
  generalize machine.act move = after at moved
  cases moved with
  | @perform _ task working =>
      refine (bears_perform (fun outcome same => ?_) (fun same => ?_) fun _ _ _ own => ?_).standing
      · exact unsettled outcome (working.trans (congrArg Control.task same))
      · exact unreleased (working.trans (congrArg Control.task same))
      · simp [streamless] at own
  | resume replied =>
      refine (bears_resume _ _ (fun _ _ _ own => ?_) fun _ own => ?_).standing
      · simp [streamless] at own
      · simp [bodiless] at own
  | unwind panicking =>
      refine (bears_unwind panicking _ fun _ _ _ own => ?_).standing
      simp [streamless] at own
  | begin idle admitted => exact (bears_begin made unowned admitted).standing
  | _ => rfl

end Machine

namespace Mapping

open Machine

variable {mapping : Mapping} {apply : String → String} {once : Prop} {machine : Machine}
  {move : Move}

/-- The derived future is pending, and its sink has one holder. -/
structure Pends (mapping : Mapping) (once : Prop) (machine : Machine) : Prop where
  made : mapping.link.Made machine.world
  apart : machine.Apart mapping.derived
  standing : machine.standing mapping.link = (1, false, false)
  /-- The function is due one call at most, if it was given away once. -/
  few : once → machine.dues mapping.function ≤ 1

/-- A move that leaves the mapping alone: the derived future is not cancelled, the
function returns what it is to return, and no panic drops a mapping of the source. -/
structure Spares (mapping : Mapping) (apply : String → String) (once : Prop) (machine : Machine)
    (move : Move) : Prop where
  uncancelled : ∀ force, move ≠ .call (.cancel mapping.derived force)
  whole : machine.undivided mapping.source move = true
  computed : machine.computes mapping.function apply move = true
  given : once → move.gives mapping.function = false

namespace Pends

variable (pends : mapping.Pends once machine)

include pends

theorem row : (machine.world.promise mapping.derived).shares = 1 ∧
    (machine.world.promise mapping.derived).isDone = false ∧
      (machine.world.promise mapping.derived).owned = false := by
  have standing := pends.standing
  simpa [Machine.standing, link] using standing

/-- Whoever has a stake in the derived future is the only one. -/
theorem single (reached : machine.Reached) : machine.stakes mapping.derived ≤ 1 := by
  have backed := reached.backed pends.apart
  obtain ⟨shares, -, -⟩ := pends.row
  simp only [Backed, backing, shares] at backed
  omega

theorem act (reached : machine.Reached)
    (unsettled : ∀ outcome, machine.control ≠ .task (.settle mapping.derived outcome))
    (unreleased : machine.control ≠ .task (.release mapping.derived))
    (given : once → move.gives mapping.function = false) :
    mapping.Pends once (machine.act move) where
  made := pends.made.grown (reached.rooted.grown move)
  apart := pends.apart.act pends.made.derived reached move
  standing := (standing_act pends.made rfl rfl pends.row.2.2 unsettled unreleased move).trans
    pends.standing
  few own := by
    have dues := machine.dues_act mapping.function move
    rw [given own] at dues
    exact Nat.le_trans dues (pends.few own)

/-- A stake that rests leaves none for the next step. -/
theorem rests (reached : machine.Reached)
    (resting : 1 ≤ machine.lodged mapping.derived) :
    machine.loose mapping.derived = 0 := by
  have single := pends.single reached
  simp only [stakes, reserve, tabled] at single
  rw [lodged] at resting
  rw [loose]
  omega

/-- A stake that rests cannot be released. -/
theorem unreleased (reached : machine.Reached)
    (resting : 1 ≤ machine.lodged mapping.derived) :
    machine.control ≠ .task (.release mapping.derived) := by
  intro working
  have loose := pends.rests reached resting
  rw [Machine.loose, working] at loose
  simp [Control.stakes, Task.stakes] at loose

theorem rests_act (reached : machine.Reached) (spares : mapping.Spares apply once machine move)
    (resting : 1 ≤ machine.lodged mapping.derived) :
    (machine.act move).attempts mapping.derived ≤ machine.attempts mapping.derived := by
  have attempts := attempts_act pends.apart pends.row.2.2 spares.uncancelled
  rwa [pends.rests reached resting] at attempts

end Pends

theorem stakes_handler (mapping : Mapping) : mapping.handler.stakes mapping.derived = 1 := if_pos rfl

/-- The handler rests in a frame. -/
theorem resting_part {frame : Frame} {below : List Frame} (upper : List Frame)
    (part : upper ++ frame :: below <:+ machine.stack)
    (held : 1 ≤ frame.stakes mapping.derived) :
    1 ≤ machine.lodged mapping.derived := by
  obtain ⟨above, whole⟩ := part
  rw [lodged, ← whole]
  simp only [List.map_append, List.map_cons, Count.total_append, Count.total_cons]
  omega

theorem resting_waiting {number : Nat}
    (member : ⟨number, mapping.handler⟩ ∈ (machine.world.promise mapping.source).waiting) :
    1 ≤ machine.lodged mapping.derived := by
  have own := Count.le_total (Registration.stakes mapping.derived) member
  have row := machine.world.promises.le_weigh (Promise.stakes mapping.derived) mapping.source rfl
  have same : Registration.stakes mapping.derived ⟨number, mapping.handler⟩ = 1 := mapping.stakes_handler
  have within : Count.total ((machine.world.promise mapping.source).waiting.map
      (Registration.stakes mapping.derived)) ≤
        machine.world.promises.weigh (Promise.stakes mapping.derived) := row
  rw [lodged]
  omega

end Mapping

end Handoff
