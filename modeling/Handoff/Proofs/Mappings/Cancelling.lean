import Handoff.Proofs.Mappings.Tree

namespace Handoff

/-! Work that stays with a family of futures.

A cancellation of a derived future is told to those who wait for it, which cancels the
futures that were derived from it, and so on.  As long as the client makes no call of
its own, nobody outside that family hears of it. -/

variable {family : Nat → Prop}

def CompletionHandler.Among (family : Nat → Prop) : CompletionHandler → Prop
  | .client _ _ | .logging _ => True
  | .mapping _ derived => family derived
  | .passing _ | .aborting _ | .forwarding _ => False

def Task.Among (family : Nat → Prop) : Task → Prop
  | .settle promise _ | .release promise => family promise
  | .dispatch _ _ waiting => ∀ registration ∈ waiting, registration.handler.Among family
  | .tell handler _ => handler.Among family
  | .forget handlers => ∀ handler ∈ handlers, handler.Among family
  | _ => False

def Control.Among (family : Nat → Prop) : Control → Prop
  | .task work => work.Among family
  | _ => True

def Frame.Among (family : Nat → Prop) : Frame → Prop
  | .client _ | .replying _ | .dropping | .rethrowing _ => True
  | .forgetting handlers => ∀ handler ∈ handlers, handler.Among family
  | .dispatching _ _ waiting => ∀ registration ∈ waiting, registration.handler.Among family
  | .resolving promise => family promise
  | _ => False

namespace Machine

/-- Work above `base` that left the promises outside the family as they were. -/
structure Minds (family : Nat → Prop) (base : List Frame) (start machine : Machine) : Prop where
  others : ∀ index, ¬ family index → machine.world.promise index = start.world.promise index
  waiting : ∀ index, family index → ∀ registration ∈ (machine.world.promise index).waiting,
    registration.handler.Among family
  frames : ∃ above, machine.stack = above ++ base ∧ ∀ frame ∈ above, frame.Among family

/-- The work goes on with the family. -/
structure Stays (family : Nat → Prop) (base : List Frame) (start machine : Machine) : Prop
    extends Minds family base start machine where
  control : machine.control.Among family

variable {base below : List Frame} {start machine : Machine} {frame : Frame} {move : Move}

namespace Minds

variable (minds : Minds family base start machine)

include minds

theorem push (frame : Frame) (own : frame.Among family) : Minds family base start (machine.push frame) where
  others := minds.others
  waiting := minds.waiting
  frames := by
    obtain ⟨above, stack, frames⟩ := minds.frames
    refine ⟨frame :: above, congrArg (frame :: ·) stack, fun other member => ?_⟩
    rcases List.mem_cons.mp member with rfl | later
    · exact own
    · exact frames other later

theorem note (entry : Entry) : Minds family base start (machine.note entry) :=
  ⟨minds.others, minds.waiting, minds.frames⟩

theorem withControl (control : Control) (own : control.Among family) :
    Stays family base start { machine with control } :=
  ⟨⟨minds.others, minds.waiting, minds.frames⟩, own⟩

theorem turn {task : Task} (own : task.Among family) : Stays family base start (machine.turn task) :=
  ⟨⟨minds.others, minds.waiting, minds.frames⟩, own⟩

theorem reply (reply : Reply) : Stays family base start (machine.reply reply) :=
  minds.withControl (.reply reply) trivial

theorem invoke (invocation : Invocation) : Stays family base start (machine.invoke invocation) :=
  ((minds.note (.invoked invocation)).push (.client invocation) trivial).withControl
    (.client .called) trivial

/-- A row of the family is written, and nobody new waits there. -/
theorem setPromise {index : Nat} {promise : Promise} (own : family index)
    (heard : ∀ registration ∈ promise.waiting,
      registration ∈ (machine.world.promise index).waiting) :
    Minds family base start (machine.setPromise index promise) where
  others other outside := by
    have apart : other ≠ index := fun same => outside (same ▸ own)
    rw [promise_setPromise, if_neg apart]
    exact minds.others other outside
  waiting other inside registration member := by
    rw [promise_setPromise] at member
    split at member
    case isTrue same => exact minds.waiting index own registration (heard registration member)
    case isFalse => exact minds.waiting other inside registration member
  frames := minds.frames

theorem dispatch {promise : Nat} {outcome : Outcome} {waiting : List Registration}
    (own : ∀ registration ∈ waiting, registration.handler.Among family) :
    Stays family base start (machine.dispatch promise outcome waiting) := by
  cases waiting with
  | nil => exact minds.reply _
  | cons registration waiting =>
      have first := own registration (List.mem_cons_self ..)
      refine (((minds.note _).push _ ?_).push _ ?_).turn first
      · exact fun other member => own other (List.mem_cons_of_mem _ member)
      · intro handler member
        rw [List.mem_singleton.mp member]
        exact first

theorem settle {index : Nat} (outcome : Outcome) (own : family index) :
    Stays family base start (machine.settle index outcome) := by
  simp only [Machine.settle]
  split
  case h_1 => exact (minds.note _).reply _
  case h_2 waiting pending =>
      refine (((minds.setPromise own ?_).note _).note _).turn fun registration member => ?_
      · exact fun registration member => absurd member (List.not_mem_nil)
      · refine minds.waiting index own registration ?_
        simpa only [Promise.waiting, pending] using member

theorem tell {handler : CompletionHandler} (outcome : Outcome) (own : handler.Among family) :
    Stays family base start (machine.tell handler outcome) := by
  cases handler with
  | client number hearing =>
      simp only [Machine.tell]
      split
      · exact minds.invoke _
      · exact minds.reply _
  | logging name => exact (minds.note _).reply _
  | mapping function derived =>
      cases outcome with
      | resolved value => exact (minds.push (.resolving derived) own).invoke _
      | _ => exact minds.turn own
  | _ => exact own.elim

theorem release {index : Nat} (own : family index) :
    Stays family base start (machine.release index) := by
  have written : Minds family base start
      (machine.setPromise index (machine.world.promise index).removeShare) :=
    minds.setPromise own fun registration member => member
  simp only [Machine.release]
  split
  · exact (written.push .dropping trivial).turn own
  · exact written.reply _

theorem forget {handlers : List CompletionHandler}
    (own : ∀ handler ∈ handlers, handler.Among family) :
    Stays family base start (machine.forget handlers) := by
  cases handlers with
  | nil => exact minds.reply _
  | cons handler later =>
      have first := own handler (List.mem_cons_self ..)
      have held : Minds family base start
          (if later.isEmpty then machine else machine.push (.forgetting later)) := by
        split
        · exact minds
        · exact minds.push _ fun other member => own other (List.mem_cons_of_mem _ member)
      cases handler with
      | client _ _ | logging _ => exact held.reply _
      | mapping function derived => exact held.turn first
      | _ => exact first.elim

theorem perform {task : Task} (own : task.Among family) :
    Stays family base start (machine.perform task) := by
  cases task with
  | settle promise outcome => exact minds.settle outcome own
  | dispatch promise outcome waiting => exact minds.dispatch own
  | tell handler outcome => exact minds.tell outcome own
  | forget handlers => exact minds.forget own
  | release promise => exact minds.release own
  | _ => exact own.elim

theorem resume (reply : Reply) (own : frame.Among family) :
    Stays family base start (machine.resume reply frame) := by
  cases frame with
  | client invocation =>
      exact (minds.push (.client invocation) trivial).withControl
        (.client (.replied reply)) trivial
  | replying other => exact minds.reply _
  | dropping =>
      simp only [Machine.resume]
      split
      · exact (minds.note _).reply _
      · exact minds.reply _
  | rethrowing message => exact minds.withControl (.panic message) trivial
  | forgetting handlers => exact minds.turn own
  | dispatching promise outcome waiting => exact minds.turn own
  | resolving derived =>
      cases reply with
      | value value => exact minds.turn own
      | _ => exact minds.reply _
  | _ => exact own.elim

theorem unwind {message : String} (panicking : machine.control = .panic message)
    (own : frame.Among family) : Stays family base start (machine.unwind message frame) := by
  have still : Stays family base start machine := ⟨minds, panicking ▸ trivial⟩
  cases frame with
  | client invocation =>
      exact (minds.push (.client invocation) trivial).withControl
        (.client (.panicked message)) trivial
  | rethrowing other => exact minds.withControl .stopped trivial
  | forgetting handlers => exact (minds.push (.rethrowing message) trivial).turn own
  | dispatching promise outcome waiting =>
      refine (minds.push (.rethrowing message) trivial).turn fun handler member => ?_
      obtain ⟨registration, known, rfl⟩ := List.mem_map.mp member
      exact own registration known
  | replying _ | resolving _ | dropping => exact still
  | _ => exact own.elim

/-- The frame on top is taken off. -/
theorem pop (top : machine.stack = frame :: below) (part : base <:+ below) :
    Minds family base start { machine with stack := below } ∧ frame.Among family := by
  obtain ⟨above, stack, frames⟩ := minds.frames
  cases above with
  | nil =>
      have length := part.length_le
      rw [← List.nil_append base, ← stack, top, List.length_cons] at length
      omega
  | cons first above =>
      obtain ⟨rfl, rest⟩ := List.cons.inj (top.symm.trans stack)
      refine ⟨⟨minds.others, minds.waiting, above, rest, fun other member => ?_⟩, ?_⟩
      · exact frames other (List.mem_cons_of_mem _ member)
      · exact frames _ (List.mem_cons_self ..)

end Minds

namespace Stays

variable (stays : Stays family base start machine)

include stays

theorem tick (rises : Rises base machine) (busy : ¬ Over base machine) :
    Stays family base start machine.tick := by
  obtain ⟨world, stack, control, journal⟩ := machine
  have deeper {frame : Frame} {below : List Frame} (top : stack = frame :: below)
      (ceased : control.isOver = true) : base <:+ below := by
    subst top
    rcases List.suffix_cons_iff.mp rises.1 with same | part
    · exact absurd ⟨same.symm, ceased⟩ busy
    · exact part
  cases control with
  | client sight => exact stays
  | stopped => exact stays
  | task task => exact stays.perform stays.control
  | reply reply =>
      cases stack with
      | nil => exact absurd ⟨(List.suffix_nil.mp rises.1).symm, rfl⟩ busy
      | cons frame below =>
          obtain ⟨minds, own⟩ := stays.pop rfl (deeper rfl rfl)
          exact minds.resume reply own
  | panic message =>
      cases stack with
      | nil => exact absurd ⟨(List.suffix_nil.mp rises.1).symm, rfl⟩ busy
      | cons frame below =>
          obtain ⟨minds, own⟩ := stays.pop rfl (deeper rfl rfl)
          exact minds.unwind rfl own

theorem act (rises : Rises base machine) (busy : ¬ Over base machine)
    (uncalled : ∀ call, move ≠ .call call) : Stays family base start (machine.act move) := by
  have acted := machine.acted move
  generalize machine.act move = after at acted
  have popped {sight : Sight} {frame : Frame} {below : List Frame}
      (idle : machine.control = .client sight) (top : machine.stack = frame :: below) :
      Minds family base start { machine with stack := below } := by
    obtain ⟨invocation, rest, same, part⟩ := rises.2 sight idle
    obtain ⟨-, rfl⟩ := List.cons.inj (top.symm.trans same)
    exact (stays.pop top part).1
  cases acted with
  | rest => exact stays
  | tick => exact stays.tick rises busy
  | call idle admitted => exact absurd rfl (uncalled _)
  | describe description idle =>
      exact ⟨⟨stays.others, stays.waiting, stays.frames⟩, stays.control⟩
  | answer idle top accepted => exact (popped idle top).withControl (.reply _) trivial
  | panic idle top => exact (popped idle top).withControl (.panic _) trivial

end Stays

/-- A cancellation of a derived future, with all that the library and the handlers it
calls do about it, leaves every future as it was that was not derived from it. -/
theorem promise_cancelled {moves : List Move} {mapping : Mapping} {force : Bool} {after : Machine}
    (mapped : Mapped moves mapping)
    (called : Called (fun _ move => ∀ call, move ≠ .call call) (.cancel mapping.derived force)
      (initial.run moves) after) {index : Nat}
    (apart : ∀ functions, ¬ Reaches moves mapping.derived functions index) :
    after.world.promise index = (initial.run moves).world.promise index := by
  let family (future : Nat) : Prop := ∃ functions, Reaches moves mapping.derived functions future
  have traced (future : Nat) (own : family future) : Traces moves future (initial.run moves) := by
    obtain ⟨functions, path⟩ := own
    cases path with
    | root => exact mapped.traces
    | map earlier last => exact last.traces
  have among (future : Nat) (own : family future) {handler : CompletionHandler}
      (origin : Origin moves future handler) : handler.Among family := by
    cases handler with
    | mapping function derived =>
        obtain ⟨functions, path⟩ := own
        exact ⟨functions ++ [function], .map path origin⟩
    | _ => exact origin
  have first : Stays family (initial.run moves).stack (initial.run moves)
      ((initial.run moves).begin (.cancel mapping.derived force)) := by
    refine ⟨⟨fun _ _ => rfl, fun future own registration member => ?_, [], rfl, by simp⟩, ?_⟩
    · exact among future own ((traced future own).waiting registration member)
    · exact ⟨[], .root⟩
  have kept := called.course.keeps
    (fun before move rises busy uncalled stays => stays.act rises busy uncalled)
    (rises_begin _ _) first
  exact kept.2.others index fun ⟨functions, path⟩ => apart functions path

end Machine

end Handoff
