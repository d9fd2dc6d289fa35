import Handoff.Proofs.Sessions.Gist

namespace Handoff

namespace Machine

variable {bounds : Bounds} {machine start full reduced after : Machine} {client : Client}

/-! Only the frames of a body that is handed over ask for a registration. -/

theorem control_invoke (machine : Machine) (invocation : Invocation) :
    (machine.invoke invocation).control = .client .called := rfl

theorem control_perform (machine : Machine) (task : Task) (promise : Nat)
    (handler : CompletionHandler) :
    (machine.perform task).control ≠ .task (.register promise handler) := by
  cases task with
  | settle other outcome => simp only [perform, settle]; split <;> simp
  | dispatch other outcome waiting => cases waiting <;> simp [perform, dispatch]
  | tell told outcome =>
      cases told with
      | client number hearing => simp only [perform, tell]; split <;> simp [control_invoke]
      | logging name => simp [perform, tell]
      | forwarding channel => simp [perform, tell]
      | _ => cases outcome <;> simp [perform, tell, control_invoke]
  | register other waiter => simp only [perform, register]; split <;> simp
  | forget handlers =>
      cases handlers with
      | nil => simp [perform, forget]
      | cons first rest => cases first <;> simp [perform, forget]
  | release other => simp only [perform, release]; split <;> simp
  | deliver accumulator bytes => simp only [perform, deliver]; split <;> simp
  | attach accumulator joining => simp only [perform, attach]; split <;> simp
  | finish accumulator ending => simp only [perform, finish]; split <;> simp
  | drain accumulator => simp only [perform, drain]; split <;> simp
  | next accumulator draining =>
      simp only [perform, next, letGo]
      split
      · simp
      · simp
      · split <;> simp
  | feed fed bytes =>
      cases fed with
      | collecting collector =>
          simp only [perform, feed]
          split
          · simp
          · split <;> simp
      | _ => simp [perform, feed, control_invoke]
  | feedEnd told => cases told <;> simp [perform, feedEnd, control_invoke]
  | discard gone => cases gone <;> simp [perform, discard]
  | abandon body => simp only [perform, abandon]; split <;> simp

theorem control_leave (machine : Machine) (body : Nat) (after : Frame) (otherwise : Control) :
    (machine.leave body after otherwise).control = .task (.abandon body) ∨
      (machine.leave body after otherwise).control = otherwise := by
  simp only [leave]
  split
  · exact .inl rfl
  · exact .inr rfl

theorem control_resume {reply : Reply} {frame : Frame} {promise : Nat} {handler : CompletionHandler}
    (asks : (machine.resume reply frame).control = .task (.register promise handler)) :
    (∃ body, promise = (machine.world.body body).promise) ∧
      ∀ function derived, handler ≠ .mapping function derived := by
  cases frame with
  | texting body derived =>
      cases reply with
      | result result => cases result <;> cases asks; exact ⟨⟨body, rfl⟩, by simp⟩
      | _ => cases asks; exact ⟨⟨body, rfl⟩, by simp⟩
  | streaming body channel =>
      cases reply with
      | result result => cases result <;> cases asks; exact ⟨⟨body, rfl⟩, by simp⟩
      | _ => cases asks; exact ⟨⟨body, rfl⟩, by simp⟩
  | leaving body =>
      rcases machine.control_leave body (.replying reply) (.reply reply) with same | same <;>
        cases same.symm.trans asks
  | resolving derived => cases reply <;> simp [resume] at asks
  | dropping =>
      cases reply with
      | result result => cases result <;> simp [resume] at asks
      | _ => simp [resume] at asks
  | finishing other value =>
      cases reply with
      | result result => cases result <;> simp [resume] at asks
      | _ => simp [resume] at asks
  | _ => simp [resume, letGo] at asks

theorem control_unwind {message : String} {frame : Frame} {promise : Nat}
    {handler : CompletionHandler} (panicking : machine.control = .panic message) :
    (machine.unwind message frame).control ≠ .task (.register promise handler) := by
  cases frame with
  | leaving body =>
      intro asks
      rcases machine.control_leave body (.rethrowing message) (.panic message) with same | same <;>
        cases same.symm.trans asks
  | streaming body channel =>
      intro asks
      cases panicking.symm.trans asks
  | returning index gone =>
      intro asks
      cases panicking.symm.trans asks
  | _ => simp [unwind, panicking]

/-- A machine works within bounds: it mentions nothing beyond them, and nobody waits
for a promise beyond them. -/
structure Fits (bounds : Bounds) (start machine : Machine) : Prop where
  inside : Inside bounds.zone [] start machine
  asks : ∀ promise handler, machine.control = .task (.register promise handler) →
    bounds.zone.promise promise
  first : bounds.zone.promise (default : Body).promise

/-- The promise of a body is within the bounds; one that was never made has the first
promise. -/
theorem promise_in {world : World} (inside : world.In bounds.zone)
    (first : bounds.zone.promise (default : Body).promise) (body : Nat) :
    bounds.zone.promise (world.body body).promise := by
  by_cases made : body < world.bodies.size
  · exact (inside.bodies body ⟨trivial, made⟩).2
  · have blank : world.body body = default := world.bodies.get_of_size_le (Nat.le_of_not_lt made)
    rw [blank]
    exact first

namespace Fits

variable (fits : Fits bounds start machine)

include fits

theorem promise_body (body : Nat) : bounds.zone.promise (machine.world.body body).promise :=
  promise_in fits.inside.world fits.first body

theorem tick : Fits bounds start machine.tick where
  inside := fits.inside.tick fun deep bottom => absurd bottom deep
  asks promise handler asked := by
    have body := fits.promise_body
    have earlier := fits.asks promise handler
    obtain ⟨world, stack, control, journal⟩ := machine
    cases control with
    | client sight => cases asked
    | stopped => cases asked
    | task task => exact absurd asked (control_perform _ task promise handler)
    | reply reply =>
        cases stack with
        | nil => cases asked
        | cons frame below =>
            obtain ⟨⟨index, same⟩, -⟩ := control_resume asked
            rw [same]
            exact body index
    | panic message =>
        cases stack with
        | nil => cases asked
        | cons frame below => exact absurd asked (control_unwind rfl)
  first := fits.first

end Fits

theorem gist_tick (fits : Fits bounds start machine) :
    machine.tick.gist bounds = (machine.gist bounds).tick.gist bounds := by
  obtain ⟨world, stack, control, journal⟩ := machine
  cases control with
  | client sight => exact (gist_gist bounds _).symm
  | stopped => exact (gist_gist bounds _).symm
  | task task =>
      exact gist_perform _ fits.inside.world fits.inside.control fun promise handler same =>
        fits.asks promise handler (congrArg Control.task same)
  | reply reply =>
      cases stack with
      | nil => exact gist_withControl bounds _ _
      | cons frame below =>
          have own := (fits.inside.pop rfl (by simp)).1
          exact gist_resume (⟨world, below, .reply reply, journal⟩ : Machine) reply own
  | panic message =>
      cases stack with
      | nil => exact gist_withControl bounds _ _
      | cons frame below =>
          have own := (fits.inside.pop rfl (by simp)).1
          exact gist_unwind (⟨world, below, .panic message, journal⟩ : Machine) message own

/-! Two machines with the same gist run alike. -/

theorem calls_gist (machine : Machine) (bounds : Bounds) :
    (machine.gist bounds).calls = machine.calls := by
  simp only [calls, gist, List.filter_filter, Bool.and_self]

theorem move_gist (client : Client) (machine : Machine) (bounds : Bounds) :
    client.move (machine.gist bounds) = client.move machine := by
  have past := machine.calls_gist bounds
  obtain ⟨world, stack, control, journal⟩ := machine
  cases control with
  | client sight =>
      cases stack with
      | nil => rfl
      | cons frame below =>
          cases frame with
          | client invocation =>
              exact congrArg (fun calls => Move.answer (client.answer calls invocation)) past
          | _ => rfl
  | _ => rfl

/-- An answer gives control back to the library, below the frame of the call. -/
theorem act_answer {sight : Sight} {reply : Reply} {below : List Frame} {invocation : Invocation}
    (idle : machine.control = .client sight) (top : machine.stack = .client invocation :: below)
    (accepted : invocation.accepts reply = true) :
    machine.act (.answer reply) = { machine with stack := below, control := .reply reply } := by
  simp [act, idle, top, accepted]

theorem move_answer {reply : Reply} (played : client.move machine = .answer reply) :
    ∃ sight invocation below, machine.control = .client sight ∧
      machine.stack = .client invocation :: below ∧ invocation.accepts reply = true := by
  unfold Client.move at played
  split at played
  case h_1 sight invocation below idle top =>
      cases played
      exact ⟨sight, invocation, below, idle, top, client.accepts_answer _ _⟩
  case h_2 => cases played

theorem Fits.act (fits : Fits bounds start machine) {move : Move}
    (played : client.plays machine move) : Fits bounds start (machine.act move) := by
  rcases client.move_cases machine with ticked | ⟨reply, answered⟩
  · rw [played, ticked]
    exact fits.tick
  · obtain ⟨sight, invocation, below, idle, top, accepted⟩ := move_answer answered
    rw [played, answered, act_answer idle top accepted]
    have popped := (fits.inside.pop top (by simp [top])).2
    exact ⟨popped.setControl trivial, fun promise handler asked => (by cases asked), fits.first⟩

theorem gist_act (fits : Fits bounds start machine) {move : Move}
    (played : client.plays machine move) :
    (machine.act move).gist bounds = ((machine.gist bounds).act move).gist bounds := by
  rcases client.move_cases machine with ticked | ⟨reply, answered⟩
  · rw [played, ticked]
    exact gist_tick fits
  · obtain ⟨sight, invocation, below, idle, top, accepted⟩ := move_answer answered
    have plain : (machine.gist bounds).control = .client .start := by
      simp only [gist, idle, Control.plain]
    rw [played, answered, act_answer idle top accepted, act_answer plain top accepted]
    exact gist_withControl bounds { machine with stack := below } _

theorem over_gist {base : List Frame} : Over base (machine.gist bounds) ↔ Over base machine := by
  have ceased : (machine.gist bounds).control.isOver = machine.control.isOver := by
    cases idle : machine.control <;> simp only [gist, idle, Control.plain, Control.isOver]
  simp only [Over, stack_gist, ceased]

/-- A course is followed by a machine that differs beyond the bounds only. -/
theorem Course.follow {base : List Frame} {origin : Machine}
    (course : Course client.plays base full after) (same : full.gist bounds = reduced.gist bounds)
    (fits : Fits bounds start full) (follows : Fits bounds origin reduced) :
    ∃ later, Course client.plays base reduced later ∧ after.gist bounds = later.gist bounds ∧
      Fits bounds start after ∧ Fits bounds origin later := by
  induction course generalizing reduced with
  | start machine => exact ⟨reduced, .start reduced, same, fits, follows⟩
  | @move machine after move busy played rest ih =>
      have again : client.plays reduced move := by
        rw [Client.plays, ← move_gist client reduced bounds, ← same, move_gist]
        exact played
      have alike : (machine.act move).gist bounds = (reduced.act move).gist bounds := by
        rw [gist_act fits played, same, ← gist_act follows again]
      obtain ⟨later, course, matched, fit, followed⟩ :=
        ih alike (fits.act played) (follows.act again)
      have stands : ¬ Over base reduced := fun ceased => busy <| over_gist.mp <| by
        rw [same]
        exact over_gist.mpr ceased
      exact ⟨later, .move stands again course, matched, fit, followed⟩

end Machine

end Handoff
