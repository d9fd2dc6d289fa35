import Handoff.Proofs.Promises.Cord

namespace Handoff

/-! Every move of the machine is a step of the cord of every promise. -/

namespace Machine

variable (machine : Machine) (index : Nat)

theorem cordStep_setPromise (other : Nat) (promise : Promise)
    (same : promise.state = (machine.world.promise other).state) :
    Cord.Step index (machine.cord index) ((machine.setPromise other promise).cord index) := by
  by_cases own : index = other
  · subst other
    rw [cord_setPromise_own]
    exact .share promise same
  · rw [cord_setPromise_other _ _ _ own]
    exact .still _

theorem cordStep_settle (other : Nat) (outcome : Outcome)
    (idle : (machine.cord index).turn = none) :
    Cord.Step index (machine.cord index) ((machine.settle other outcome).cord index) := by
  simp only [settle]
  split
  case h_1 => exact .unchanged (by simp [Cord.look_same idle])
  case h_2 waiting pending =>
      by_cases own : index = other
      · subst other
        simpa using @Cord.Step.settle index (machine.cord index) outcome waiting idle pending
      · have step := @Cord.Step.still index (machine.cord index) (index ≤ other)
        simpa [cord_setPromise_other, own, Ne.symm own, Cord.look_same idle] using step

theorem cordStep_register (other : Nat) (handler : CompletionHandler)
    (idle : (machine.cord index).turn = none) :
    Cord.Step index (machine.cord index) ((machine.register other handler).cord index) := by
  have skipped := @Cord.Step.skip index (machine.cord index)
  have still : (machine.cord index).count.look none = (machine.cord index).count :=
    Cord.look_same idle
  simp only [register]
  split
  case h_1 waiting pending =>
      by_cases own : index = other
      · subst other
        have step := @Cord.Step.wait index (machine.cord index) handler waiting idle pending
        have away : ((((machine.cord index).count.note (.registered index
            machine.world.registrations)).become ((machine.world.promise index).enqueue
              ⟨machine.world.registrations, handler⟩))).turn = none := idle
        simpa [Cord.look_same away] using step
      · simpa [cord_setPromise_other, own, Ne.symm own, still] using skipped (index ≤ other)
  case h_2 outcome settled =>
      by_cases own : index = other
      · subst other
        have step := @Cord.Step.late index (machine.cord index) outcome idle settled
        have away : (((machine.cord index).count.note (.registered index
            machine.world.registrations)).note (.told index machine.world.registrations
              outcome)).turn = none := idle
        simpa [Cord.look_same away] using step
      · simpa [Ne.symm own, still] using skipped False

theorem cordStep_release (other : Nat) (idle : (machine.cord index).turn = none) :
    Cord.Step index (machine.cord index) ((machine.release other).cord index) := by
  have step := machine.cordStep_setPromise index other
    (machine.world.promise other).removeShare rfl
  have away : ((machine.setPromise other (machine.world.promise other).removeShare).cord
      index).turn = none := idle
  simp only [release]
  split <;> simpa [Cord.look_same away] using step

theorem cordStep_dispatch (other : Nat) (outcome : Outcome) (waiting : List Registration)
    (turn : (machine.cord index).turn = (Task.dispatch other outcome waiting).dispatch? index) :
    Cord.Step index (machine.cord index) ((machine.dispatch other outcome waiting).cord index) := by
  by_cases own : index = other
  · subst other
    have turn : (machine.cord index).turn = some (outcome, waiting) := by simpa using turn
    cases waiting with
    | nil => simpa [dispatch] using Cord.Step.finish outcome turn
    | cons registration waiting =>
        simpa [dispatch] using Cord.Step.tell registration waiting outcome turn
  · have idle : (machine.cord index).turn = none := by simpa [Ne.symm own] using turn
    refine .unchanged ?_
    cases waiting <;> simp [dispatch, Ne.symm own, Cord.look_same idle]

theorem cord_tell (handler : CompletionHandler) (outcome : Outcome) :
    (machine.tell handler outcome).cord index = (machine.cord index).look none := by
  unfold tell
  repeat' split
  all_goals simp

theorem cord_forget (handlers : List CompletionHandler) :
    (machine.forget handlers).cord index = (machine.cord index).look none := by
  unfold forget
  cases handlers with
  | nil => simp
  | cons handler rest =>
      cases handler <;> cases rest <;> simp

theorem cord_deliver (other : Nat) (bytes : Bytes) :
    (machine.deliver other bytes).cord index = (machine.cord index).look none := by
  simp only [deliver]
  repeat' split
  all_goals simp

theorem cord_attach (other : Nat) (handler : ChunkHandler) :
    (machine.attach other handler).cord index = (machine.cord index).look none := by
  simp only [attach]
  split <;> simp

theorem cord_finish (other : Nat) (ending : Ending) :
    (machine.finish other ending).cord index = (machine.cord index).look none := by
  simp only [finish]
  split <;> simp

theorem cord_drain (other : Nat) :
    (machine.drain other).cord index = (machine.cord index).look none := by
  simp only [drain]
  split <;> simp

theorem cord_next (other : Nat) (handler : ChunkHandler) :
    (machine.next other handler).cord index = (machine.cord index).look none := by
  simp only [next]
  repeat' split
  all_goals simp [letGo]

theorem cord_feed (handler : ChunkHandler) (bytes : Bytes) :
    (machine.feed handler bytes).cord index = (machine.cord index).look none := by
  simp only [feed, raise]
  repeat' split
  all_goals simp

theorem cord_feedEnd (handler : ChunkHandler) :
    (machine.feedEnd handler).cord index = (machine.cord index).look none := by
  cases handler <;> simp [feedEnd]

theorem cord_discard (handler : ChunkHandler) :
    (machine.discard handler).cord index = (machine.cord index).look none := by
  cases handler <;> simp [discard]

theorem cord_abandon (body : Nat) :
    (machine.abandon body).cord index = (machine.cord index).look none := by
  simp only [abandon]
  split <;> simp

theorem cordStep_perform (task : Task) (turn : (machine.cord index).turn = task.dispatch? index) :
    Cord.Step index (machine.cord index) ((machine.perform task).cord index) := by
  cases task with
  | settle other outcome => exact machine.cordStep_settle index other outcome turn
  | dispatch other outcome waiting => exact machine.cordStep_dispatch index other outcome waiting turn
  | register other handler => exact machine.cordStep_register index other handler turn
  | release other => exact machine.cordStep_release index other turn
  | tell handler outcome => exact .quiet (machine.cord_tell index _ _) turn
  | forget handlers => exact .quiet (machine.cord_forget index _) turn
  | deliver accumulator bytes => exact .quiet (machine.cord_deliver index _ _) turn
  | attach accumulator handler => exact .quiet (machine.cord_attach index _ _) turn
  | finish accumulator ending => exact .quiet (machine.cord_finish index _ _) turn
  | drain accumulator => exact .quiet (machine.cord_drain index _) turn
  | next accumulator handler => exact .quiet (machine.cord_next index _ _) turn
  | feed handler bytes => exact .quiet (machine.cord_feed index _ _) turn
  | feedEnd handler => exact .quiet (machine.cord_feedEnd index _) turn
  | discard handler => exact .quiet (machine.cord_discard index _) turn
  | abandon body => exact .quiet (machine.cord_abandon index _) turn

theorem cord_leave (body : Nat) {after : Frame} {otherwise : Control}
    (frame : after.dispatch? index = none) (away : otherwise.dispatch? index = none) :
    (machine.leave body after otherwise).cord index = (machine.cord index).look none := by
  simp only [leave]
  split
  case isTrue => simp [frame, -Frame.dispatch?]
  case isFalse =>
      refine (cord_control _ index otherwise).trans ?_
      rw [away, cord_setBody]

theorem cordStep_resume (frame : Frame) (reply : Reply) (idle : (machine.cord index).turn = none) :
    Cord.Step index ((machine.push frame).cord index)
      ((machine.resume reply frame).cord index) := by
  cases frame with
  | dispatching other outcome waiting =>
      by_cases own : index = other
      · subst other
        have step := @Cord.Step.resume index
          ((machine.cord index).leave ((outcome, waiting) :: (machine.cord index).held))
          (outcome, waiting) (machine.cord index).held idle rfl
        simpa [resume] using step
      · exact .unchanged (by simp [resume, Ne.symm own, Cord.look_same idle])
  | leaving body => exact .quiet (machine.cord_leave index body rfl rfl) idle
  | client invocation =>
      exact .quiet ((machine.push (.client invocation)).cord_control index _) idle
  | replying _ | forgetting _ | fed _ _ | fedEnd _ _ | resolving _ | dropping
  | releasing _ | released | finishing _ _ | settling _ _ | texting _ _ | streaming _ _
  | returning _ _ | rethrowing _ =>
      refine .unchanged ?_
      simp only [resume, letGo]
      repeat' split
      all_goals simp [Cord.look_same idle]

theorem cordStep_unwind (frame : Frame) (message : String)
    (idle : (machine.cord index).turn = none) :
    Cord.Step index ((machine.push frame).cord index)
      ((machine.unwind message frame).cord index) := by
  cases frame with
  | dispatching other outcome waiting =>
      by_cases own : index = other
      · subst other
        have step := @Cord.Step.drop index
          ((machine.cord index).leave ((outcome, waiting) :: (machine.cord index).held))
          (outcome, waiting) (machine.cord index).held idle rfl
        simpa [unwind, Cord.look_same idle] using step
      · exact .unchanged (by simp [unwind, Ne.symm own, Cord.look_same idle])
  | leaving body => exact .quiet (machine.cord_leave index body rfl rfl) idle
  | client invocation =>
      exact .quiet ((machine.push (.client invocation)).cord_control index _) idle
  | replying _ | forgetting _ | fed _ _ | fedEnd _ _ | resolving _ | dropping
  | releasing _ | released | finishing _ _ | settling _ _ | texting _ _ | streaming _ _
  | returning _ _ | rethrowing _ =>
      exact .unchanged (by simp [unwind, collapse, Cord.look_same idle])

theorem cordStep_addPromise (promise : Promise) (unheard : promise.waiting = []) :
    Cord.Step index (machine.cord index)
      ((machine.withWorld (machine.world.addPromise promise)).cord index) := by
  by_cases own : index = machine.world.promises.size
  · have made : (machine.withWorld (machine.world.addPromise promise)).cord index =
        (machine.cord index).become promise := by
      simp [cord, withWorld, World.addPromise, World.promise, Store.get_add, promisePast,
        Cord.become, own]
    rw [made]
    exact .make promise (by simp [cord, own]) unheard
  · have size : index < machine.world.promises.size + 1 ↔
        index < machine.world.promises.size := by
      omega
    exact .unchanged (by
      simp [cord, withWorld, World.addPromise, World.promise, Store.get_add, promisePast, own,
        size])

theorem cordStep_begin (call : Call) (idle : (machine.cord index).turn = none) :
    Cord.Step index (machine.cord index) ((machine.begin call).cord index) := by
  have made (promise : Promise) (unheard : promise.waiting = []) (start : Machine)
      (same : start.cord index = machine.cord index) :
      Cord.Step index (machine.cord index)
        (((start.withWorld (start.world.addPromise promise)).cord index).look none) := by
    have away : ((start.withWorld (start.world.addPromise promise)).cord index).turn = none := by
      have idle : (start.cord index).turn = none := by rw [same]; exact idle
      exact idle
    rw [Cord.look_same away, ← same]
    exact start.cordStep_addPromise index promise unheard
  cases call with
  | newPromise => exact made _ rfl machine rfl
  | newSettled outcome => exact made _ rfl machine rfl
  | map promise function => simpa [begin, map] using made (Promise.inside 1) rfl machine rfl
  | newBody config =>
      simpa [begin, newBody] using made (Promise.inside 1) rfl (machine.withWorld
        (machine.world.addAccumulator (Accumulator.new config.pendingCeiling))) rfl
  | text body charset => simpa [begin, text] using made (Promise.inside 2) rfl machine rfl
  | dropSink promise =>
      have step := machine.cordStep_setPromise index promise
        { machine.world.promise promise with owned := false } rfl
      have away : ((machine.setPromise promise
          { machine.world.promise promise with owned := false }).cord index).turn = none := idle
      simpa [begin, Cord.look_same away] using step
  | newHandler handler =>
      cases handler with
      | collecting charset capacity promise =>
          have step := (machine.withWorld (machine.world.addHandler
            (.collecting (Collector.new charset capacity promise)))).cordStep_setPromise index
              promise (machine.world.promise promise).addShare rfl
          have away : (((machine.withWorld (machine.world.addHandler
            (.collecting (Collector.new charset capacity promise)))).setPromise
              promise (machine.world.promise promise).addShare).cord index).turn = none := idle
          simpa [begin, newHandler, Cord.look_same away] using step
      | _ => exact .unchanged (by simp [begin, newHandler, Cord.look_same idle])
  | dropSender body => exact .quiet (cord_leave _ index body rfl rfl) idle
  | settle _ _ | cancel _ _ | listen _ _ _ | log _ _ | newAccumulator _ | deliver _ _
  | attach _ _ | finish _ _ | send _ _ | complete _ _ | fail _ _ | chunks _ | poll _
  | dropStream _ | tell _ _ | feed _ _ | feedEnd _ | discard _ =>
      refine .unchanged ?_
      simp [begin, hold, chunks, takeHandler, Cord.look_same idle]

end Machine

/-- Every move of the machine is a step of the cord of every promise. -/
theorem Cord.step_of_moved {before after : Machine} (moved : before.Moved after) (index : Nat) :
    Cord.Step index (before.cord index) (after.cord index) := by
  cases moved with
  | rest => exact .unchanged rfl
  | perform working => exact before.cordStep_perform index _ (by simp [Machine.cord, working])
  | @resume below reply frame replied =>
      exact below.cordStep_resume index frame reply (by simp [Machine.cord, replied])
  | @unwind below message frame panicking =>
      exact below.cordStep_unwind index frame message (by simp [Machine.cord, panicking])
  | begin idle => exact before.cordStep_begin index _ (by simp [Machine.cord, idle])
  | surface empty ceased =>
      have away : (before.cord index).turn = none := by
        cases control : before.control with
        | task task => simp [control, Control.isOver] at ceased
        | _ => simp [Machine.cord, control]
      exact .quiet (before.cord_control index _) away
  | describe description idle => exact .unchanged rfl
  | @answer below sight invocation reply idle =>
      have away : (below.cord index).turn = none := by simp [Machine.cord, idle]
      exact .quiet (below.cord_control index _) away
  | @panic below sight invocation message idle =>
      have away : (below.cord index).turn = none := by simp [Machine.cord, idle]
      exact .quiet (below.cord_control index _) away

end Handoff
