import Handoff.Proofs.Moves
import Handoff.Proofs.Streams.Strand

namespace Handoff

/-! Every move of the machine is a step of the strand of every accumulator. -/

namespace Machine

variable (machine : Machine) (index : Nat)

theorem strand_settle (promise : Nat) (outcome : Outcome) :
    (machine.settle promise outcome).strand index = (machine.strand index).look .away := by
  simp only [settle]
  split <;> simp

theorem strand_dispatch (promise : Nat) (outcome : Outcome) (waiting) :
    (machine.dispatch promise outcome waiting).strand index = (machine.strand index).look .away := by
  cases waiting <;> simp [dispatch]

theorem strand_tell (handler) (outcome : Outcome) :
    (machine.tell handler outcome).strand index = (machine.strand index).look .away := by
  unfold tell
  repeat' split
  all_goals simp

theorem strand_register (promise : Nat) (handler : CompletionHandler) :
    (machine.register promise handler).strand index = (machine.strand index).look .away := by
  simp only [register]
  split <;> simp

theorem strand_forget (handlers : List CompletionHandler) :
    (machine.forget handlers).strand index = (machine.strand index).look .away := by
  unfold forget
  cases handlers with
  | nil => simp
  | cons handler rest =>
      cases handler <;> cases rest <;> simp

theorem strand_release (promise : Nat) :
    (machine.release promise).strand index = (machine.strand index).look .away := by
  simp only [release]
  split <;> simp

theorem strand_feed (handler : ChunkHandler) (bytes : Bytes) :
    (machine.feed handler bytes).strand index = (machine.strand index).look .away := by
  simp only [feed, raise]
  repeat' split
  all_goals simp

theorem strand_feedEnd (handler : ChunkHandler) :
    (machine.feedEnd handler).strand index = (machine.strand index).look .away := by
  cases handler <;> simp [feedEnd]

theorem strand_discard (handler : ChunkHandler) :
    (machine.discard handler).strand index = (machine.strand index).look .away := by
  cases handler <;> simp [discard]

theorem strand_abandon (body : Nat) :
    (machine.abandon body).strand index = (machine.strand index).look .away := by
  simp only [abandon]
  split <;> simp

theorem step_deliver (other : Nat) (bytes : Bytes)
    (idle : (machine.strand index).attention = .away) :
    Strand.Step index (machine.strand index) ((machine.deliver other bytes).strand index) := by
  simp only [deliver]
  split
  case h_1 => exact .unchanged (by simp [Strand.look_same idle])
  case h_2 fits =>
      have logged : (if (machine.world.accumulator other).isAttached then machine
          else machine.log (.chunkBuffered bytes.length
            ((machine.world.accumulator other).requested bytes))).strand index =
          machine.strand index := by
        split <;> simp
      by_cases own : index = other
      · subst other
        simpa [logged] using Strand.Step.accept bytes idle fits
      · exact .grown (index ≤ other) (by
          simp [strand_setAccumulator_other, own, Ne.symm own, logged, Strand.look_same idle])

theorem step_attach (other : Nat) (handler : ChunkHandler)
    (idle : (machine.strand index).attention = .away) :
    Strand.Step index (machine.strand index) ((machine.attach other handler).strand index) := by
  simp only [attach]
  split
  case isTrue => exact .unchanged (by simp [Strand.look_same idle])
  case isFalse first =>
      by_cases own : index = other
      · subst other
        simpa using Strand.Step.attach handler idle (by simpa using first)
      · exact .grown (index ≤ other) (by
          simp [strand_setAccumulator_other, own, Ne.symm own, Strand.look_same idle])

theorem step_finish (other : Nat) (ending : Ending)
    (idle : (machine.strand index).attention = .away) :
    Strand.Step index (machine.strand index) ((machine.finish other ending).strand index) := by
  simp only [finish]
  split
  case isTrue => exact .unchanged (by simp [Strand.look_same idle])
  case isFalse opened =>
      by_cases own : index = other
      · subst other
        simpa using Strand.Step.close ending idle (by simpa using opened)
      · exact .grown (index ≤ other) (by
          simp [strand_setAccumulator_other, own, Ne.symm own, Strand.look_same idle])

theorem step_drain (other : Nat)
    (draining : (machine.strand index).attention = (Task.drain other).attention index) :
    Strand.Step index (machine.strand index) ((machine.drain other).strand index) := by
  by_cases own : index = other
  · subst other
    have draining : (machine.strand index).attention = .draining := by simpa using draining
    cases stage : (machine.world.accumulator index).stage with
    | parked handler =>
        have step := @Strand.Step.take index _ handler draining stage
        simpa [drain, stage] using step
    | unattached | draining | released =>
        simpa [drain, stage] using @Strand.Step.pass index _ draining (by simp [stage])
  · have idle : (machine.strand index).attention = .away := by
      simpa [Ne.symm own] using draining
    cases stage : (machine.world.accumulator other).stage with
    | parked handler =>
        exact .grown (index ≤ other) (by
          simp [drain, stage, strand_setAccumulator_other, own, Ne.symm own,
            Strand.look_same idle])
    | unattached | draining | released =>
        exact .unchanged (by simp [drain, stage, Strand.look_same idle])

@[simp] theorem strand_letGo_own (handler : ChunkHandler) :
    (machine.letGo index handler).strand index =
      (((machine.strand index).become (machine.world.accumulator index).release).note
        (.released index)).look .away := by
  simp [letGo]

theorem strand_letGo_other {other : Nat} (handler : ChunkHandler) (apart : index ≠ other) :
    (machine.letGo other handler).strand index =
      ((machine.strand index).look .away).grow (index ≤ other) := by
  simp [letGo, strand_setAccumulator_other, apart, Ne.symm apart]

theorem step_next (other : Nat) (handler : ChunkHandler)
    (turning : (machine.strand index).attention = (Task.next other handler).attention index) :
    Strand.Step index (machine.strand index) ((machine.next other handler).strand index) := by
  by_cases own : index = other
  · subst other
    have turning : (machine.strand index).attention = .turning := by simpa using turning
    cases queue : (machine.world.accumulator index).queue with
    | nil => simpa [next, queue] using @Strand.Step.park index _ handler turning queue
    | cons item rest =>
        cases item with
        | chunk bytes =>
            simpa [next, queue] using @Strand.Step.hand index _ bytes rest turning queue
        | ending ending =>
            by_cases wanted : ending = .finished ∧
                (machine.world.accumulator index).wantsEnd = true
            · obtain ⟨rfl, wanted⟩ := wanted
              simpa [next, queue, wanted] using
                @Strand.Step.tell index _ rest turning queue wanted
            · have unwanted : ending = .finished →
                  (machine.world.accumulator index).wantsEnd = false := by
                simpa using wanted
              have step := @Strand.Step.release index _ ending rest turning queue unwanted
              simpa [next, queue, wanted, Accumulator.release] using step
  · have idle : (machine.strand index).attention = .away := by
      simpa [Ne.symm own] using turning
    cases queue : (machine.world.accumulator other).queue with
    | nil =>
        exact .grown (index ≤ other) (by
          simp [next, queue, strand_setAccumulator_other, own, Strand.look_same idle])
    | cons item rest =>
        cases item with
        | chunk bytes =>
            exact .grown (index ≤ other) (by
              simp [next, queue, strand_setAccumulator_other, own, Ne.symm own,
                Strand.look_same idle])
        | ending ending =>
            by_cases wanted : ending = .finished ∧
                (machine.world.accumulator other).wantsEnd = true
            · exact .grown (index ≤ other) (by
                simp [next, queue, wanted, strand_setAccumulator_other, own, Ne.symm own,
                  Strand.look_same idle])
            · exact .grown (index ≤ other) (by
                simp [next, queue, wanted, strand_letGo_other, strand_setAccumulator_other, own,
                  Strand.look_same idle])

theorem step_perform (task : Task)
    (focus : (machine.strand index).attention = task.attention index) :
    Strand.Step index (machine.strand index) ((machine.perform task).strand index) := by
  cases task with
  | deliver other bytes => exact machine.step_deliver index other bytes focus
  | attach other handler => exact machine.step_attach index other handler focus
  | finish other ending => exact machine.step_finish index other ending focus
  | drain other => exact machine.step_drain index other focus
  | next other handler => exact machine.step_next index other handler focus
  | settle promise outcome => exact .quiet (machine.strand_settle index _ _) focus
  | dispatch promise outcome waiting => exact .quiet (machine.strand_dispatch index _ _ _) focus
  | tell handler outcome => exact .quiet (machine.strand_tell index _ _) focus
  | register promise handler => exact .quiet (machine.strand_register index _ _) focus
  | forget handlers => exact .quiet (machine.strand_forget index _) focus
  | release promise => exact .quiet (machine.strand_release index _) focus
  | feed handler bytes => exact .quiet (machine.strand_feed index _ _) focus
  | feedEnd handler => exact .quiet (machine.strand_feedEnd index _) focus
  | discard handler => exact .quiet (machine.strand_discard index _) focus
  | abandon body => exact .quiet (machine.strand_abandon index _) focus

/-! Frames.  A frame is met again where it was pushed, so the strand before is
that of the machine with the frame on top. -/

@[simp] theorem strand_control (control : Control) :
    ({ machine with control } : Machine).strand index =
      (machine.strand index).look (control.attention index) := rfl

attribute [simp] Control.attention

theorem strand_leave (body : Nat) {after : Frame} {otherwise : Control}
    (frame : after.handlerCall? index = none) (away : otherwise.attention index = .away) :
    (machine.leave body after otherwise).strand index = (machine.strand index).look .away := by
  simp only [leave]
  split
  case isTrue => simp [frame, -Frame.handlerCall?]
  case isFalse =>
      refine (strand_control _ index otherwise).trans ?_
      rw [away, strand_setBody]

theorem step_answer (other : Nat) (handler : ChunkHandler) (reply : Reply)
    (idle : (machine.strand index).attention = .away) :
    Strand.Step index ((machine.push (.fed other handler)).strand index)
      ((machine.resume reply (.fed other handler)).strand index) := by
  by_cases own : index = other
  · subst other
    have step (wantsEnd : Bool) := @Strand.Step.answer index
      ((machine.strand index).enter .chunk) wantsEnd (machine.strand index).calls idle rfl
    cases reply with
    | flag wantsEnd => simpa [resume] using step wantsEnd
    | _ => simpa [resume] using step true
  · refine .grown (index ≤ other) ?_
    cases reply <;>
      simp [resume, strand_setAccumulator_other, own, Ne.symm own, Strand.look_same idle]

theorem step_dismiss (other : Nat) (handler : ChunkHandler) (reply : Reply)
    (idle : (machine.strand index).attention = .away) :
    Strand.Step index ((machine.push (.fedEnd other handler)).strand index)
      ((machine.resume reply (.fedEnd other handler)).strand index) := by
  simp only [resume]
  by_cases own : index = other
  · subst other
    have step := @Strand.Step.dismiss index
      ((machine.strand index).enter .ending) (machine.strand index).calls idle rfl
    simpa using step
  · exact .grown (index ≤ other) (by
      simp [strand_letGo_other, own, Ne.symm own, Strand.look_same idle])

theorem step_resume (frame : Frame) (reply : Reply)
    (idle : (machine.strand index).attention = .away) :
    Strand.Step index ((machine.push frame).strand index)
      ((machine.resume reply frame).strand index) := by
  cases frame with
  | fed other handler => exact machine.step_answer index other handler reply idle
  | fedEnd other handler => exact machine.step_dismiss index other handler reply idle
  | leaving body => exact .quiet (machine.strand_leave index body rfl rfl) idle
  | client invocation =>
      exact .quiet ((machine.push (.client invocation)).strand_control index _) idle
  | replying _ | forgetting _ | dispatching _ _ _ | resolving _ | dropping
  | releasing _ | released | finishing _ _ | settling _ _ | texting _ _ | streaming _ _
  | returning _ _ | rethrowing _ =>
      refine .unchanged ?_
      simp only [resume]
      repeat' split
      all_goals simp [Strand.look_same idle]

theorem step_collapse (other : Nat) (frame : Frame) (call : HandlerCall) (handler) (message)
    (met : frame.handlerCall? index = if other = index then some call else none)
    (idle : (machine.strand index).attention = .away) :
    Strand.Step index ((machine.push frame).strand index)
      ((((machine.collapse other).push (.rethrowing message)).turn
        (.discard handler)).strand index) := by
  by_cases own : index = other
  · subst other
    have step := @Strand.Step.collapse index
      ((machine.strand index).enter call) call (machine.strand index).calls idle rfl
    rw [strand_push, met]
    simpa [collapse] using step
  · rw [strand_push, met]
    exact .grown (index ≤ other) (by
      simp [collapse, strand_setAccumulator_other, own, Ne.symm own, Strand.look_same idle])

theorem step_unwind (frame : Frame) (message : String)
    (idle : (machine.strand index).attention = .away) :
    Strand.Step index ((machine.push frame).strand index)
      ((machine.unwind message frame).strand index) := by
  cases frame with
  | fed other handler => exact machine.step_collapse index other _ .chunk handler message rfl idle
  | fedEnd other handler => exact machine.step_collapse index other _ .ending handler message rfl idle
  | leaving body => exact .quiet (machine.strand_leave index body rfl rfl) idle
  | client invocation =>
      exact .quiet ((machine.push (.client invocation)).strand_control index _) idle
  | replying _ | forgetting _ | dispatching _ _ _ | resolving _ | dropping
  | releasing _ | released | finishing _ _ | settling _ _ | texting _ _ | streaming _ _
  | returning _ _ | rethrowing _ =>
      refine .unchanged ?_
      simp [unwind, Strand.look_same idle]

theorem strand_addAccumulator_other (accumulator : Accumulator)
    (apart : index ≠ machine.world.accumulators.size) :
    (machine.withWorld (machine.world.addAccumulator accumulator)).strand index =
      machine.strand index := by
  have made : index < machine.world.accumulators.size + 1 ↔
      index < machine.world.accumulators.size := by
    omega
  simp [strand, withWorld, World.addAccumulator, World.accumulator, Store.get_add, apart,
    handlerCalls, streamPast, made]

theorem strand_addAccumulator_own (accumulator : Accumulator) :
    (machine.withWorld (machine.world.addAccumulator accumulator)).strand
        machine.world.accumulators.size =
      (machine.strand machine.world.accumulators.size).become accumulator := by
  simp [strand, withWorld, World.addAccumulator, World.accumulator, Store.get_add,
    handlerCalls, streamPast, Strand.become]

theorem step_newAccumulator (ceiling : Option Nat)
    (idle : (machine.strand index).attention = .away) :
    Strand.Step index (machine.strand index)
      (((machine.withWorld (machine.world.addAccumulator (Accumulator.new ceiling))).strand
        index).look .away) := by
  by_cases own : index = machine.world.accumulators.size
  · subst own
    rw [strand_addAccumulator_own]
    have away : ((machine.strand machine.world.accumulators.size).become
        (Accumulator.new ceiling)).attention = .away := idle
    rw [Strand.look_same away]
    exact .make ceiling (by simp [strand])
  · exact .unchanged (by rw [strand_addAccumulator_other _ _ _ own, Strand.look_same idle])

theorem step_begin (call : Call) (idle : (machine.strand index).attention = .away) :
    Strand.Step index (machine.strand index) ((machine.begin call).strand index) := by
  cases call with
  | newAccumulator ceiling => exact machine.step_newAccumulator index ceiling idle
  | newBody config =>
      simpa [begin, newBody] using machine.step_newAccumulator index config.pendingCeiling idle
  | dropSender body => exact .quiet (strand_leave _ index body rfl rfl) idle
  | newHandler handler =>
      refine .unchanged ?_
      cases handler <;> simp [begin, newHandler, Strand.look_same idle]
  | newPromise | newSettled _ | settle _ _ | cancel _ _ | dropSink _ | listen _ _ _ | log _ _
  | map _ _ | deliver _ _ | attach _ _ | finish _ _ | send _ _ | complete _ _ | fail _ _
  | text _ _ | chunks _ | poll _ | dropStream _ | tell _ _ | feed _ _ | feedEnd _ | discard _ =>
      refine .unchanged ?_
      simp [begin, map, hold, text, chunks, takeHandler, Strand.look_same idle]

end Machine

/-- Every move of the machine is a step of the strand of every accumulator. -/
theorem Strand.step_of_moved {before after : Machine} (moved : before.Moved after) (index : Nat) :
    Strand.Step index (before.strand index) (after.strand index) := by
  cases moved with
  | rest => exact .unchanged rfl
  | perform working => exact before.step_perform index _ (by simp [Machine.strand, working])
  | @resume below reply frame replied =>
      exact below.step_resume index frame reply (by simp [Machine.strand, replied])
  | @unwind below message frame panicking =>
      exact below.step_unwind index frame message (by simp [Machine.strand, panicking])
  | begin idle => exact before.step_begin index _ (by simp [Machine.strand, idle])
  | surface empty ceased =>
      have away : (before.strand index).attention = .away := by
        cases control : before.control with
        | task task => simp [control, Control.isOver] at ceased
        | _ => simp [Machine.strand, control]
      exact .quiet (before.strand_control index _) away
  | describe description idle => exact .unchanged rfl
  | @answer below sight invocation reply idle =>
      have away : (below.strand index).attention = .away := by simp [Machine.strand, idle]
      exact .quiet (below.strand_control index _) away
  | @panic below sight invocation message idle =>
      have away : (below.strand index).attention = .away := by simp [Machine.strand, idle]
      exact .quiet (below.strand_control index _) away

end Handoff
