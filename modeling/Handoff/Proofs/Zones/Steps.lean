import Handoff.Proofs.Courses
import Handoff.Proofs.Zones.Zone

namespace Handoff

/-! Work stays in its zone.

Each operation that is given objects of a zone goes on inside it.  A move that
asks for objects of the zone only is therefore work in the zone, whatever it
leads to. -/

/-- What was made in between is in the zone. -/
structure World.Fresh (zone : Zone) (before after : World) : Prop where
  promises : ∀ index, before.promises.size ≤ index → index < after.promises.size →
    zone.promise index
  accumulators : ∀ index, before.accumulators.size ≤ index → index < after.accumulators.size →
    zone.accumulator index
  bodies : ∀ index, before.bodies.size ≤ index → index < after.bodies.size → zone.body index
  channels : ∀ index, before.channels.size ≤ index → index < after.channels.size →
    zone.channel index

/-- A call that names objects of the zone only.  Handlers may be registered with
any promise. -/
def Call.In (zone : Zone) : Call → Prop
  | .settle promise _ | .cancel promise _ | .dropSink promise
  | .newHandler (.collecting _ _ promise) => zone.promise promise
  | .deliver accumulator _ | .attach accumulator _ | .finish accumulator _ =>
      zone.accumulator accumulator
  | .send body _ | .complete body _ | .fail body _ | .dropSender body | .text body _
  | .chunks body => zone.body body
  | .poll channel | .dropStream channel => zone.channel channel
  | _ => True

def Move.In (zone : Zone) (world : World) : Move → Prop
  | .call request => world.admits request = true → request.In zone
  | .panic _ => zone.panics
  | _ => True

namespace Machine.Works

variable {zone : Zone} {base : List Frame} {start machine : Machine}

theorem settle (works : Works zone base start machine) {index : Nat} (outcome : Outcome)
    (own : zone.promise index) : Inside zone base start (machine.settle index outcome) := by
  simp only [Machine.settle]
  split
  case h_1 => exact (works.log _).reply _
  case h_2 waiting pending =>
      have inside : ∀ registration ∈ waiting, registration.handler.In zone := by
        intro registration member
        apply works.world.waiting index own registration
        rw [Promise.waiting, pending]
        exact member
      have stored := works.setPromise ((machine.world.promise index).settle outcome) own
        (by simp [Promise.waiting, Promise.settle])
      exact ((stored.note (.settled index outcome) trivial).log _).turn inside

theorem dispatch (works : Works zone base start machine) (index : Nat) (outcome : Outcome)
    {waiting : List Registration} (inside : ∀ registration ∈ waiting, registration.handler.In zone) :
    Inside zone base start (machine.dispatch index outcome waiting) := by
  cases waiting with
  | nil => exact works.reply _
  | cons registration waiting =>
      obtain ⟨first, rest⟩ := List.forall_mem_cons.mp inside
      have told := works.note (.told index registration.number outcome)
        trivial
      have held : ∀ handler ∈ [registration.handler], handler.In zone := by simpa using first
      have pushed := told.push (.dispatching index outcome waiting) rest
      exact (pushed.push (.forgetting [registration.handler]) held).turn first

theorem tell (works : Works zone base start machine) {handler : CompletionHandler}
    (outcome : Outcome) (inside : handler.In zone) :
    Inside zone base start (machine.tell handler outcome) := by
  cases handler with
  | client handler hearing =>
      simp only [Machine.tell]
      split
      · exact works.invoke _
      · exact works.reply _
  | logging name => exact (works.log _).reply _
  | mapping function derived =>
      cases outcome with
      | resolved value => exact (works.push (.resolving derived) inside).invoke _
      | failed cause => exact works.turn inside
      | cancelled force => exact works.turn inside
  | aborting accumulator =>
      cases outcome with
      | resolved value => exact works.reply _
      | failed cause => exact works.turn inside
      | cancelled force => exact works.turn inside
  | passing promise =>
      cases outcome with
      | resolved value => exact works.reply _
      | failed cause => exact works.turn inside
      | cancelled force => exact works.turn inside
  | forwarding channel => exact (works.setChannel _ inside).reply _

theorem register (works : Works zone base start machine) (index : Nat)
    {handler : CompletionHandler} (inside : handler.In zone) :
    Inside zone base start (machine.register index handler) := by
  have noted := (works.countRegistrations (machine.world.registrations + 1)).note
    (.registered index machine.world.registrations) trivial
  simp only [Machine.register]
  split
  case h_1 => exact (noted.enqueue index inside).reply _
  case h_2 outcome settled =>
      have told := noted.note (.told index machine.world.registrations outcome)
        trivial
      have held : ∀ other ∈ [handler], other.In zone := by simpa using inside
      exact (told.push (.forgetting [handler]) held).turn inside

theorem forget (works : Works zone base start machine) {handlers : List CompletionHandler}
    (inside : ∀ handler ∈ handlers, handler.In zone) :
    Inside zone base start (machine.forget handlers) := by
  cases handlers with
  | nil => exact works.reply _
  | cons handler rest =>
      obtain ⟨first, others⟩ := List.forall_mem_cons.mp inside
      have held : Works zone base start
          (if rest.isEmpty then machine else machine.push (.forgetting rest)) := by
        split
        · exact works
        · exact works.push _ others
      cases handler with
      | mapping function derived => exact held.turn first
      | passing promise => exact held.turn first
      | forwarding channel => exact (held.setChannel _ first).reply _
      | _ => exact held.reply _

theorem release (works : Works zone base start machine) {index : Nat} (own : zone.promise index) :
    Inside zone base start (machine.release index) := by
  have less := works.setPromise ((machine.world.promise index).removeShare) own
    (works.world.waiting index own)
  simp only [Machine.release]
  split
  · exact (less.push .dropping (by simp [Frame.In])).turn own
  · exact less.reply _

theorem deliver (works : Works zone base start machine) {index : Nat} (bytes : Bytes)
    (own : zone.accumulator index) : Inside zone base start (machine.deliver index bytes) := by
  have parked := works.world.parked index own
  simp only [Machine.deliver]
  split
  case h_1 => exact works.reply _
  case h_2 =>
      have logged : Works zone base start
          (if (machine.world.accumulator index).isAttached then machine
          else machine.log (.chunkBuffered bytes.length
            ((machine.world.accumulator index).requested bytes))) := by
        split
        · exact works
        · exact works.log _
      have stored := logged.setAccumulator
        ((machine.world.accumulator index).enqueue bytes) own parked
      have noted := stored.note (.accepted index bytes) own
      exact (noted.push (.replying .ok) (by simp [Frame.In])).turn own

theorem attach (works : Works zone base start machine) {index : Nat} {handler : ChunkHandler}
    (own : zone.accumulator index) (inside : handler.In zone) :
    Inside zone base start (machine.attach index handler) := by
  simp only [Machine.attach]
  split
  · exact (works.push (.replying _) (by simp [Frame.In])).turn inside
  · have stored := works.setAccumulator
      ((machine.world.accumulator index).park handler) own
      (by simp [Accumulator.park, inside])
    exact ((stored.log _).push (.replying .ok) (by simp [Frame.In])).turn own

theorem finish (works : Works zone base start machine) {index : Nat} (ending : Ending)
    (own : zone.accumulator index) : Inside zone base start (machine.finish index ending) := by
  simp only [Machine.finish]
  split
  · exact works.reply _
  · have stored := works.setAccumulator
      ((machine.world.accumulator index).close ending) own
      (works.world.parked index own)
    have noted := stored.note (.closed index ending) own
    exact (noted.push (.replying .ok) (by simp [Frame.In])).turn own

theorem drain (works : Works zone base start machine) {index : Nat}
    (own : zone.accumulator index) : Inside zone base start (machine.drain index) := by
  simp only [Machine.drain]
  split
  case h_1 handler parked =>
      have stored := works.setAccumulator
        { machine.world.accumulator index with stage := .draining } own (by simp)
      exact stored.turn ⟨own, works.world.parked index own handler parked⟩
  all_goals exact works.reply _

theorem letGo (works : Works zone base start machine) {index : Nat} {handler : ChunkHandler}
    (own : zone.accumulator index) (inside : handler.In zone) :
    Inside zone base start (machine.letGo index handler) := by
  have stored := works.setAccumulator
    ((machine.world.accumulator index).release) own (by simp [Accumulator.release])
  have noted := stored.note (.released index) own
  exact (noted.push .released (by simp [Frame.In])).turn inside

end Machine.Works

namespace ChunkHandler

variable {zone : Zone} {handler : ChunkHandler}

theorem In.take (inside : handler.In zone) (bytes : Bytes) : (handler.take bytes).In zone := by
  cases handler with
  | collecting collector =>
      have same : (collector.take bytes).promise = collector.promise := by
        unfold Collector.take
        repeat' split
        all_goals rfl
      simpa [ChunkHandler.take, ChunkHandler.In, same] using inside
  | _ => exact inside

theorem In.close (inside : handler.In zone) : handler.close.In zone := by
  cases handler <;> exact inside

end ChunkHandler

namespace Machine.Works

variable {zone : Zone} {base : List Frame} {start machine : Machine}

theorem next (works : Works zone base start machine) {index : Nat} {handler : ChunkHandler}
    (own : zone.accumulator index) (inside : handler.In zone) :
    Inside zone base start (machine.next index handler) := by
  have parked := works.world.parked index own
  simp only [Machine.next]
  split
  case h_1 =>
      have stored := works.setAccumulator
        ((machine.world.accumulator index).park handler) own
        (by simp [Accumulator.park, inside])
      exact stored.reply _
  case h_2 bytes rest first =>
      have stored := works.setAccumulator
        ((machine.world.accumulator index).dequeue bytes rest) own parked
      have noted := stored.note (.handed index bytes) own
      exact (noted.push (.fed index (handler.take bytes))
        ⟨own, inside.take bytes⟩).turn inside
  case h_3 ending rest first =>
      have stored := works.setAccumulator
        { machine.world.accumulator index with queue := rest } own parked
      split
      · have noted := stored.note (.ended index) own
        exact (noted.push (.fedEnd index handler.close) ⟨own, inside.close⟩).turn inside
      · exact stored.letGo own inside

theorem logs (works : Works zone base start machine) (notices : List Notice) :
    Works zone base start (notices.foldl Machine.log machine) := by
  induction notices generalizing machine with
  | nil => exact works
  | cons notice rest ih => exact ih (works.log notice)

theorem feed (works : Works zone base start machine) {handler : ChunkHandler} (bytes : Bytes)
    (inside : handler.In zone) : Inside zone base start (machine.feed handler bytes) := by
  cases handler with
  | client handler => exact works.invoke _
  | logging name => exact (works.log _).reply _
  | forwarding channel => exact (works.setChannel _ inside).reply _
  | collecting collector =>
      simp only [Machine.feed]
      split
      · exact works.reply _
      · split
        · exact (works.logs _).reply _
        · have raised := works.countCauses (machine.world.causes + 1)
          exact (raised.push (.replying _) (by simp [Frame.In])).turn inside

theorem feedEnd (works : Works zone base start machine) {handler : ChunkHandler}
    (inside : handler.In zone) : Inside zone base start (machine.feedEnd handler) := by
  cases handler with
  | client handler => exact works.invoke _
  | logging name => exact (works.log _).reply _
  | collecting collector => exact works.turn inside
  | forwarding channel => exact (works.setChannel _ inside).reply _

theorem discard (works : Works zone base start machine) {handler : ChunkHandler}
    (inside : handler.In zone) : Inside zone base start (machine.discard handler) := by
  cases handler with
  | client handler => exact (works.note (.dropped handler) trivial).reply _
  | logging name => exact works.reply _
  | collecting collector => exact works.turn inside
  | forwarding channel => exact (works.setChannel _ inside).reply _

theorem collapse (works : Works zone base start machine) {index : Nat}
    (own : zone.accumulator index) : Works zone base start (machine.collapse index) := by
  have stored := works.setAccumulator
    ((machine.world.accumulator index).collapse) own
    (by simp [Accumulator.collapse, Accumulator.release])
  exact (stored.note (.collapsed index) own).log _

theorem abandon (works : Works zone base start machine) {body : Nat}
    (own : machine.world.Holds zone body) : Inside zone base start (machine.abandon body) := by
  obtain ⟨accumulator, promise⟩ := works.world.bodies body own
  simp only [Machine.abandon]
  split
  · exact works.turn promise
  · exact (works.push (.releasing _) promise).turn accumulator

theorem perform (works : Works zone base start machine) {task : Task}
    (inside : task.In zone machine.world) : Inside zone base start (machine.perform task) := by
  cases task with
  | settle promise outcome => exact works.settle outcome inside
  | dispatch promise outcome waiting => exact works.dispatch promise outcome inside
  | tell handler outcome => exact works.tell outcome inside
  | register promise handler => exact works.register promise inside
  | forget handlers => exact works.forget inside
  | release promise => exact works.release inside
  | deliver accumulator bytes => exact works.deliver bytes inside
  | attach accumulator handler => exact works.attach inside.1 inside.2
  | finish accumulator ending => exact works.finish ending inside
  | drain accumulator => exact works.drain inside
  | next accumulator handler => exact works.next inside.1 inside.2
  | feed handler bytes => exact works.feed bytes inside
  | feedEnd handler => exact works.feedEnd inside
  | discard handler => exact works.discard inside
  | abandon body => exact works.abandon inside

theorem leave (works : Works zone base start machine) {index : Nat} {after : Frame}
    {otherwise : Control} (own : machine.world.Holds zone index)
    (pushed : ∀ world, after.In zone world) (resting : ∀ world, otherwise.In zone world) :
    Inside zone base start (machine.leave index after otherwise) := by
  have stored := works.setBody (machine.world.body index).removeSender own rfl rfl
  have holds : (machine.setBody index (machine.world.body index).removeSender).world.Holds
      zone index := by
    refine ⟨own.1, ?_⟩
    simp only [Machine.setBody, withWorld, World.setBody, Store.size_set]
    omega
  simp only [Machine.leave]
  split
  · exact (stored.push after (pushed _)).turn holds
  · exact stored.setControl (resting _)

theorem resume (works : Works zone base start machine) (reply : Reply) {frame : Frame}
    (inside : frame.In zone machine.world) : Inside zone base start (machine.resume reply frame) := by
  cases frame with
  | client invocation => exact (works.push (.client invocation) inside).setControl trivial
  | replying reply => exact works.reply reply
  | forgetting handlers => exact works.turn inside
  | dispatching promise outcome waiting => exact works.turn inside
  | resolving derived =>
      cases reply with
      | value value => exact works.turn inside
      | _ => exact works.reply _
  | dropping =>
      simp only [Machine.resume]
      split
      · exact (works.log _).reply _
      · exact works.reply _
  | releasing promise => exact works.turn inside
  | fed index handler =>
      obtain ⟨own, inside⟩ := inside
      have stored (wantsEnd : Bool) := works.setAccumulator
        { machine.world.accumulator index with wantsEnd } own (works.world.parked index own)
      exact ((stored _).note (.answered index _) own).turn ⟨own, inside⟩
  | fedEnd index handler => exact works.letGo inside.1 inside.2
  | released => exact (works.log _).reply _
  | finishing promise value =>
      simp only [Machine.resume]
      split
      · exact works.reply _
      · exact works.turn inside
  | settling promise outcome => exact works.turn inside
  | leaving body => exact works.leave inside (by simp [Frame.In]) (by simp [Control.In])
  | texting body derived =>
      simp only [Machine.resume]
      split
      · exact (works.push (.replying _) (by simp [Frame.In])).turn inside
      · exact (works.push (.replying _) (by simp [Frame.In])).turn inside
  | streaming body channel =>
      simp only [Machine.resume]
      split
      · exact (works.setChannel _ inside).reply _
      · exact (works.push (.replying _) (by simp [Frame.In])).turn inside
  | returning index handler =>
      exact (works.setHandler index fun held same => Option.some.inj same ▸ inside).reply reply
  | rethrowing message => exact works.setControl inside

theorem unwind (works : Works zone base start machine) {message : String} {frame : Frame}
    (panics : zone.panics) (panicking : machine.control = .panic message)
    (inside : frame.In zone machine.world) :
    Inside zone base start (machine.unwind message frame) := by
  have still : machine.control.In zone machine.world := by
    rw [panicking]
    exact panics
  have rethrown : Works zone base start (machine.push (.rethrowing message)) :=
    works.push _ panics
  cases frame with
  | client invocation => exact (works.push (.client invocation) inside).setControl trivial
  | forgetting handlers => exact rethrown.turn inside
  | dispatching promise outcome waiting =>
      refine rethrown.turn fun handler member => ?_
      obtain ⟨registration, waits, rfl⟩ := List.mem_map.mp member
      exact inside registration waits
  | fed index handler =>
      exact ((works.collapse inside.1).push (.rethrowing message) panics).turn inside.2
  | fedEnd index handler =>
      exact ((works.collapse inside.1).push (.rethrowing message) panics).turn inside.2
  | releasing promise => exact rethrown.turn inside
  | leaving body => exact works.leave inside (fun _ => panics) (fun _ => panics)
  | texting body derived => exact rethrown.turn inside
  | streaming body channel => exact ⟨works.setChannel _ inside, still⟩
  | returning index handler =>
      exact ⟨works.setHandler index fun held same => Option.some.inj same ▸ inside, still⟩
  | rethrowing other => exact works.setControl panics
  | _ => exact ⟨works, still⟩

end Machine.Works

end Handoff
