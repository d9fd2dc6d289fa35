import Handoff.Proofs.Zones.Steps

namespace Handoff

/-! Moves and courses in a zone.

Objects get the next free number when they are made, so a zone that contains
every number which is still free contains whatever is made later.  Client code
that asks for objects of such a zone only keeps all work in it. -/

namespace World

/-- Every number that is still free is in the zone. -/
structure Open (zone : Zone) (world : World) : Prop where
  promises : ∀ index, world.promises.size ≤ index → zone.promise index
  accumulators : ∀ index, world.accumulators.size ≤ index → zone.accumulator index
  bodies : ∀ index, world.bodies.size ≤ index → zone.body index
  channels : ∀ index, world.channels.size ≤ index → zone.channel index

variable {zone : Zone} {before after : World}

theorem Open.grown (opened : before.Open zone) (grown : before.Grown after) : after.Open zone where
  promises index free := opened.promises index (Nat.le_trans grown.promises free)
  accumulators index free := opened.accumulators index (Nat.le_trans grown.accumulators free)
  bodies index free := opened.bodies index (Nat.le_trans grown.bodies free)
  channels index free := opened.channels index (Nat.le_trans grown.channels free)

theorem Open.fresh (opened : before.Open zone) (after : World) : before.Fresh zone after where
  promises index free _ := opened.promises index free
  accumulators index free _ := opened.accumulators index free
  bodies index free _ := opened.bodies index free
  channels index free _ := opened.channels index free

end World

theorem World.lt_of_owned {world : World} {body : Nat} (owned : (world.body body).owned = true) :
    body < world.bodies.size := by
  by_cases made : body < world.bodies.size
  · exact made
  · have blank : world.body body = default := world.bodies.get_of_size_le (Nat.le_of_not_lt made)
    rw [blank] at owned
    cases owned

namespace Machine

namespace Works

variable {zone : Zone} {base : List Frame} {start machine : Machine}

theorem hold (works : Works zone base start machine) {body : Nat}
    (own : machine.world.Holds zone body) : Works zone base start (machine.hold body) := by
  have stored := works.setBody (machine.world.body body).addSender own rfl rfl
  refine stored.push (.leaving body) ⟨own.1, ?_⟩
  have made := own.2
  simp only [Machine.setBody, withWorld, World.setBody, Store.size_set]
  omega

theorem takeHandler (works : Works zone base start machine) (index : Nat) :
    Works zone base start (machine.takeHandler index).2 ∧ (machine.takeHandler index).1.In zone := by
  refine ⟨works.setHandler index (by simp), ?_⟩
  cases held : machine.world.handler? index with
  | none => simp [Machine.takeHandler, held, default, ChunkHandler.In]
  | some handler => simpa [Machine.takeHandler, held] using works.world.held index handler held

theorem newHandler (works : Works zone base start machine) {handler : NewHandler}
    (own : (Call.newHandler handler).In zone) :
    Inside zone base start (machine.newHandler handler) := by
  cases handler with
  | client handler =>
      have made : (ChunkHandler.client handler).In zone := trivial
      exact (works.addHandler made).reply _
  | logging name =>
      have made : (ChunkHandler.logging name).In zone := trivial
      exact (works.addHandler made).reply _
  | collecting charset capacity promise =>
      have own : zone.promise promise := own
      have made : (ChunkHandler.collecting (.new charset capacity promise)).In zone := own
      exact ((works.addHandler made).setPromise (machine.world.promise promise).addShare own
        (works.world.waiting promise own)).reply _

theorem newBody (works : Works zone base start machine) (config : Config)
    (fresh : machine.world.Fresh zone (machine.newBody config).world) :
    Inside zone base start (machine.newBody config) := by
  have accumulator := fresh.accumulators machine.world.accumulators.size (Nat.le_refl _)
    (Nat.lt_of_lt_of_eq (Nat.lt_succ_self _) (Store.size_add _ _).symm)
  have promise := fresh.promises machine.world.promises.size (Nat.le_refl _)
    (Nat.lt_of_lt_of_eq (Nat.lt_succ_self _) (Store.size_add _ _).symm)
  have body := fresh.bodies machine.world.bodies.size (Nat.le_refl _)
    (Nat.lt_of_lt_of_eq (Nat.lt_succ_self _) (Store.size_add _ _).symm)
  have streams := works.addAccumulator (.new config.pendingCeiling) accumulator rfl
  have promises := streams.addPromise (.inside 1) promise rfl
  have bodies := promises.addBody ⟨_, _, config, 1, true⟩ body accumulator promise
  exact (bodies.push (.replying _) trivial).turn accumulator

theorem begin (works : Works zone base start machine) {call : Call}
    (admitted : machine.world.admits call = true) (own : call.In zone)
    (fresh : machine.world.Fresh zone (machine.begin call).world) :
    Inside zone base start (machine.begin call) := by
  have promised (value : Promise)
      (added : (machine.begin call).world = machine.world.addPromise value)
      (unheard : value.waiting = []) :
      zone.promise machine.world.promises.size ∧
        Works zone base start (machine.withWorld (machine.world.addPromise value)) := by
    have grown : machine.world.promises.size < (machine.begin call).world.promises.size := by
      rw [added]
      exact Nat.lt_of_lt_of_eq (Nat.lt_succ_self _) (Store.size_add _ _).symm
    have free := fresh.promises _ (Nat.le_refl _) grown
    exact ⟨free, works.addPromise value free unheard⟩
  have held {body : Nat} (owned : (machine.world.body body).owned = true) (own : zone.body body) :
      machine.world.Holds zone body := ⟨own, World.lt_of_owned owned⟩
  cases call with
  | newPromise => exact (promised .forClient rfl rfl).2.reply _
  | newSettled outcome => exact (promised (.done outcome) rfl rfl).2.reply _
  | settle promise outcome => exact works.turn own
  | cancel promise force => exact works.turn own
  | dropSink promise =>
      have own : zone.promise promise := own
      exact (works.setPromise { machine.world.promise promise with owned := false } own
        (works.world.waiting promise own)).turn own
  | listen promise handler hearing => exact works.turn trivial
  | log promise name => exact works.turn trivial
  | map promise function =>
      obtain ⟨derived, made⟩ := promised (.inside 1) rfl rfl
      exact (made.push (.replying _) trivial).turn derived
  | newAccumulator ceiling =>
      have free := fresh.accumulators machine.world.accumulators.size (Nat.le_refl _)
        (by simp [Machine.begin, Machine.reply, withWorld, World.addAccumulator])
      exact (works.addAccumulator (.new ceiling) free rfl).reply _
  | newHandler handler => exact works.newHandler own
  | deliver accumulator bytes => exact works.turn own
  | attach accumulator handler =>
      obtain ⟨taken, inside⟩ := works.takeHandler handler
      exact taken.turn ⟨own, inside⟩
  | finish accumulator ending => exact works.turn own
  | newBody config => exact works.newBody config fresh
  | send body bytes =>
      have held := held admitted own
      exact (works.hold held).turn (works.world.bodies body held).1
  | complete body value =>
      have held := held admitted own
      obtain ⟨accumulator, promise⟩ := works.world.bodies body held
      exact ((works.hold held).push (.finishing _ value) promise).turn accumulator
  | fail body outcome =>
      have held := held (Bool.and_eq_true_iff.mp admitted).1 own
      obtain ⟨accumulator, promise⟩ := works.world.bodies body held
      exact ((works.hold held).push (.settling _ outcome) promise).turn accumulator
  | dropSender body =>
      have held := held admitted own
      have stored := works.setBody { machine.world.body body with owned := false } held rfl rfl
      refine stored.leave ⟨own, ?_⟩ (by simp [Frame.In]) (by simp [Control.In])
      have made := held.2
      simp only [Machine.setBody, withWorld, World.setBody, Store.size_set]
      omega
  | text body charset =>
      have held : machine.world.Holds zone body := ⟨own, by simpa [World.admits] using admitted⟩
      obtain ⟨derived, made⟩ := promised (.inside 2) rfl rfl
      exact (made.push (.texting body _) derived).turn ⟨(works.world.bodies body held).1, derived⟩
  | chunks body =>
      have held : machine.world.Holds zone body := ⟨own, by simpa [World.admits] using admitted⟩
      have free := fresh.channels machine.world.channels.size (Nat.le_refl _)
        (Nat.lt_of_lt_of_eq (Nat.lt_succ_self _) (Store.size_add _ _).symm)
      exact ((works.addChannel _ free).push (.streaming body _) free).turn
        ⟨(works.world.bodies body held).1, free⟩
  | poll channel =>
      have own : zone.channel channel := own
      exact ((works.setChannel _ own).note (.polled channel _) own).reply _
  | dropStream channel => exact (works.setChannel _ own).reply _
  | tell handler outcome =>
      have inside : handler.In zone := by
        cases handler with
        | client handler hearing => trivial
        | logging name => trivial
        | _ => cases admitted
      exact works.turn inside
  | feed handler bytes =>
      obtain ⟨taken, inside⟩ := works.takeHandler handler
      exact (taken.push (.returning handler _) (inside.take bytes)).turn inside
  | feedEnd handler =>
      obtain ⟨taken, inside⟩ := works.takeHandler handler
      have returning := taken.push (.returning handler _) inside.close
      exact (returning.push (.replying .done) trivial).turn inside
  | discard handler =>
      obtain ⟨taken, inside⟩ := works.takeHandler handler
      exact taken.turn inside

end Works

section Acts

variable {zone : Zone} {base : List Frame} {start machine : Machine}

theorem Works.pop (works : Works zone base start machine) {frame : Frame} {below : List Frame}
    (top : machine.stack = frame :: below) (above : machine.stack ≠ base) :
    frame.In zone machine.world ∧ Works zone base start { machine with stack := below } := by
  obtain ⟨world, ⟨frames, stack, inside⟩, kept⟩ := works
  cases frames with
  | nil => exact absurd stack above
  | cons first rest =>
      rw [stack] at top
      obtain ⟨rfl, rfl⟩ := List.cons.inj top
      obtain ⟨first, rest⟩ := List.forall_mem_cons.mp inside
      exact ⟨first, world, ⟨_, rfl, rest⟩, kept.accumulators, kept.bodies, kept.promises,
        kept.channels, kept.grown⟩

theorem Inside.tick (inside : Inside zone base start machine)
    (above : machine.stack ≠ [] → machine.stack = base → machine.control.isOver = false) :
    Inside zone base start machine.tick := by
  have higher {frame : Frame} {below : List Frame} (top : machine.stack = frame :: below)
      (ceased : machine.control.isOver = true) : machine.stack ≠ base := by
    intro bottom
    simp [above (by simp [top]) bottom] at ceased
  have entered := inside.control
  unfold Machine.tick
  split
  case h_1 => exact inside
  case h_2 => exact inside
  case h_3 task working =>
      rw [working] at entered
      exact inside.perform entered
  case h_4 reply replied =>
      split
      case h_1 => exact inside.setControl trivial
      case h_2 frame below top =>
          obtain ⟨own, rest⟩ := inside.pop top (higher top (by simp [replied, Control.isOver]))
          exact rest.resume reply own
  case h_5 message panicking =>
      rw [panicking] at entered
      split
      case h_1 => exact inside.setControl trivial
      case h_2 frame below top =>
          obtain ⟨own, rest⟩ := inside.pop top (higher top (by simp [panicking, Control.isOver]))
          exact rest.unwind entered panicking own

theorem Works.describe (works : Works zone base start machine) (description : Cause.Description) :
    Works zone base start (machine.describe description).2 :=
  works.countCauses _

theorem Inside.act (inside : Inside zone base start machine) {move : Move}
    (above : machine.stack ≠ [] → machine.stack = base →
      machine.control.isOver = false ∧ ∀ sight, machine.control ≠ .client sight)
    (own : move.In zone machine.world)
    (fresh : machine.world.Fresh zone (machine.act move).world) :
    Inside zone base start (machine.act move) := by
  have acted := machine.acted move
  generalize machine.act move = after at acted fresh
  have higher {sight : Sight} {frame : Frame} {below : List Frame}
      (idle : machine.control = .client sight) (top : machine.stack = frame :: below) :
      machine.stack ≠ base := fun bottom => (above (by simp [top]) bottom).2 sight idle
  cases acted with
  | rest => exact inside
  | tick => exact inside.tick fun deep bottom => (above deep bottom).1
  | call idle admitted => exact inside.begin admitted (own admitted) fresh
  | describe description idle =>
      refine ⟨inside.toWorks.describe description, ?_⟩
      have still : (machine.describe description).2.control = _ := idle
      rw [still]
      trivial
  | answer idle top accepted => exact (inside.pop top (higher idle top)).2.setControl trivial
  | panic idle top => exact (inside.pop top (higher idle top)).2.setControl own

/-- Work of a zone above `base` stays in the zone to its end, if client code asks
for objects of the zone only. -/
theorem ends_inside {allow : Machine → Move → Prop} (opened : start.world.Open zone)
    (own : ∀ before move, before.world.In zone → Kept zone start before → allow before move →
      move.In zone before.world)
    (rises : Rises base machine) (inside : Inside zone base start machine) :
    Ends allow base (Inside zone base start) machine := by
  refine ends_of_kept (fun before move rises busy allowed inside => ?_) rises inside
  refine inside.act (fun _ bottom => ⟨?_, fun sight idle => ?_⟩)
    (own before move inside.world inside.kept allowed) ((opened.grown inside.kept.grown).fresh _)
  · cases ceased : before.control.isOver with
    | true => exact absurd ⟨bottom, ceased⟩ busy
    | false => rfl
  · obtain ⟨invocation, above, top, part⟩ := rises.2 sight idle
    have shorter := part.length_le
    rw [← bottom, top, List.length_cons] at shorter
    omega

end Acts

end Machine

end Handoff
