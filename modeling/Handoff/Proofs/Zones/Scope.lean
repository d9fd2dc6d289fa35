import Handoff.Proofs.Zones.Moves

namespace Handoff

/-! Nothing is mentioned before it was made.

A machine that was reached from the start is in every zone that contains what
was made so far, and what it mentions is in two zones if it is in both. -/

/-- Whatever is in two zones is in a third. -/
structure Zone.Meet (first second zone : Zone) : Prop where
  promise : ∀ index, first.promise index → second.promise index → zone.promise index
  accumulator : ∀ index, first.accumulator index → second.accumulator index →
    zone.accumulator index
  body : ∀ index, first.body index → second.body index → zone.body index
  channel : ∀ index, first.channel index → second.channel index → zone.channel index
  panics : first.panics → second.panics → zone.panics
  promises : ∀ index, zone.promise index → first.promise index ∧ second.promise index
  accumulators : ∀ index, zone.accumulator index →
    first.accumulator index ∧ second.accumulator index
  bodies : ∀ index, zone.body index → first.body index ∧ second.body index

namespace Zone.Meet

variable {first second zone : Zone} (meet : first.Meet second zone)

include meet

theorem completion {handler : CompletionHandler} (inFirst : handler.In first)
    (inSecond : handler.In second) : handler.In zone := by
  cases handler with
  | mapping function promise => exact meet.promise _ inFirst inSecond
  | passing promise => exact meet.promise _ inFirst inSecond
  | aborting accumulator => exact meet.accumulator _ inFirst inSecond
  | forwarding channel => exact meet.channel _ inFirst inSecond
  | _ => trivial

theorem chunk {handler : ChunkHandler} (inFirst : handler.In first) (inSecond : handler.In second) :
    handler.In zone := by
  cases handler with
  | collecting collector => exact meet.promise _ inFirst inSecond
  | forwarding channel => exact meet.channel _ inFirst inSecond
  | _ => trivial

theorem holds {world : World} {body : Nat} (inFirst : world.Holds first body)
    (inSecond : world.Holds second body) : world.Holds zone body :=
  ⟨meet.body _ inFirst.1 inSecond.1, inFirst.2⟩

theorem frame {world : World} {frame : Frame} (inFirst : frame.In first world)
    (inSecond : frame.In second world) : frame.In zone world := by
  cases frame with
  | forgetting handlers =>
      exact fun handler member => meet.completion (inFirst handler member) (inSecond handler member)
  | dispatching promise outcome waiting =>
      exact fun registration member =>
        meet.completion (inFirst registration member) (inSecond registration member)
  | resolving promise => exact meet.promise _ inFirst inSecond
  | releasing promise => exact meet.promise _ inFirst inSecond
  | finishing promise value => exact meet.promise _ inFirst inSecond
  | settling promise outcome => exact meet.promise _ inFirst inSecond
  | texting body promise => exact meet.promise _ inFirst inSecond
  | fed accumulator handler =>
      exact ⟨meet.accumulator _ inFirst.1 inSecond.1, meet.chunk inFirst.2 inSecond.2⟩
  | fedEnd accumulator handler =>
      exact ⟨meet.accumulator _ inFirst.1 inSecond.1, meet.chunk inFirst.2 inSecond.2⟩
  | leaving body => exact meet.holds inFirst inSecond
  | streaming body channel => exact meet.channel _ inFirst inSecond
  | returning index handler => exact meet.chunk inFirst inSecond
  | rethrowing message => exact meet.panics inFirst inSecond
  | _ => trivial

theorem world {world : World} (inFirst : world.In first) (inSecond : world.In second) :
    world.In zone where
  waiting promise own registration member :=
    meet.completion (inFirst.waiting promise (meet.promises _ own).1 registration member)
      (inSecond.waiting promise (meet.promises _ own).2 registration member)
  parked accumulator own handler parked :=
    meet.chunk (inFirst.parked accumulator (meet.accumulators _ own).1 handler parked)
      (inSecond.parked accumulator (meet.accumulators _ own).2 handler parked)
  held index handler held :=
    meet.chunk (inFirst.held index handler held) (inSecond.held index handler held)
  bodies body own := by
    have inFirst := inFirst.bodies body ⟨(meet.bodies _ own.1).1, own.2⟩
    have inSecond := inSecond.bodies body ⟨(meet.bodies _ own.1).2, own.2⟩
    exact ⟨meet.accumulator _ inFirst.1 inSecond.1, meet.promise _ inFirst.2 inSecond.2⟩

end Zone.Meet

namespace World

/-- Everything that was made is in the zone. -/
structure Within (zone : Zone) (world : World) : Prop where
  promises : ∀ index, index < world.promises.size → zone.promise index
  accumulators : ∀ index, index < world.accumulators.size → zone.accumulator index
  bodies : ∀ index, index < world.bodies.size → zone.body index
  channels : ∀ index, index < world.channels.size → zone.channel index

variable {zone : Zone} {before after world : World}

theorem Within.earlier (within : after.Within zone) (grown : before.Grown after) :
    before.Within zone where
  promises index made := within.promises index (Nat.lt_of_lt_of_le made grown.promises)
  accumulators index made := within.accumulators index (Nat.lt_of_lt_of_le made grown.accumulators)
  bodies index made := within.bodies index (Nat.lt_of_lt_of_le made grown.bodies)
  channels index made := within.channels index (Nat.lt_of_lt_of_le made grown.channels)

theorem Within.fresh (within : after.Within zone) (before : World) : before.Fresh zone after where
  promises index _ made := within.promises index made
  accumulators index _ made := within.accumulators index made
  bodies index _ made := within.bodies index made
  channels index _ made := within.channels index made

theorem promise_lt_of_owned {promise : Nat} (owned : (world.promise promise).owned = true) :
    promise < world.promises.size := by
  by_cases made : promise < world.promises.size
  · exact made
  · have blank : world.promise promise = default :=
      world.promises.get_of_size_le (Nat.le_of_not_lt made)
    rw [blank] at owned
    cases owned

theorem channel_lt_of_listening {channel : Nat}
    (listening : (world.channel channel).listening = true) : channel < world.channels.size := by
  by_cases made : channel < world.channels.size
  · exact made
  · have blank : world.channel channel = default :=
      world.channels.get_of_size_le (Nat.le_of_not_lt made)
    rw [blank] at listening
    cases listening

theorem Within.admits (within : world.Within zone) {call : Call}
    (admitted : world.admits call = true) : call.In zone := by
  cases call with
  | settle promise outcome => exact within.promises _ (promise_lt_of_owned admitted)
  | dropSink promise => exact within.promises _ (promise_lt_of_owned admitted)
  | cancel promise force => exact within.promises _ (by simpa [World.admits] using admitted)
  | newHandler handler =>
      cases handler with
      | collecting charset capacity promise =>
          exact within.promises _ (promise_lt_of_owned admitted)
      | _ => trivial
  | deliver accumulator bytes =>
      exact within.accumulators _ (by simpa [World.admits] using admitted)
  | finish accumulator ending =>
      exact within.accumulators _ (by simpa [World.admits] using admitted)
  | attach accumulator handler =>
      exact within.accumulators _ (by simpa [World.admits] using (Bool.and_eq_true_iff.mp admitted).1)
  | send body bytes => exact within.bodies _ (lt_of_owned admitted)
  | complete body value => exact within.bodies _ (lt_of_owned admitted)
  | dropSender body => exact within.bodies _ (lt_of_owned admitted)
  | fail body outcome => exact within.bodies _ (lt_of_owned (Bool.and_eq_true_iff.mp admitted).1)
  | text body charset => exact within.bodies _ (by simpa [World.admits] using admitted)
  | chunks body => exact within.bodies _ (by simpa [World.admits] using admitted)
  | poll channel => exact within.channels _ (channel_lt_of_listening admitted)
  | dropStream channel => exact within.channels _ (channel_lt_of_listening admitted)
  | _ => trivial

end World

namespace Machine

variable {zone : Zone} {base : List Frame} {start machine : Machine}

abbrev Within (zone : Zone) (machine : Machine) : Prop :=
  Inside zone [] machine machine

theorem Inside.restart (inside : Inside zone base start machine) :
    Inside zone base machine machine :=
  ⟨⟨inside.world, inside.frames, .refl machine⟩, inside.control⟩

theorem Within.act (within : machine.Within zone) {move : Move} (own : move.In zone machine.world)
    (fresh : machine.world.Fresh zone (machine.act move).world) :
    Inside zone [] machine (machine.act move) :=
  Inside.act within (fun deep bottom => absurd bottom deep) own fresh

theorem within_initial (zone : Zone) : initial.Within zone := by
  refine ⟨⟨⟨?_, ?_, ?_, ?_⟩, ⟨[], rfl, by simp⟩, .refl _⟩, trivial⟩
  · intro promise _ registration member
    have row : (initial.world.promise promise).waiting = [] := rfl
    simp [row] at member
  · intro accumulator _ handler parked
    have row : (initial.world.accumulator accumulator).stage = .unattached := rfl
    simp [row] at parked
  · intro index handler held
    have row : initial.world.handler? index = none := rfl
    simp [row] at held
  · intro body own
    exact absurd own.2 (Nat.not_lt_zero body)

/-- A machine that mentions only what was made. -/
def Rooted (machine : Machine) : Prop :=
  ∀ zone : Zone, zone.panics → machine.world.Within zone → machine.Within zone

theorem Rooted.acted (rooted : machine.Rooted) {move : Move} (panics : zone.panics)
    (before : machine.world.Within zone) (after : (machine.act move).world.Within zone) :
    Inside zone [] machine (machine.act move) := by
  refine (rooted zone panics before).act ?_ (after.fresh _)
  cases move with
  | call request => exact before.admits
  | panic message => exact panics
  | _ => trivial

theorem Rooted.grown (rooted : machine.Rooted) (move : Move) :
    machine.world.Grown (machine.act move).world := by
  have everywhere (world : World) :
      world.Within ⟨fun _ => True, fun _ => True, fun _ => True, fun _ => True, True⟩ :=
    ⟨fun _ _ => trivial, fun _ _ => trivial, fun _ _ => trivial, fun _ _ => trivial⟩
  exact (rooted.acted trivial (everywhere _) (everywhere _)).kept.grown

theorem Rooted.act (rooted : machine.Rooted) (move : Move) : (machine.act move).Rooted :=
  fun _ panics within =>
    (rooted.acted panics (within.earlier (rooted.grown move)) within).restart

theorem Rooted.run (rooted : machine.Rooted) (moves : List Move) :
    (machine.run moves).Rooted ∧ machine.world.Grown (machine.run moves).world := by
  induction moves generalizing machine with
  | nil => exact ⟨rooted, .refl _⟩
  | cons move moves ih =>
      obtain ⟨later, grown⟩ := ih (rooted.act move)
      exact ⟨later, (rooted.grown move).trans grown⟩

theorem rooted_run (moves : List Move) : (initial.run moves).Rooted := by
  have first : initial.Rooted := fun zone _ _ => within_initial zone
  exact (first.run moves).1

end Machine

end Handoff
