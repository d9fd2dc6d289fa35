import Handoff.Proofs.Bodies.Use

namespace Handoff

/-! A body is made.

The stream of a new body is empty, its promise is pending, and the only handler
that waits aborts the stream. -/

def World.withBody (world : World) (config : Config) : World :=
  let accumulator := world.accumulators.size
  let promise := world.promises.size
  let registration := ⟨world.registrations, .aborting accumulator⟩
  let world := world.addAccumulator (.new config.pendingCeiling)
  let world := world.addPromise (.inside 1)
  let world := world.addBody ⟨accumulator, promise, config, 1, true⟩
  { world with registrations := world.registrations + 1 }.setPromise promise
    ((Promise.inside 1).enqueue registration)

section Rows

variable (world : World) (config : Config)

theorem World.promise_withBody (index : Nat) :
    (world.withBody config).promise index =
      if index = world.promises.size then
        ⟨.pending [⟨world.registrations, .aborting world.accumulators.size⟩], 1, false⟩
      else world.promise index := by
  refine (Store.get_set _ _ _ _).trans ?_
  split
  case isTrue => rfl
  case isFalse other => exact (Store.get_add _ _ _).trans (if_neg other)

theorem World.accumulator_withBody (index : Nat) :
    (world.withBody config).accumulator index =
      if index = world.accumulators.size then .new config.pendingCeiling
      else world.accumulator index :=
  Store.get_add _ _ _

theorem World.body_withBody (index : Nat) :
    (world.withBody config).body index =
      if index = world.bodies.size then
        ⟨world.accumulators.size, world.promises.size, config, 1, true⟩
      else world.body index :=
  Store.get_add _ _ _

theorem World.sizes_withBody :
    (world.withBody config).promises.size = world.promises.size + 1 ∧
      (world.withBody config).accumulators.size = world.accumulators.size + 1 ∧
        (world.withBody config).bodies.size = world.bodies.size + 1 := by
  refine ⟨?_, Store.size_add _ _, Store.size_add _ _⟩
  simp only [withBody, setPromise, addPromise, addBody, addAccumulator, Store.size_set,
    Store.size_add]
  omega

end Rows

namespace Machine

def withBody (machine : Machine) (config : Config) : Machine where
  world := machine.world.withBody config
  stack := machine.stack
  control := .reply (.made machine.world.bodies.size)
  journal := .registered machine.world.promises.size machine.world.registrations ::
    machine.journal

variable {machine : Machine}

theorem ends_newBody {allow : Machine → Move → Prop} (config : Config) :
    Ends allow machine.stack (fun after => after = machine.withBody config)
      (machine.begin (.newBody config)) := by
  have pending : ((((machine.world.addAccumulator (.new config.pendingCeiling)).addPromise
      (.inside 1)).addBody ⟨machine.world.accumulators.size, machine.world.promises.size, config, 1,
        true⟩).promise machine.world.promises.size) = .inside 1 :=
    (Store.get_add _ _ _).trans (if_pos rfl)
  have registered : (machine.begin (.newBody config)).tick =
      { (machine.withBody config).push (.replying (.made machine.world.bodies.size)) with
        control := .reply .done } := by
    simp only [begin, newBody, tick, perform, register, turn, push, withWorld, pending]
    rfl
  refine ends_tick (by simp [Over, begin, newBody, Control.isOver]) (by simp [begin, newBody]) ?_
  rw [registered]
  refine ends_tick (fun ceased => ?_) (by simp) (ends_of_over ⟨rfl, rfl⟩ rfl)
  have longer := congrArg List.length ceased.1
  simp [withBody, push] at longer

/-- How a body that was made is found. -/
def site (machine : Machine) (body : Nat) : Site :=
  ⟨body, (machine.world.body body).accumulator, (machine.world.body body).promise,
    (machine.world.body body).config, none⟩

/-- The numbers that the next body and its parts will have. -/
def nextSite (machine : Machine) (config : Config) : Site :=
  ⟨machine.world.bodies.size, machine.world.accumulators.size, machine.world.promises.size, config,
    none⟩

theorem site_withBody (machine : Machine) (config : Config) :
    (machine.withBody config).site machine.world.bodies.size = machine.nextSite config := by
  have row : (machine.withBody config).world.body machine.world.bodies.size = _ :=
    (machine.world.body_withBody config _).trans (if_pos rfl)
  simp [site, nextSite, row]

theorem grown_withBody (machine : Machine) (config : Config) :
    machine.world.Grown (machine.withBody config).world := by
  obtain ⟨promises, accumulators, bodies⟩ := machine.world.sizes_withBody config
  refine ⟨?_, ?_, ?_, Nat.le_refl _, fun body made => ?_⟩
  · exact promises ▸ Nat.le_succ _
  · exact accumulators ▸ Nat.le_succ _
  · exact bodies ▸ Nat.le_succ _
  · have row : (machine.withBody config).world.body body = machine.world.body body :=
      (machine.world.body_withBody config body).trans (if_neg (Nat.ne_of_lt made))
    rw [row]

theorem Reached.within_next (reached : machine.Reached) (config : Config) :
    machine.Within ((machine.nextSite config).outside True) := by
  refine reached.rooted _ trivial ⟨fun index made => ⟨Nat.ne_of_lt made, ?_⟩,
    fun index made => Nat.ne_of_lt made, fun index made => Nat.ne_of_lt made, fun _ _ => trivial⟩
  simp [Site.derived?, nextSite]

theorem in_withBody {panics : Prop} {config : Config}
    (inside : machine.world.In ((machine.nextSite config).outside panics)) :
    (machine.withBody config).world.In ((machine.nextSite config).outside panics) where
  waiting index own := by
    have row : (machine.withBody config).world.promise index = machine.world.promise index :=
      (machine.world.promise_withBody config index).trans (if_neg own.1)
    rw [row]
    exact inside.waiting index own
  parked index own := by
    have row : (machine.withBody config).world.accumulator index =
        machine.world.accumulator index :=
      (machine.world.accumulator_withBody config index).trans (if_neg own)
    rw [row]
    exact inside.parked index own
  held := inside.held
  bodies index own := by
    have row : (machine.withBody config).world.body index = machine.world.body index :=
      (machine.world.body_withBody config index).trans (if_neg own.1)
    have made : index < machine.world.bodies.size := by
      have made := own.2
      have apart : index ≠ machine.world.bodies.size := own.1
      have size := (machine.world.sizes_withBody config).2.2
      simp only [withBody] at made
      omega
    rw [row]
    exact inside.bodies index ⟨own.1, made⟩

theorem accepted_withBody (reached : machine.Reached) (config : Config) :
    (machine.withBody config).accepted (machine.nextSite config).accumulator = [] := by
  have unmade := (reached.handled (machine.nextSite config).accumulator).unmade
    (fun made => absurd made (Nat.lt_irrefl _))
  have past : machine.streamPast (machine.nextSite config).accumulator = [] := unmade.2.1
  have same : (machine.withBody config).streamPast (machine.nextSite config).accumulator =
      machine.streamPast (machine.nextSite config).accumulator := by
    simp [streamPast, withBody, Entry.accumulator?]
  rw [accepted, same, past]
  rfl

def newView : View where
  accepted := []
  flow := .idle none
  senders := 1
  owned := true
  outcome := none
  shares := 1
  linked := true
  text := none
  textShares := 0

theorem shows_withBody (reached : machine.Reached) (config : Config) :
    (machine.nextSite config).Shows newView (machine.withBody config) := by
  have within := reached.within_next config
  obtain ⟨promises, accumulators, bodies⟩ := machine.world.sizes_withBody config
  constructor
  case outside => exact in_withBody (Site.outside_world within.world)
  case opened =>
      refine ⟨fun index free => ⟨?_, by simp [Site.derived?, nextSite]⟩, fun index free => ?_,
        fun index free => ?_, fun _ _ => trivial⟩
      · have free : machine.world.promises.size + 1 ≤ index := promises ▸ free
        exact Nat.ne_of_gt free
      · have free : machine.world.accumulators.size + 1 ≤ index := accumulators ▸ free
        exact Nat.ne_of_gt free
      · have free : machine.world.bodies.size + 1 ≤ index := bodies ▸ free
        exact Nat.ne_of_gt free
  case accepted => exact accepted_withBody reached config
  case flow =>
      have row : (machine.withBody config).world.accumulator machine.world.accumulators.size = _ :=
        (machine.world.accumulator_withBody config _).trans (if_pos rfl)
      exact ⟨by rw [nextSite, row]; rfl, by rw [nextSite, row]; rfl, by rw [nextSite, row]; rfl,
        by rw [nextSite, row]; rfl⟩
  case body => exact (machine.world.body_withBody config _).trans (if_pos rfl)
  case promise =>
      have row : (machine.withBody config).world.promise machine.world.promises.size = _ :=
        (machine.world.promise_withBody config _).trans (if_pos rfl)
      have stands : (machine.nextSite config).Completes none 1 true
          ⟨.pending [⟨machine.world.registrations, .aborting machine.world.accumulators.size⟩], 1,
            false⟩ := by
        refine ⟨rfl, rfl, rfl, ?_, ?_, ?_⟩
        · intro registration member
          obtain rfl := List.mem_singleton.mp member
          exact .inr (.inl rfl)
        · exact fun _ => ⟨_, List.mem_singleton_self _, rfl⟩
        · simp [nextSite]
      rw [← row] at stands
      exact stands
  case text => simp [nextSite]

theorem stands_withBody (reached : machine.Reached) (config : Config) :
    (machine.nextSite config).Stands newView (machine.withBody config) := by
  refine ⟨?_, shows_withBody reached config, fun frame member => ?_, .inl trivial⟩
  · constructor <;> simp [newView, Site.going, nextSite]
  · obtain ⟨above, stack, inside⟩ := (reached.within_next config).frames
    have member : frame ∈ machine.stack := member
    rw [stack, List.append_nil] at member
    exact (inside frame member).grown (grown_withBody machine config)

end Machine

end Handoff
