import Handoff.Proofs.Bodies.Guards

namespace Handoff

/-! Every body is guarded.

A body is made by one call.  At that point nothing mentions its parts, and the next
step registers the handler that aborts its stream. -/

namespace Machine

variable {machine : Machine}

section Table

variable (machine)

@[simp] theorem bodies_logs (notices : List Notice) :
    (notices.foldl log machine).world.bodies = machine.world.bodies := by
  induction notices generalizing machine with
  | nil => rfl
  | cons notice rest ih => exact ih (machine.log notice)

theorem bodies_tell (handler : CompletionHandler) (outcome : Outcome) :
    (machine.tell handler outcome).world.bodies = machine.world.bodies := by
  unfold tell
  repeat' split
  all_goals rfl

theorem bodies_forget (handlers : List CompletionHandler) :
    (machine.forget handlers).world.bodies = machine.world.bodies := by
  cases handlers with
  | nil => rfl
  | cons handler rest => cases handler <;> cases rest <;> rfl

theorem bodies_feed (handler : ChunkHandler) (bytes : Bytes) :
    (machine.feed handler bytes).world.bodies = machine.world.bodies := by
  simp only [feed]
  repeat' split
  all_goals first | rfl | exact machine.bodies_logs _

theorem bodies_perform (task : Task) :
    (machine.perform task).world.bodies = machine.world.bodies := by
  cases task with
  | tell handler outcome => exact machine.bodies_tell handler outcome
  | forget handlers => exact machine.bodies_forget handlers
  | feed handler bytes => exact machine.bodies_feed handler bytes
  | dispatch promise outcome waiting => cases waiting <;> rfl
  | feedEnd handler => cases handler <;> rfl
  | discard handler => cases handler <;> rfl
  | _ =>
      simp only [perform, settle, register, release, deliver, attach, finish, drain, next, letGo,
        abandon]
      repeat' split
      all_goals rfl

theorem size_setBody {index : Nat} (made : index < machine.world.bodies.size) (body : Body) :
    (machine.setBody index body).world.bodies.size = machine.world.bodies.size := by
  simp only [setBody, withWorld, World.setBody, Store.size_set]
  omega

theorem size_leave {index : Nat} (made : index < machine.world.bodies.size) (after : Frame)
    (otherwise : Control) :
    (machine.leave index after otherwise).world.bodies.size = machine.world.bodies.size := by
  have size := machine.size_setBody made (machine.world.body index).removeSender
  simp only [leave]
  split
  · exact size
  · exact size

end Table

/-- Everything. -/
def everywhere : Zone :=
  ⟨fun _ => True, fun _ => True, fun _ => True, fun _ => True, True⟩

theorem Rooted.everywhere (rooted : machine.Rooted) : machine.Within everywhere :=
  rooted _ trivial ⟨fun _ _ => trivial, fun _ _ => trivial, fun _ _ => trivial, fun _ _ => trivial⟩

/-- One call makes bodies, and nothing else does. -/
theorem bodies_moved {before after : Machine} (moved : before.Moved after) (rooted : before.Rooted) :
    after.world.bodies.size = before.world.bodies.size ∨
      ∃ config, after = before.begin (.newBody config) := by
  have above {below : Machine} {body : Nat} (same : before = below.push (.leaving body)) :
      body < below.world.bodies.size := by
    obtain ⟨above, stack, inside⟩ := rooted.everywhere.frames
    have member : .leaving body ∈ above := by
      rw [List.append_nil] at stack
      rw [← stack, same]
      exact List.mem_cons_self ..
    have held := (inside _ member).2
    rwa [same] at held
  cases moved with
  | rest => exact .inl rfl
  | perform working => exact .inl (congrArg Store.size (before.bodies_perform _))
  | @resume below reply frame replied =>
      refine .inl ?_
      cases frame with
      | leaving body => exact below.size_leave (above rfl) _ _
      | _ =>
          simp only [resume, letGo]
          repeat' split
          all_goals rfl
  | @unwind below message frame panicking =>
      refine .inl ?_
      cases frame with
      | leaving body => exact below.size_leave (above rfl) _ _
      | _ => rfl
  | surface empty ceased => exact .inl rfl
  | @begin _ sight call idle admitted =>
      cases call with
      | newBody config => exact .inr ⟨config, rfl⟩
      | send body bytes => exact .inl (before.size_setBody (World.lt_of_owned admitted) _)
      | complete body value => exact .inl (before.size_setBody (World.lt_of_owned admitted) _)
      | fail body outcome =>
          have owned := (Bool.and_eq_true_iff.mp admitted).1
          exact .inl (before.size_setBody (World.lt_of_owned owned) _)
      | dropSender body =>
          have made := World.lt_of_owned admitted
          have size := before.size_setBody made { before.world.body body with owned := false }
          exact .inl ((size_leave _ (by rw [size]; exact made) _ _).trans size)
      | newHandler handler => cases handler <;> exact .inl rfl
      | _ => exact .inl rfl
  | describe description idle => exact .inl rfl
  | answer idle accepted => exact .inl rfl
  | panic idle => exact .inl rfl

/-- A body that was just made is guarded. -/
theorem guards_born (reached : machine.Reached) (config : Config) :
    (machine.nextSite config).Guards (machine.begin (.newBody config)) := by
  have rooted : machine.Within (machine.nextSite config).besides :=
    reached.rooted _ trivial ⟨fun _ made => Nat.ne_of_lt made, fun _ _ => trivial,
      fun _ made => Nat.ne_of_lt made, fun _ _ => trivial⟩
  obtain ⟨above, stack, inside⟩ := rooted.frames
  rw [List.append_nil] at stack
  have promise (index : Nat) : (machine.begin (.newBody config)).world.promise index =
      if index = machine.world.promises.size then .inside 1 else machine.world.promise index :=
    Store.get_add _ _ _
  have accumulator (index : Nat) : (machine.begin (.newBody config)).world.accumulator index =
      if index = machine.world.accumulators.size then .new config.pendingCeiling
      else machine.world.accumulator index :=
    Store.get_add _ _ _
  have body (index : Nat) : (machine.begin (.newBody config)).world.body index =
      if index = machine.world.bodies.size then
        ⟨machine.world.accumulators.size, machine.world.promises.size, config, 1, true⟩
      else machine.world.body index :=
    Store.get_add _ _ _
  have size : (machine.begin (.newBody config)).world.bodies.size = machine.world.bodies.size + 1 :=
    Store.size_add _ _
  have grown : machine.world.Grown (machine.begin (.newBody config)).world := by
    refine ⟨?_, ?_, Nat.le_of_lt (size ▸ Nat.lt_succ_self _), Nat.le_refl _, fun index made => ?_⟩
    · exact Nat.le_of_lt (Nat.lt_of_lt_of_eq (Nat.lt_succ_self _) (Store.size_add _ _).symm)
    · exact Nat.le_of_lt (Nat.lt_of_lt_of_eq (Nat.lt_succ_self _) (Store.size_add _ _).symm)
    · rw [body, if_neg (Nat.ne_of_lt made)]
  have own : (machine.begin (.newBody config)).world.promise machine.world.promises.size =
      .inside 1 := (promise _).trans (if_pos rfl)
  have row : (machine.begin (.newBody config)).world.body machine.world.bodies.size =
      ⟨machine.world.accumulators.size, machine.world.promises.size, config, 1, true⟩ :=
    (body _).trans (if_pos rfl)
  have world : (machine.begin (.newBody config)).world.In (machine.nextSite config).besides := by
    refine ⟨fun index apart => ?_, fun index _ => ?_, rooted.world.held, fun index apart => ?_⟩
    · have apart' : index ≠ machine.world.promises.size := apart
      rw [promise, if_neg apart']
      exact rooted.world.waiting index apart
    · rw [accumulator]
      split
      · intro handler parked
        cases parked
      · exact rooted.world.parked index trivial
    · have apart' : index ≠ machine.world.bodies.size := apart.1
      have made := apart.2
      rw [body, if_neg apart']
      exact rooted.world.bodies index ⟨apart.1, by omega⟩
  have opened : (machine.begin (.newBody config)).world.Open (machine.nextSite config).besides := by
    refine ⟨fun index free => ?_, fun _ _ => trivial, fun index free => ?_, fun _ _ => trivial⟩
    · have free : machine.world.promises.size + 1 ≤ index :=
        Nat.le_trans (Nat.le_of_eq (Store.size_add _ _).symm) free
      exact Nat.ne_of_gt free
    · have free : machine.world.bodies.size + 1 ≤ index := size ▸ free
      exact Nat.ne_of_gt free
  have none : machine.holders machine.world.bodies.size = 0 := by
    refine List.countP_eq_zero.mpr fun frame member => ?_
    have free := (inside frame (stack ▸ member)).holds
    simpa [nextSite] using free
  have unnamed : ((machine.begin (.newBody config)).world.promise
      (machine.nextSite config).promise).waiting = [] :=
    congrArg Promise.waiting own
  refine ⟨⟨world, opened, congrArg Body.accumulator row, congrArg Body.promise row,
    congrArg Promise.owned own, by simp [unnamed]⟩, ?_, fun _ => .inr ⟨unnamed, rfl⟩,
    fun settled => ?_, fun frame member => ?_, .inl trivial⟩
  · have pushed : (machine.begin (.newBody config)).holders machine.world.bodies.size = 0 :=
      (holders_push rfl).trans none
    rw [Site.Counts, nextSite, pushed, row]
    rfl
  · have pending := congrArg Promise.isDone own
    exact absurd (settled.symm.trans pending) (by decide)
  · rcases List.mem_cons.mp member with rfl | member
    · exact .inl trivial
    · exact .inl ((inside frame (stack ▸ member)).grown grown)

/-- Every body there is is guarded. -/
def Guarded (machine : Machine) : Prop :=
  ∀ body, body < machine.world.bodies.size → ∃ site : Site, site.body = body ∧ site.Guards machine

theorem Guarded.act (guarded : machine.Guarded) (reached : machine.Reached) (move : Move) :
    (machine.act move).Guarded := by
  intro body made
  have moved := machine.moved_act move
  rcases bodies_moved moved reached.rooted with same | ⟨config, born⟩
  · obtain ⟨site, named, guards⟩ := guarded body (same ▸ made)
    exact ⟨site, named, guards.moved (reached.handled _) moved⟩
  · by_cases earlier : body < machine.world.bodies.size
    · obtain ⟨site, named, guards⟩ := guarded body earlier
      exact ⟨site, named, guards.moved (reached.handled _) moved⟩
    · have size : (machine.begin (.newBody config)).world.bodies.size =
          machine.world.bodies.size + 1 := Store.size_add _ _
      rw [born, size] at made
      have last : machine.world.bodies.size = body := by omega
      rw [born]
      exact ⟨machine.nextSite config, last, guards_born reached config⟩

theorem Reached.guarded (reached : machine.Reached) : machine.Guarded := by
  obtain ⟨moves, rfl⟩ := reached
  have later (before : Machine) (reached : before.Reached) (guarded : before.Guarded) :
      (before.run moves).Guarded := by
    induction moves generalizing before with
    | nil => exact guarded
    | cons move moves ih => exact ih _ (reached.run [move]) (guarded.act reached move)
  exact later initial ⟨[], rfl⟩ fun body made => absurd made (Nat.not_lt_zero body)

end Machine

theorem Site.Guards.run {site : Site} {machine : Machine} (guards : site.Guards machine)
    (reached : machine.Reached) (moves : List Move) : site.Guards (machine.run moves) := by
  induction moves generalizing machine with
  | nil => exact guards
  | cons move moves ih =>
      exact ih (guards.moved (reached.handled _) (machine.moved_act move)) (reached.run [move])

end Handoff
