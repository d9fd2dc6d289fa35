import Handoff.Proofs.Bodies.Calls
import Handoff.Proofs.Streams.Ending

namespace Handoff

namespace Machine

def Reached (machine : Machine) : Prop :=
  ∃ moves, initial.run moves = machine

variable {machine : Machine}

theorem Reached.run (reached : machine.Reached) (later : List Move) :
    (machine.run later).Reached := by
  obtain ⟨earlier, rfl⟩ := reached
  exact ⟨earlier ++ later, run_append _ _ _⟩

theorem Reached.course {allow : Machine → Move → Prop} {base : List Frame} {after : Machine}
    (reached : machine.Reached) (course : Course allow base machine after) : after.Reached := by
  obtain ⟨moves, rfl⟩ := course.reached
  exact reached.run moves

theorem Reached.rooted (reached : machine.Reached) : machine.Rooted := by
  obtain ⟨moves, rfl⟩ := reached
  exact rooted_run moves

theorem Reached.handled (reached : machine.Reached) (index : Nat) :
    (machine.strand index).Handled := by
  obtain ⟨moves, rfl⟩ := reached
  exact (strand_custody index moves).1

theorem Reached.marked (reached : machine.Reached) (index : Nat) :
    (machine.strand index).Marked := by
  obtain ⟨moves, rfl⟩ := reached
  exact (strand_custody index moves).2

theorem Reached.accounted (reached : machine.Reached) (index : Nat) :
    (machine.strand index).Accounted := by
  obtain ⟨moves, rfl⟩ := reached
  exact strand_accounted index moves

theorem Reached.told (reached : machine.Reached) (index : Nat) :
    (machine.strand index).Told := by
  obtain ⟨moves, rfl⟩ := reached
  exact strand_told index moves

theorem Reached.attached (reached : machine.Reached) {index : Nat}
    (attached : (machine.world.accumulator index).isAttached = true) (later : List Move) :
    ((machine.run later).world.accumulator index).isAttached = true := by
  induction later generalizing machine with
  | nil => exact attached
  | cons move later ih =>
      have step := Strand.step_of_moved (moved_act machine move) index
      exact ih (reached.run [move]) ((reached.handled index).attached step attached)

end Machine

namespace Site

/-! The use of a body.

A body is used as it should be when only its sender writes to its stream, nobody
cancels its text directly, and client code that runs within a call on the body
neither panics nor calls the body.  Whatever else happens is left open. -/

open Machine

variable {site : Site} {machine after : Machine} {view : View}

/-- What may happen between the calls on a body. -/
def allows (site : Site) : Move → Bool
  | .call call => !(site.isOwn call || site.isBypass call)
  | _ => true

/-- A call as a whole, during which client code neither panics nor calls the
body. -/
abbrev Called (site : Site) (call : Call) (machine after : Machine) : Prop :=
  Machine.Called (fun _ move => site.spares move = true) call machine after

/-- A piece of a run in which the body is used as it should be, with the calls on
the body in their order.  Each of them is taken as a whole, with all that happens
until it is over. -/
inductive Use (site : Site) : Machine → List Call → Machine → Prop
  | start (machine : Machine) : Use site machine [] machine
  | move {machine after : Machine} {move : Move} {calls : List Call}
      (allowed : site.allows move = true) (rest : Use site (machine.act move) calls after) :
      Use site machine calls after
  | call {machine between after : Machine} {call : Call} {calls : List Call}
      (own : site.isOwn call = true) (called : site.Called call machine between)
      (rest : Use site between calls after) : Use site machine (call :: calls) after

/-- Control is outside of the site, or is about to give the stream a handler. -/
def Idles (site : Site) (machine : Machine) : Prop :=
  machine.control.In (site.outside True) machine.world ∨
    ∃ handler : ChunkHandler, machine.control = .task (.attach site.accumulator handler) ∧
      handler.In (site.outside True)

/-- Nobody is at work on the body. -/
structure Stands (site : Site) (view : View) (machine : Machine) : Prop where
  calm : site.Calm view
  shows : site.Shows view machine
  frames : ∀ frame ∈ machine.stack, frame.In (site.outside True) machine.world
  idles : site.Idles machine

theorem outside_world {first second : Prop} {world : World} (inside : world.In (site.outside first)) :
    world.In (site.outside second) :=
  ⟨inside.waiting, inside.parked, inside.held, inside.bodies⟩

theorem outside_open {first second : Prop} {world : World}
    (opened : world.Open (site.outside first)) : world.Open (site.outside second) :=
  ⟨opened.promises, opened.accumulators, opened.bodies, opened.channels⟩

theorem outside_kept {first second : Prop} (kept : machine.Kept (site.outside first) after) :
    machine.Kept (site.outside second) after := by
  refine ⟨kept.accumulators, kept.bodies, fun index own => ?_, kept.channels, kept.grown⟩
  obtain ⟨shares, owned, more, inside, state⟩ := kept.promises index own
  exact ⟨shares, owned, more, inside, state⟩

namespace Stands

theorem works (stands : site.Stands view machine) :
    Works (site.outside True) [] machine machine :=
  ⟨outside_world stands.shows.outside, ⟨machine.stack, (List.append_nil _).symm, stands.frames⟩,
    .refl _⟩

theorem of_works (stands : site.Stands view machine)
    (works : Works (site.outside True) [] machine after) (idles : site.Idles after) :
    site.Stands view after := by
  refine ⟨stands.calm, stands.shows.kept (outside_world works.world) (outside_kept works.kept), ?_,
    idles⟩
  obtain ⟨above, stack, inside⟩ := works.frames
  rw [stack, List.append_nil]
  exact inside

theorem of_inside (stands : site.Stands view machine)
    (inside : Inside (site.outside True) [] machine after) : site.Stands view after :=
  stands.of_works inside.toWorks (.inl inside.control)

theorem attached (stands : site.Stands view machine) {text : Nat × Charset}
    (texted : site.text = some text) :
    (machine.world.accumulator site.accumulator).isAttached = true := by
  rcases stands.calm.rests with flow | ⟨ending, flow⟩
  · obtain ⟨⟨_, _, -, parked⟩, -⟩ := stands.shows.flows (flow.trans (going_parked texted _))
    simp [Accumulator.isAttached, parked]
  · obtain ⟨released, -⟩ := stands.shows.flows (flow.trans (gone_ceased texted ending))
    simp [Accumulator.isAttached, released]

theorem attach (stands : site.Stands view machine) {handler : ChunkHandler}
    (working : machine.control = .task (.attach site.accumulator handler))
    (inside : handler.In (site.outside True)) : site.Stands view machine.tick ∨ site.text = none ∧
      (machine.tick.world.accumulator site.accumulator).isAttached = true := by
  rw [tick, working]
  simp only [perform, Machine.attach]
  split
  case isTrue attached =>
      exact .inl (stands.of_inside ((stands.works.push (.replying _) trivial).turn inside))
  case isFalse unattached =>
      have untexted : site.text = none := by
        cases texted : site.text with
        | none => rfl
        | some text => exact absurd (stands.attached texted) unattached
      refine .inr ⟨untexted, ?_⟩
      have row := accumulator_setAccumulator machine site.accumulator site.accumulator
        ((machine.world.accumulator site.accumulator).park handler)
      rw [if_pos rfl] at row
      have attached : ((machine.world.accumulator site.accumulator).park handler).isAttached =
          true := rfl
      rw [← row] at attached
      exact attached

theorem handOver (stands : site.Stands view machine) {call : Call}
    (admitted : machine.world.admits call = true) (ceased : site.isHandOver call = true) :
    site.Stands view (machine.begin call) := by
  have opened : machine.world.Open (site.outside True) := outside_open stands.shows.opened
  cases call with
  | text body charset =>
      obtain rfl : body = site.body := by simpa [isHandOver] using ceased
      have fresh := opened.promises machine.world.promises.size (Nat.le_refl _)
      have works := (stands.works.addPromise (.inside 2) fresh rfl).push
        (.texting site.body machine.world.promises.size) fresh
      have working : (machine.begin (.text site.body charset)).control =
          .task (.attach site.accumulator (.collecting (.new charset
            (machine.world.body site.body).config.textCapacity machine.world.promises.size))) := by
        rw [← stands.shows.accumulator_body]
        rfl
      exact stands.of_works (works.withControl _) (.inr ⟨_, working, fresh⟩)
  | chunks body =>
      obtain rfl : body = site.body := by simpa [isHandOver] using ceased
      have works := (stands.works.addChannel .new trivial).push
        (.streaming site.body machine.world.channels.size) trivial
      have working : (machine.begin (.chunks site.body)).control =
          .task (.attach site.accumulator (.forwarding machine.world.channels.size)) := by
        rw [← stands.shows.accumulator_body]
        rfl
      exact stands.of_works (works.withControl _) (.inr ⟨_, working, trivial⟩)
  | attach accumulator index =>
      obtain rfl : accumulator = site.accumulator := by simpa [isHandOver] using ceased
      obtain ⟨taken, inside⟩ := stands.works.takeHandler index
      exact stands.of_works (taken.withControl _) (.inr ⟨_, rfl, inside⟩)
  | _ => simp [isHandOver] at ceased

/-- A move that is no call on the body leaves it calm, or gives its stream a
handler. -/
theorem act (stands : site.Stands view machine) {move : Move}
    (allowed : site.allows move = true) : site.Stands view (machine.act move) ∨ site.text = none ∧
      ((machine.act move).world.accumulator site.accumulator).isAttached = true := by
  rcases stands.idles with inside | ⟨handler, working, inside⟩
  case inr =>
      have busy : ∀ sight, machine.control ≠ .client sight := by simp [working]
      rcases act_of_working busy move with same | ticked
      · rw [same]
        exact .inl stands
      · rw [ticked]
        exact stands.attach working inside
  case inl =>
      have opened : machine.world.Open (site.outside True) := outside_open stands.shows.opened
      have start : Inside (site.outside True) [] machine machine := ⟨stands.works, inside⟩
      have acted (own : move.In (site.outside True) machine.world) :
          site.Stands view (machine.act move) :=
        stands.of_inside (start.act (fun deep bottom => absurd bottom deep) own (opened.fresh _))
      cases move with
      | call request =>
          simp only [allows, Bool.not_eq_true', Bool.or_eq_false_iff] at allowed
          cases ceased : site.isHandOver request with
          | false => exact .inl (acted (stands.shows.call_in allowed.1 ceased allowed.2))
          | true =>
              refine .inl ?_
              cases control : machine.control with
              | client sight =>
                  simp only [Machine.act, control]
                  split
                  case isTrue admitted => exact stands.handOver admitted ceased
                  case isFalse => exact stands
              | _ =>
                  simp only [Machine.act, control]
                  exact stands
      | _ => exact .inl (acted trivial)

theorem own (stands : site.Stands view machine) (reached : machine.Reached) {call : Call}
    {between : Machine} (own : site.isOwn call = true) (called : site.Called call machine between) :
    ∃ after, site.Stands after between ∧ after.outcome = view.outcome.or call.verdict := by
  obtain ⟨reply, after, replied, shows, calm, outcome⟩ :=
    yields_own stands.calm stands.shows own called.admitted between called.course called.ceased
  refine ⟨after, ⟨calm, shows, ?_, .inl (by rw [replied]; trivial)⟩, outcome⟩
  obtain ⟨moves, rfl⟩ := called.reached
  intro frame member
  rw [called.ceased.1] at member
  exact Frame.In.grown (stands.frames frame member) (reached.rooted.run moves).2

end Stands

/-- The body is calm, or its stream was given a handler before it was handed over
as text. -/
def Sound (site : Site) (outcome : Option Outcome) (machine : Machine) : Prop :=
  (∃ view, site.Stands view machine ∧ view.outcome = outcome) ∨ site.text = none ∧
    (machine.world.accumulator site.accumulator).isAttached = true

variable {calls : List Call}

theorem Use.reached (use : site.Use machine calls after) : ∃ moves, machine.run moves = after := by
  induction use with
  | start machine => exact ⟨[], rfl⟩
  | @move machine after move calls allowed rest ih =>
      obtain ⟨moves, reached⟩ := ih
      exact ⟨move :: moves, reached⟩
  | call own called rest ih =>
      obtain ⟨earlier, rfl⟩ := called.reached
      obtain ⟨later, reached⟩ := ih
      exact ⟨earlier ++ later, by rw [run_append, reached]⟩

/-- The first call that settles a body decides its outcome. -/
theorem Use.keeps (use : site.Use machine calls after) (reached : machine.Reached)
    {outcome : Option Outcome} (sound : site.Sound outcome machine) :
    site.Sound (outcome.or (calls.findSome? Call.verdict)) after := by
  induction use generalizing outcome with
  | start machine => simpa using sound
  | @move machine after move calls allowed rest ih =>
      apply ih (reached.run [move])
      rcases sound with ⟨view, stands, same⟩ | ⟨untexted, attached⟩
      · rcases stands.act allowed with stands | attached
        · exact .inl ⟨view, stands, same⟩
        · exact .inr attached
      · exact .inr ⟨untexted, reached.attached attached [move]⟩
  | @call machine between after call calls own called rest ih =>
      have verdicts : (call :: calls).findSome? Call.verdict =
          call.verdict.or (calls.findSome? Call.verdict) := by
        rw [List.findSome?_cons]
        cases call.verdict <;> rfl
      rw [verdicts, ← Option.or_assoc]
      obtain ⟨moves, same⟩ := called.reached
      apply ih (same ▸ reached.run moves)
      rcases sound with ⟨view, stands, rfl⟩ | ⟨untexted, attached⟩
      · exact .inl (stands.own reached own called)
      · exact .inr ⟨untexted, same ▸ reached.attached attached moves⟩

end Site

end Handoff
