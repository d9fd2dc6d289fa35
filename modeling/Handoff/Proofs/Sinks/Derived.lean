import Handoff.Proofs.Bodies.Births
import Handoff.Proofs.Sinks.Steps

namespace Handoff

/-! No derived promise is stranded.

As long as a derived promise is pending, each share of its sink is covered by a
token.  When no call is running the tokens can only be with the source or with the
stream.  A source that is settled has none, and a body that is settled has closed
its stream, which therefore let its handler go. -/

namespace Link

open Machine

variable {link : Link} {before after middle machine : Machine}

structure Covers (link : Link) (machine : Machine) : Prop where
  made : link.Made machine.world
  unowned : (machine.world.promise link.derived).owned = false
  live : (machine.world.promise link.derived).isDone = false →
    0 < (machine.world.promise link.derived).shares ∨
      ∃ outcome, machine.control = .task (.settle link.derived outcome)
  covered : (machine.world.promise link.derived).isDone = false →
    (machine.world.promise link.derived).shares ≤ machine.tokens link

theorem Made.grown (made : link.Made before.world) (grown : before.world.Grown after.world) :
    link.Made after.world where
  derived := Nat.lt_of_lt_of_le made.derived grown.promises
  source := Nat.lt_of_lt_of_le made.source grown.promises
  stream index own := Nat.lt_of_lt_of_le (made.stream index own) grown.accumulators

namespace Covers

/-- A step that hands on all tokens. -/
theorem bears (covers : link.Covers before) (grown : before.world.Grown after.world) {load : Nat}
    (bears : Bears link load middle after) (same : middle.standing link = before.standing link)
    (weight : before.tokens link ≤ load + middle.rest link)
    (unsettled : ∀ outcome, before.control ≠ .task (.settle link.derived outcome)) :
    link.Covers after := by
  have row : (after.world.promise link.derived).shares =
        (before.world.promise link.derived).shares ∧
      (after.world.promise link.derived).isDone = (before.world.promise link.derived).isDone ∧
      (after.world.promise link.derived).owned = (before.world.promise link.derived).owned := by
    simpa [Machine.standing] using bears.standing.trans same
  obtain ⟨shares, done, owned⟩ := row
  refine ⟨covers.made.grown grown, owned.trans covers.unowned, fun pending => ?_, fun pending => ?_⟩
  · rw [shares]
    rcases covers.live (done ▸ pending) with held | ⟨outcome, settling⟩
    · exact .inl held
    · exact absurd settling (unsettled outcome)
  · have covered := covers.covered (done ▸ pending)
    have load := bears.load
    omega

/-- The derived promise is settled, and nothing more is to be said. -/
theorem settled (covers : link.Covers before) (grown : before.world.Grown after.world)
    (owned : (after.world.promise link.derived).owned = (before.world.promise link.derived).owned)
    (done : (after.world.promise link.derived).isDone = true) : link.Covers after := by
  refine ⟨covers.made.grown grown, owned.trans covers.unowned, fun pending => ?_, fun pending => ?_⟩
  · rw [done] at pending
    cases pending
  · rw [done] at pending
    cases pending

theorem settle (covers : link.Covers before) {outcome : Outcome}
    (grown : before.world.Grown (before.settle link.derived outcome).world) :
    link.Covers (before.settle link.derived outcome) := by
  cases state : (before.world.promise link.derived).state with
  | settled first =>
      have done : (before.world.promise link.derived).isDone = true := by
        simp [Promise.isDone, Promise.outcome?, state]
      simp only [Machine.settle, state] at grown ⊢
      exact covers.settled grown rfl done
  | pending waiting =>
      simp only [Machine.settle, state] at grown ⊢
      have row : (before.setPromise link.derived
          ((before.world.promise link.derived).settle outcome)).world.promise link.derived =
            (before.world.promise link.derived).settle outcome :=
        (promise_setPromise _ _ _ _).trans (if_pos rfl)
      have owned : ((before.setPromise link.derived
          ((before.world.promise link.derived).settle outcome)).world.promise link.derived).owned =
            (before.world.promise link.derived).owned := by
        rw [row]
        rfl
      exact covers.settled grown owned (congrArg Promise.isDone row)

/-- A share goes, and its token. -/
theorem release (covers : link.Covers before)
    (working : before.control = .task (.release link.derived))
    (grown : before.world.Grown (before.release link.derived).world) :
    link.Covers (before.release link.derived) := by
  have row : (before.setPromise link.derived
      (before.world.promise link.derived).removeShare).world.promise link.derived =
        (before.world.promise link.derived).removeShare :=
    (promise_setPromise _ _ _ _).trans (if_pos rfl)
  have handed : before.rest link + 0 ≤ (before.setPromise link.derived
      (before.world.promise link.derived).removeShare).rest link + 0 :=
    before.rest_setPromise link _ _ (fun _ => Nat.le_refl _) (fun _ => Nat.le_refl _)
  have token : before.tokens link = 1 + before.rest link := by
    rw [tokens, working]
    exact congrArg (· + _) (if_pos rfl)
  have covered := covers.covered
  rw [token] at covered
  have made := covers.made.grown grown
  simp only [Machine.release] at made ⊢
  split at made
  case isTrue last =>
      rw [if_pos last]
      refine ⟨made, (congrArg Promise.owned row).trans covers.unowned,
        fun _ => .inr ⟨_, rfl⟩, fun pending => ?_⟩
      have none : (before.world.promise link.derived).removeShare.shares = 0 := by
        simpa using (Bool.and_eq_true_iff.mp last).1
      have shares := congrArg Promise.shares row
      rw [none] at shares
      exact Nat.le_trans (Nat.le_of_eq shares) (Nat.zero_le _)
  case isFalse others =>
      rw [if_neg others]
      have pendingBefore (pending : ((before.setPromise link.derived
          (before.world.promise link.derived).removeShare).world.promise link.derived).isDone =
            false) : (before.world.promise link.derived).isDone = false := by
        rw [row] at pending
        exact pending
      refine ⟨made, (congrArg Promise.owned row).trans covers.unowned, fun pending => ?_,
        fun pending => ?_⟩
      · have pending' : (before.world.promise link.derived).removeShare.isDone = false :=
          pendingBefore pending
        have held : (before.world.promise link.derived).removeShare.shares ≠ 0 := by
          simpa [pending'] using others
        exact .inl (Nat.lt_of_lt_of_eq (Nat.pos_of_ne_zero held) (congrArg Promise.shares row).symm)
      · have covered := covered (pendingBefore pending)
        have shares : ((before.setPromise link.derived
            (before.world.promise link.derived).removeShare).world.promise link.derived).shares =
              (before.world.promise link.derived).shares - 1 := congrArg Promise.shares row
        rw [tokens_reply]
        refine Nat.le_trans (Nat.le_of_eq shares) ?_
        omega

theorem perform (covers : link.Covers before) {task : Task}
    (working : before.control = .task task)
    (grown : before.world.Grown (before.perform task).world)
    (handled : ∀ index, (before.strand index).Handled) : link.Covers (before.perform task) := by
  by_cases settling : ∃ outcome, task = .settle link.derived outcome
  · obtain ⟨outcome, rfl⟩ := settling
    exact covers.settle grown
  · by_cases releasing : task = .release link.derived
    · subst releasing
      exact covers.release working grown
    · have bears : Bears link (task.tokens link) before (before.perform task) := by
        refine bears_perform (fun outcome same => settling ⟨outcome, same⟩) releasing ?_
        rintro index handler rfl -
        have turning : (before.strand index).attention = .turning := by
          simp [strand, working, Control.attention, Task.attention]
        have drains : (before.world.accumulator index).stage = .draining :=
          ((handled index).turning turning).1
        rw [drains]
        rfl
      refine covers.bears grown bears rfl ?_ fun outcome same => ?_
      · rw [tokens, working]
        exact Nat.le_refl _
      · rw [working] at same
        exact settling ⟨outcome, Control.task.inj same⟩

/-- A handler that was called is not with its accumulator. -/
theorem empty_of_called {below : Machine} {frame : Frame} {index : Nat} {handler : ChunkHandler}
    (handled : ((below.push frame).strand index).Handled)
    (called : frame = .fed index handler ∨ frame = .fedEnd index handler) :
    (below.world.accumulator index).stage.tokens link = 0 := by
  have busy : ((below.push frame).strand index).calls ≠ [] := by
    rcases called with rfl | rfl <;> simp [strand, handlerCalls, push, Frame.handlerCall?]
  have drains : (below.world.accumulator index).stage = .draining := (handled.calling busy).1
  rw [drains]
  rfl

/-- The tokens of a frame that is met again. -/
theorem weight_push {below : Machine} {frame : Frame} (light : below.control.tokens link = 0) :
    (below.push frame).tokens link ≤ frame.tokens link + below.rest link := by
  have control : (below.push frame).control = below.control := rfl
  exact Nat.le_of_eq (by rw [tokens, control, light, rest_push, Nat.zero_add])

theorem moved (covers : link.Covers before) (moved : before.Moved after)
    (grown : before.world.Grown after.world)
    (handled : ∀ index, (before.strand index).Handled)
    (joined : ∀ body, link.body = some body →
      (before.world.body body).promise = link.source) : link.Covers after := by
  cases moved with
  | rest => exact covers
  | perform working => exact covers.perform working grown handled
  | @resume below reply frame replied =>
      have light : below.control.tokens link = 0 := by rw [replied]; rfl
      have bears : Bears link (frame.tokens link) below (below.resume reply frame) :=
        bears_resume reply frame
        (fun index handler called _ => empty_of_called (handled index) called) joined
      refine covers.bears grown bears rfl (weight_push light) fun outcome same => ?_
      exact absurd (replied.symm.trans same) (by simp)
  | @unwind below message frame panicking =>
      have light : below.control.tokens link = 0 := by rw [panicking]; rfl
      have bears : Bears link (frame.tokens link) below (below.unwind message frame) :=
        bears_unwind panicking frame
        (fun index handler called _ => empty_of_called (handled index) called)
      refine covers.bears grown bears rfl (weight_push light) fun outcome same => ?_
      exact absurd (panicking.symm.trans same) (by simp)
  | surface empty ceased =>
      have light : before.control.tokens link = 0 := by
        cases control : before.control with
        | task task => simp [control, Control.isOver] at ceased
        | _ => rfl
      have bears (sight : Sight) : Bears link 0 before { before with control := .client sight } :=
        ⟨rfl, Nat.le_refl _⟩
      refine covers.bears grown (bears _) rfl ?_ fun outcome same => ?_
      · exact Nat.le_of_eq (by rw [tokens, light])
      · simp [same, Control.isOver] at ceased
  | begin idle admitted =>
      have bears := bears_begin covers.made covers.unowned admitted
      refine covers.bears grown bears rfl ?_ fun outcome same => ?_
      · rw [tokens, idle]
        exact Nat.le_refl _
      · exact absurd (idle.symm.trans same) (by simp)
  | describe description idle =>
      refine ⟨covers.made.grown grown, covers.unowned, fun pending => ?_, covers.covered⟩
      exact covers.live pending
  | @answer below sight invocation reply idle accepted =>
      have light : below.control.tokens link = 0 := by rw [idle]; rfl
      have bears : Bears link (Frame.tokens link (.client invocation)) below
          { below with control := .reply reply } := ⟨rfl, Nat.le_refl _⟩
      refine covers.bears grown bears rfl (weight_push light) fun outcome same => ?_
      exact absurd (idle.symm.trans same) (by simp)
  | @panic below sight invocation message idle =>
      have light : below.control.tokens link = 0 := by rw [idle]; rfl
      have bears : Bears link (Frame.tokens link (.client invocation)) below
          { below with control := .panic message } := ⟨rfl, Nat.le_refl _⟩
      refine covers.bears grown bears rfl (weight_push light) fun outcome same => ?_
      exact absurd (idle.symm.trans same) (by simp)

end Covers

/-- A link with a stream is that of a body which is handed over as text. -/
structure Stands (link : Link) (machine : Machine) : Prop extends Covers link machine where
  guarded : ∀ body, link.body = some body → ∃ site : Site, site.body = body ∧
    site.promise = link.source ∧ link.stream = some site.accumulator ∧ site.Guards machine
  streamless : link.body = none → link.stream = none

theorem Stands.act (stands : link.Stands machine) (reached : machine.Reached) (move : Move) :
    link.Stands (machine.act move) := by
  have moved := machine.moved_act move
  refine ⟨stands.toCovers.moved moved (reached.rooted.grown move) reached.handled ?_, ?_,
    stands.streamless⟩
  · intro body own
    obtain ⟨site, rfl, source, -, guards⟩ := stands.guarded body own
    exact guards.promise.trans source
  · intro body own
    obtain ⟨site, named, source, stream, guards⟩ := stands.guarded body own
    exact ⟨site, named, source, stream, guards.moved (reached.handled _) moved⟩

theorem Stands.run (stands : link.Stands machine) (reached : machine.Reached) (moves : List Move) :
    link.Stands (machine.run moves) := by
  induction moves generalizing machine with
  | nil => exact stands
  | cons move moves ih => exact ih (stands.act reached move) (reached.run [move])

/-- The link of a future that is mapped. -/
def mapped (machine : Machine) (source : Nat) : Link :=
  ⟨machine.world.promises.size, source, none, none⟩

/-- The link of a body that is handed over as text. -/
def texted (machine : Machine) (body : Nat) : Link :=
  ⟨machine.world.promises.size, (machine.world.body body).promise,
    some (machine.world.body body).accumulator, some body⟩

theorem stands_map {source function : Nat}
    (admitted : machine.world.admits (.map source function) = true) :
    (mapped machine source).Stands (machine.begin (.map source function)) := by
  have made : source < machine.world.promises.size := by simpa [World.admits] using admitted
  have row : (machine.begin (.map source function)).world.promise machine.world.promises.size =
      .inside 1 := (Store.get_add _ _ _).trans (if_pos rfl)
  have size : (machine.begin (.map source function)).world.promises.size =
      machine.world.promises.size + 1 := Store.size_add _ _
  have token : 1 ≤ (machine.begin (.map source function)).tokens (mapped machine source) := by
    have own : (Task.register source (.mapping function machine.world.promises.size)).tokens
        (mapped machine source) = 1 := by
      simp [Task.tokens, CompletionHandler.tokens, mapped]
    rw [begin, Machine.map, tokens_turn, own]
    omega
  refine ⟨⟨⟨?_, ?_, fun _ own => by cases own⟩, congrArg Promise.owned row, fun _ => .inl ?_,
    fun _ => ?_⟩, fun _ own => (by cases own), fun _ => rfl⟩
  · exact size ▸ Nat.lt_succ_self _
  · exact size ▸ Nat.lt_succ_of_lt made
  · exact (congrArg Promise.shares row) ▸ Nat.one_pos
  · exact Nat.le_trans (Nat.le_of_eq (congrArg Promise.shares row)) token

theorem stands_text (reached : machine.Reached) {sight : Sight} {body : Nat} {charset : Charset}
    (idle : machine.control = .client sight)
    (admitted : machine.world.admits (.text body charset) = true) :
    (texted machine body).Stands (machine.begin (.text body charset)) := by
  have known : body < machine.world.bodies.size := by simpa [World.admits] using admitted
  obtain ⟨site, rfl, guards⟩ := reached.guarded body known
  have parts : (machine.world.body site.body).accumulator < machine.world.accumulators.size ∧
      (machine.world.body site.body).promise < machine.world.promises.size := by
    have within := reached.rooted
      ⟨(· < machine.world.promises.size), (· < machine.world.accumulators.size),
        fun _ => True, fun _ => True, True⟩ trivial
      ⟨fun _ made => made, fun _ made => made, fun _ _ => trivial, fun _ _ => trivial⟩
    exact within.world.bodies site.body ⟨trivial, known⟩
  have row : (machine.begin (.text site.body charset)).world.promise machine.world.promises.size =
      .inside 2 := (Store.get_add _ _ _).trans (if_pos rfl)
  have size : (machine.begin (.text site.body charset)).world.promises.size =
      machine.world.promises.size + 1 := Store.size_add _ _
  have tokens : 2 ≤ (machine.begin (.text site.body charset)).tokens
      (texted machine site.body) := by
    have attached : (Task.attach (machine.world.body site.body).accumulator (.collecting
        (.new charset (machine.world.body site.body).config.textCapacity
          machine.world.promises.size))).tokens (texted machine site.body) = 1 := by
      simp [Task.tokens, ChunkHandler.tokens, texted, Collector.new]
    have framed : (Frame.texting site.body machine.world.promises.size).tokens
        (texted machine site.body) = 1 := by
      simp [Frame.tokens, texted]
    rw [begin, text, tokens_turn, rest_push, attached, framed]
    omega
  have moved : machine.Moved (machine.begin (.text site.body charset)) := .begin idle admitted
  refine ⟨⟨⟨?_, ?_, fun index own => ?_⟩, congrArg Promise.owned row, fun _ => .inl ?_,
    fun _ => ?_⟩, fun body own => ?_, fun none => (by cases none)⟩
  · exact size ▸ Nat.lt_succ_self _
  · exact size ▸ Nat.lt_succ_of_lt parts.2
  · obtain rfl := Option.some.inj own
    exact parts.1
  · exact (congrArg Promise.shares row) ▸ Nat.two_pos
  · exact Nat.le_trans (Nat.le_of_eq (congrArg Promise.shares row)) tokens
  · obtain rfl := Option.some.inj own
    exact ⟨site, rfl, guards.promise.symm, congrArg some guards.accumulator,
      guards.moved (reached.handled _) moved⟩

/-- No call is running and the source is settled, so no token is left. -/
theorem Stands.settles (stands : link.Stands machine) (reached : machine.Reached) {sight : Sight}
    (quiet : machine.stack = []) (idle : machine.control = .client sight)
    (settled : (machine.world.promise link.source).isDone = true) :
    (machine.world.promise link.derived).isDone = true := by
  have awaiting : machine.awaiting link = 0 := by
    obtain ⟨outcome, stored⟩ := Option.isSome_iff_exists.mp settled
    simp [Machine.awaiting, Promise.tokens, Promise.waiting, Promise.outcome?_eq_some.mp stored]
  have streaming : machine.streaming link = 0 := by
    cases stream : link.stream with
    | none => simp [Machine.streaming, stream]
    | some index =>
        cases handed : link.body with
        | none => simp [stands.streamless handed] at stream
        | some body =>
            obtain ⟨site, -, source, same, guards⟩ := stands.guarded body handed
            obtain rfl : site.accumulator = index := Option.some.inj (same.symm.trans stream)
            have closed : (machine.world.accumulator site.accumulator).closed = true := by
              refine (guards.shut (source ▸ settled)).closed ?_
              rw [idle]
              exact id
            have away : (machine.strand site.accumulator).attention = .away := by
              simp [strand, idle, Control.attention]
            have unparked := (reached.marked site.accumulator).unparked (reached.handled _) closed away
            simp only [Machine.streaming, stream]
            cases stage : (machine.world.accumulator site.accumulator).stage with
            | parked handler => exact absurd stage (unparked handler)
            | _ => rfl
  have none : machine.tokens link = 0 := by
    simp [tokens, rest, stacked, idle, quiet, awaiting, streaming, Control.tokens]
  cases done : (machine.world.promise link.derived).isDone with
  | true => rfl
  | false =>
      have covered := stands.covered done
      rcases stands.live done with held | ⟨outcome, settling⟩
      · omega
      · exact absurd (idle.symm.trans settling) (by simp)

end Link

namespace Machine

/-- A future was derived from another in the course of a run: it was mapped, or a
body was handed over as text, whose completion is the other one. -/
inductive Derived (moves : List Move) : Nat → Nat → Prop
  | map {earlier later : List Move} {source function : Nat} {sight : Sight}
      (cut : moves = earlier ++ .call (.map source function) :: later)
      (idle : (initial.run earlier).control = .client sight)
      (admitted : (initial.run earlier).world.admits (.map source function) = true) :
      Derived moves source (initial.run earlier).world.promises.size
  | text {earlier later : List Move} {body : Nat} {charset : Charset} {sight : Sight}
      (cut : moves = earlier ++ .call (.text body charset) :: later)
      (idle : (initial.run earlier).control = .client sight)
      (admitted : (initial.run earlier).world.admits (.text body charset) = true) :
      Derived moves ((initial.run earlier).world.body body).promise
        (initial.run earlier).world.promises.size

/-- The forest of the futures that were derived from a root, at once or over others. -/
inductive Descends (moves : List Move) (root : Nat) : Nat → Prop
  | root : Descends moves root root
  | derive {source derived : Nat} (earlier : Descends moves root source)
      (last : Derived moves source derived) : Descends moves root derived

theorem Derived.link {moves : List Move} {source derived : Nat}
    (last : Derived moves source derived) :
    ∃ link : Link, link.source = source ∧ link.derived = derived ∧ link.Stands (initial.run moves) := by
  cases last with
  | @map earlier later source function sight cut idle admitted =>
      have reached : (initial.run earlier).Reached := ⟨earlier, rfl⟩
      have stands := Link.stands_map admitted
      rw [← act_call idle admitted] at stands
      refine ⟨Link.mapped (initial.run earlier) source, rfl, rfl, ?_⟩
      rw [cut, run_append, run_cons]
      exact stands.run (reached.run [.call (.map source function)]) later
  | @text earlier later body charset sight cut idle admitted =>
      have reached : (initial.run earlier).Reached := ⟨earlier, rfl⟩
      have stands := Link.stands_text reached idle admitted
      rw [← act_call idle admitted] at stands
      refine ⟨Link.texted (initial.run earlier) body, rfl, rfl, ?_⟩
      rw [cut, run_append, run_cons]
      exact stands.run (reached.run [.call (.text body charset)]) later

/-- Whenever no call is running and a promise is settled, so is everything that was
derived from it, whatever panicked in between. -/
theorem descendants_settled (moves : List Move) {root future : Nat} {sight : Sight}
    (descends : Descends moves root future) (quiet : (initial.run moves).stack = [])
    (idle : (initial.run moves).control = .client sight)
    (settled : ((initial.run moves).world.promise root).isDone = true) :
    ((initial.run moves).world.promise future).isDone = true := by
  induction descends with
  | root => exact settled
  | derive earlier last ih =>
      obtain ⟨link, rfl, rfl, stands⟩ := last.link
      exact stands.settles ⟨moves, rfl⟩ quiet idle ih

/-- A body is mapped, and so is its text.  The mapping function of the body panics
when the body is completed. -/
def strandedMapping : List Move :=
  .call (.newBody .usual) :: .replicate 3 .tick ++ .call (.map 0 5) :: .replicate 3 .tick ++
    .call (.text 0 .utf8) :: .replicate 8 .tick ++ .call (.map 2 6) :: .replicate 3 .tick ++
    .call (.complete 0 "done") :: .replicate 7 .tick ++ .answer (.value "mapped") ::
    .replicate 22 .tick ++ .panic "stranded" :: .replicate 14 .tick

theorem descendants_settled_stranded :
    ((initial.run strandedMapping).world.promise 1).isDone = true ∧
      ((initial.run strandedMapping).world.promise 3).isDone = true := by
  have mapped : Derived strandedMapping 0 1 :=
    @Derived.map strandedMapping (strandedMapping.take 4) (strandedMapping.drop 5) 0 5
      (.replied (.made 0)) rfl rfl rfl
  have text : Derived strandedMapping 0 2 :=
    @Derived.text strandedMapping (strandedMapping.take 8) (strandedMapping.drop 9) 0 .utf8
      (.replied (.made 1)) rfl rfl rfl
  have mappedText : Derived strandedMapping 2 3 :=
    @Derived.map strandedMapping (strandedMapping.take 17) (strandedMapping.drop 18) 2 6
      (.replied (.made 2)) rfl rfl rfl
  exact ⟨descendants_settled strandedMapping (.derive .root mapped) rfl rfl (by decide),
    descendants_settled strandedMapping (.derive (.derive .root text) mappedText) rfl rfl
      (by decide)⟩

end Machine

end Handoff
