import Handoff.Proofs.Sessions.Grants
import Handoff.Proofs.Sessions.Likeness

namespace Handoff

/-! A session with and without the operations that are refused.

Until a body is handed over, an operation that is refused changes the log only, so
both machines have the same objects.  Afterwards every further hand-over is refused;
what it makes lies beyond the objects of that time.  The two machines therefore agree
on the numbers of all objects that the client gets hold of. -/

namespace Bounds

theorem promise_whole (index : Nat) : whole.zone.promise index := fun _ same => by cases same

theorem channel_whole (index : Nat) : whole.zone.channel index := fun _ same => by cases same

theorem within_whole (world : World) : world.Within whole.zone where
  promises index _ := promise_whole index
  accumulators _ _ := trivial
  bodies _ _ := trivial
  channels index _ := channel_whole index

end Bounds

namespace Machine

variable {bounds : Bounds} {machine full reduced after : Machine} {client : Client}
  {operation : Operation} {index : Nat} {sight : Sight} {site : Site}

/-- Machines with the same gist. -/
structure Alike (bounds : Bounds) (full reduced : Machine) : Prop where
  promises : full.world.promises.first bounds.promises =
    reduced.world.promises.first bounds.promises
  channels : full.world.channels.first bounds.channels =
    reduced.world.channels.first bounds.channels
  accumulators : full.world.accumulators = reduced.world.accumulators
  bodies : full.world.bodies = reduced.world.bodies
  registrations : full.world.registrations = reduced.world.registrations
  causes : full.world.causes = reduced.world.causes
  stack : full.stack = reduced.stack
  control : full.control.plain = reduced.control.plain
  calls : full.calls = reduced.calls

theorem alike_iff : Alike bounds full reduced ↔ full.gist bounds = reduced.gist bounds := by
  simp only [gist, mk.injEq, World.mk.injEq, true_and]
  constructor
  · intro alike
    exact ⟨⟨alike.promises, alike.accumulators, alike.bodies, alike.channels,
      alike.registrations, alike.causes⟩, alike.stack, alike.control, alike.calls⟩
  · rintro ⟨⟨promises, accumulators, bodies, channels, registrations, causes⟩, stack, control, calls⟩
    exact ⟨promises, channels, accumulators, bodies, registrations, causes, stack, control, calls⟩

namespace Alike

variable (alike : Alike bounds full reduced)

include alike

theorem promise {index : Nat} (own : bounds.zone.promise index) :
    full.world.promise index = reduced.world.promise index := by
  rw [← promise_gist own, alike_iff.mp alike, promise_gist own]

theorem channel {index : Nat} (own : bounds.zone.channel index) :
    full.world.channel index = reduced.world.channel index := by
  rw [← channel_gist own, alike_iff.mp alike, channel_gist own]

theorem body (index : Nat) : full.world.body index = reduced.world.body index :=
  congrArg (Store.get · index) alike.bodies

theorem accumulator (index : Nat) :
    full.world.accumulator index = reduced.world.accumulator index :=
  congrArg (Store.get · index) alike.accumulators

theorem idle (idle : full.control = .client sight) :
    ∃ seen, reduced.control = .client seen := by
  have plain := alike.control
  rw [idle] at plain
  cases rests : reduced.control with
  | client seen => exact ⟨seen, rfl⟩
  | _ => rw [rests] at plain; cases plain

end Alike

/-! How an operation begins depends on the gist only. -/

section Begin

variable (machine)

theorem gist_hold : (machine.hold index).gist bounds = (machine.gist bounds).hold index := by
  simp [hold]

theorem gist_begin (suits : operation.handsOver = false ∨ bounds = .whole)
    (reads : ∀ channel, operation = .poll channel → bounds.zone.channel channel)
    (plain : operation.preparation = []) :
    (machine.begin (operation.call index machine)).gist bounds =
      ((machine.gist bounds).begin (operation.call index machine)).gist bounds := by
  cases operation with
  | attach handler => cases plain
  | text charset =>
      obtain rfl := suits.resolve_left (by simp [Operation.handsOver])
      exact (gist_gist _ _).symm
  | chunks =>
      obtain rfl := suits.resolve_left (by simp [Operation.handsOver])
      exact (gist_gist _ _).symm
  | poll channel =>
      have own := reads channel rfl
      simp [Operation.call, begin, own, Entry.isCall]
  | _ => simp [Operation.call, begin, gist_hold]

theorem gist_share (handler : NewHandler) :
    (handler.share machine).gist .whole = (handler.share (machine.gist .whole)).gist .whole := by
  cases handler with
  | collecting charset capacity promise =>
      have own := Bounds.promise_whole promise
      simp [NewHandler.share, own]
  | _ => simp [NewHandler.share]

theorem gist_withHandlers (handlers : Store (Option ChunkHandler)) :
    (machine.withHandlers handlers).gist bounds = machine.gist bounds := rfl

end Begin

theorem Alike.call (alike : Alike bounds full reduced) (plain : operation.preparation = []) :
    operation.call index full = operation.call index reduced := by
  have row := alike.body index
  cases operation with
  | attach handler => cases plain
  | _ => simp [Operation.call, row]

theorem promise_made (guards : site.Guards machine) :
    site.promise < machine.world.promises.size :=
  Nat.lt_of_not_le fun free => guards.opened.promises site.promise free rfl

/-- The client has in both machines what an operation needs. -/
theorem Alike.admitted (alike : Alike bounds full reduced) (guards : site.Guards reduced)
    (suits : operation.handsOver = false ∨ bounds = .whole)
    (reads : ∀ channel, operation = .poll channel → bounds.zone.channel channel)
    (empty : full.stack = []) (idle : full.control = .client sight)
    (admitted : operation.Admitted site.body full) : operation.Admitted site.body reduced := by
  have row := alike.body site.body
  have asked := admitted.1
  have waits : (reduced.world.body site.body).promise < reduced.world.promises.size := by
    rw [guards.promise]
    exact promise_made guards
  have stream (made : (full.world.body site.body).accumulator < full.world.accumulators.size) :
      (reduced.world.body site.body).accumulator < reduced.world.accumulators.size := by
    rwa [← row, ← alike.accumulators]
  have body (made : site.body < full.world.bodies.size) : site.body < reduced.world.bodies.size := by
    rwa [← alike.bodies]
  cases operation with
  | attach handler =>
      obtain rfl := suits.resolve_left (by simp [Operation.handsOver])
      obtain ⟨seen, rests⟩ := alike.idle idle
      have made := admitted.2
      have promise (index : Nat) : full.world.promise index = reduced.world.promise index :=
        alike.promise (Bounds.promise_whole index)
      have allowed : reduced.world.admits (.newHandler handler) = true := by
        cases handler with
        | collecting charset capacity index =>
            exact (congrArg Promise.owned (promise index)).symm.trans made
        | _ => rfl
      refine ⟨?_, allowed⟩
      rw [run_preparation empty idle made] at asked
      rw [run_preparation (alike.stack.symm.trans empty) rests allowed]
      have kept (machine : Machine) : (machine.equipped handler).world.accumulators =
          machine.world.accumulators := by cases handler <;> rfl
      have held (machine : Machine) : ((machine.equipped handler).world.handler?
          machine.world.handlers.size).isSome = true := by
        have given : (machine.world.handlers.add (some handler.made)).get
            machine.world.handlers.size = some handler.made := by simp [Store.get_add]
        exact congrArg Option.isSome given
      simp only [Operation.call, World.admits, kept, held, Bool.and_true] at asked ⊢
      exact decide_eq_true (stream (of_decide_eq_true asked))
  | send bytes => exact ⟨(congrArg Body.owned row).symm.trans asked, trivial⟩
  | complete value => exact ⟨(congrArg Body.owned row).symm.trans asked, trivial⟩
  | fail outcome =>
      have owned := congrArg (fun body : Body => body.owned && outcome.status != .resolved) row
      exact ⟨owned.symm.trans asked, trivial⟩
  | cancel force => exact ⟨decide_eq_true waits, trivial⟩
  | listen handler hearing => exact ⟨decide_eq_true waits, trivial⟩
  | log name => exact ⟨decide_eq_true waits, trivial⟩
  | deliver bytes => exact ⟨decide_eq_true (stream (of_decide_eq_true asked)), trivial⟩
  | finish ending => exact ⟨decide_eq_true (stream (of_decide_eq_true asked)), trivial⟩
  | text charset => exact ⟨decide_eq_true (body (of_decide_eq_true asked)), trivial⟩
  | chunks => exact ⟨decide_eq_true (body (of_decide_eq_true asked)), trivial⟩
  | poll channel =>
      exact ⟨(congrArg Channel.listening (alike.channel (reads channel rfl))).symm.trans asked, trivial⟩

/-- Machines with the same gist begin an operation alike. -/
theorem Alike.moves (alike : Alike bounds full reduced)
    (suits : operation.handsOver = false ∨ bounds = .whole)
    (reads : ∀ channel, operation = .poll channel → bounds.zone.channel channel)
    (empty : full.stack = []) (idle : full.control = .client sight)
    (admitted : operation.Admitted index full) (allowed : operation.Admitted index reduced) :
    (full.run (operation.moves index full)).gist bounds =
      (reduced.run (operation.moves index reduced)).gist bounds := by
  obtain ⟨seen, rests⟩ := alike.idle idle
  have free := alike.stack.symm.trans empty
  by_cases plain : operation.preparation = []
  · rw [run_moves idle plain admitted, run_moves rests plain allowed,
      gist_begin full suits reads plain, gist_begin reduced suits reads plain, alike_iff.mp alike,
      alike.call plain]
  · cases operation with
    | attach handler =>
        obtain rfl := suits.resolve_left (by simp [Operation.handsOver])
        rw [run_attach empty idle admitted, run_attach free rests allowed, gist_turn, gist_turn,
          gist_withHandlers, gist_withHandlers, gist_share full, gist_share reduced,
          alike_iff.mp alike, alike.body index]
    | _ => exact absurd rfl plain

theorem fits_begin (within : machine.Within bounds.zone)
    (first : bounds.zone.promise (default : Body).promise) (stays : operation.handsOver = false)
    (reads : ∀ channel, operation = .poll channel → bounds.zone.channel channel)
    (admitted : machine.world.admits (operation.call index machine) = true) :
    Fits bounds machine (machine.begin (operation.call index machine)) := by
  have promised := promise_in within.world first index
  have none {size other : Nat} (low : size ≤ other) (high : other < size) {P : Prop} : P :=
    absurd (Nat.lt_of_lt_of_le high low) (Nat.lt_irrefl _)
  refine ⟨within.toWorks.begin admitted ?_ ?_, ?_, first⟩
  · cases operation with
    | cancel force => exact promised
    | poll channel => exact reads channel rfl
    | attach handler => cases stays
    | text charset => cases stays
    | chunks => cases stays
    | _ => trivial
  · refine ⟨?_, fun _ _ _ => trivial, fun _ _ _ => trivial, ?_⟩
    · cases operation with
      | attach handler => cases stays
      | text charset => cases stays
      | chunks => cases stays
      | _ => exact fun _ low high => none low high
    · cases operation with
      | attach handler => cases stays
      | text charset => cases stays
      | chunks => cases stays
      | poll channel =>
          intro other low high
          have made := World.channel_lt_of_listening admitted
          have high : other < (machine.world.channels.set channel
            (machine.world.channel channel).poll.2).size := high
          rw [Store.size_set] at high
          omega
      | _ => exact fun _ low high => none low high
  · intro promise handler asked
    cases operation with
    | listen number hearing => cases asked; exact promised
    | log name => cases asked; exact promised
    | attach handler => cases stays
    | text charset => cases stays
    | chunks => cases stays
    | _ => cases asked

/-- A machine that works within bounds does so when an operation begins. -/
theorem fits_moves (within : machine.Within bounds.zone)
    (first : bounds.zone.promise (default : Body).promise) (reached : machine.Reached)
    (suits : operation.handsOver = false ∨ bounds = .whole)
    (reads : ∀ channel, operation = .poll channel → bounds.zone.channel channel)
    (idle : machine.control = .client sight) (admitted : operation.Admitted index machine) :
    ∃ start, Fits bounds start (machine.run (operation.moves index machine)) ∧
      (start = machine ∨ bounds = .whole) := by
  rcases suits with stays | rfl
  · have plain : operation.preparation = [] := by cases operation <;> first | rfl | cases stays
    have asked := admitted.1
    rw [plain] at asked
    rw [run_moves idle plain admitted]
    exact ⟨machine, fits_begin within first stays reads asked, .inl rfl⟩
  · have begun := reached.run (operation.moves index machine)
    have inside := begun.rooted Bounds.whole.zone trivial (Bounds.within_whole _)
    exact ⟨_, ⟨inside, fun promise _ _ => Bounds.promise_whole promise, first⟩, .inr rfl⟩

/-- Both machines of a session: one in which all operations were done, and one without
those that were refused. -/
structure Pair (bounds : Bounds) (accumulator : Nat) (full reduced : Machine) : Prop where
  alike : Alike bounds full reduced
  within : full.Within bounds.zone
  inside : reduced.Within bounds.zone
  first : bounds.zone.promise (default : Body).promise
  /-- Once the body was handed over, nothing is made that lasts. -/
  limits : bounds = .whole ∨ (full.world.accumulator accumulator).isAttached = true ∧
    ∃ promises channels, bounds = ⟨some promises, some channels⟩ ∧
      promises ≤ full.world.promises.size ∧ channels ≤ full.world.channels.size
  unread : ∀ channel, ¬ bounds.zone.channel channel →
    (full.world.channel channel).listening = false

theorem pair_start (reached : machine.Reached) (accumulator : Nat) :
    Pair .whole accumulator machine machine where
  alike := alike_iff.mpr rfl
  within := reached.rooted _ trivial (Bounds.within_whole _)
  inside := reached.rooted _ trivial (Bounds.within_whole _)
  first := Bounds.promise_whole _
  limits := .inl rfl
  unread channel out := absurd (Bounds.channel_whole channel) out

/-- What was within the bounds stays so. -/
structure Keeps (world : World) (earlier later : Bounds) : Prop where
  promises : ∀ index < world.promises.size, earlier.zone.promise index → later.zone.promise index
  channels : ∀ index < world.channels.size, earlier.zone.channel index → later.zone.channel index

variable {accumulator : Nat}

theorem gist_whole (machine : Machine) (bounds : Bounds) :
    (machine.gist .whole).gist bounds = machine.gist bounds := by
  have plain : machine.control.plain.plain = machine.control.plain := by
    cases machine.control <;> rfl
  simp only [gist, calls, List.filter_filter, Bool.and_self, plain]
  rfl

/-- What an operation that was refused left behind is beyond the bounds. -/
theorem wastes_alike {clean : Bool} (wastes : Wastes clean full after)
    (few : (∀ limit, bounds.promises = some limit → limit ≤ full.world.promises.size) ∧
      ∀ limit, bounds.channels = some limit → limit ≤ full.world.channels.size)
    (suits : clean = true ∨ ∃ promises channels, bounds = ⟨some promises, some channels⟩)
    (idle : full.control = .client sight) {seen : Sight} (rests : after.control = .client seen) :
    Alike bounds after full where
  promises := by
    obtain ⟨more, promises, spare⟩ := wastes.promises
    rw [promises]
    refine full.world.promises.first_append few.1 ?_
    rcases suits with clean | ⟨_, _, rfl⟩
    · exact .inr (spare clean)
    · exact .inl rfl
  channels := by
    obtain ⟨more, channels, -, spare⟩ := wastes.channels
    rw [channels]
    refine full.world.channels.first_append few.2 ?_
    rcases suits with clean | ⟨_, _, rfl⟩
    · exact .inr (spare clean)
    · exact .inl rfl
  accumulators := wastes.accumulators
  bodies := wastes.bodies
  registrations := wastes.registrations
  causes := wastes.causes
  stack := wastes.stack
  control := by rw [rests, idle]; rfl
  calls := wastes.calls

namespace Pair

variable (pair : Pair bounds accumulator full reduced)

include pair

/-- Once the body was handed over, the objects there are then are all that matter. -/
theorem narrow (reached : full.Reached) (follows : reduced.Reached)
    (populated : 0 < full.world.promises.size)
    (attached : (full.world.accumulator accumulator).isAttached = true) :
    ∃ later, Pair later accumulator full reduced ∧ Keeps full.world bounds later ∧
      ∃ promises channels, later = ⟨some promises, some channels⟩ := by
  rcases pair.limits with rfl | ⟨_, promises, channels, rfl, low, few⟩
  · let later : Bounds := ⟨some full.world.promises.size, some full.world.channels.size⟩
    have promise {index : Nat} (made : index < full.world.promises.size) :
        later.zone.promise index := fun limit same => by cases same; exact made
    have channel {index : Nat} (made : index < full.world.channels.size) :
        later.zone.channel index := fun limit same => by cases same; exact made
    have within : full.world.Within later.zone :=
      ⟨fun _ made => promise made, fun _ _ => trivial, fun _ _ => trivial, fun _ made => channel made⟩
    have promises : full.world.promises = reduced.world.promises := pair.alike.promises
    have channels : full.world.channels = reduced.world.channels := pair.alike.channels
    have followed : reduced.world.Within later.zone :=
      ⟨fun _ made => promise (promises ▸ made), fun _ _ => trivial, fun _ _ => trivial,
        fun _ made => channel (channels ▸ made)⟩
    refine ⟨later, ?_, ⟨fun _ made _ => promise made, fun _ made _ => channel made⟩, _, _, rfl⟩
    exact {
      alike := alike_iff.mpr (by
        rw [← gist_whole full, alike_iff.mp pair.alike, gist_whole])
      within := reached.rooted _ trivial within
      inside := follows.rooted _ trivial followed
      first := promise populated
      limits := .inr ⟨attached, _, _, rfl, Nat.le_refl _, Nat.le_refl _⟩
      unread := fun index out => by
        cases heard : (full.world.channel index).listening with
        | false => rfl
        | true => exact absurd (channel (World.channel_lt_of_listening heard)) out }
  · exact ⟨_, pair, ⟨fun _ _ own => own, fun _ _ own => own⟩, _, _, rfl⟩

theorem few : (∀ limit, bounds.promises = some limit → limit ≤ full.world.promises.size) ∧
    ∀ limit, bounds.channels = some limit → limit ≤ full.world.channels.size := by
  rcases pair.limits with rfl | ⟨_, promises, channels, rfl, low, few⟩
  · exact ⟨fun limit same => (by cases same), fun limit same => (by cases same)⟩
  · exact ⟨fun limit same => by cases same; exact low, fun limit same => by cases same; exact few⟩

/-- An operation that was refused does not show. -/
theorem refused {clean : Bool} (wastes : Wastes clean full after)
    (suits : clean = true ∨ ∃ promises channels, bounds = ⟨some promises, some channels⟩)
    (empty : full.stack = []) (idle : full.control = .client sight) {seen : Sight}
    (rests : after.control = .client seen) : Pair bounds accumulator after reduced := by
  obtain ⟨more, promises, -⟩ := wastes.promises
  obtain ⟨others, channels, unheard, -⟩ := wastes.channels
  have alike : Alike bounds after full := wastes_alike wastes pair.few suits idle rests
  have world : after.world.In bounds.zone := {
    waiting := fun promise own registration member =>
      pair.within.world.waiting promise own registration (alike.promise own ▸ member)
    parked := fun index own handler parked =>
      pair.within.world.parked index own handler (alike.accumulator index ▸ parked)
    held := fun index handler held =>
      pair.within.world.held index handler (wastes.handlers index handler held)
    bodies := fun body own => by
      have own : full.world.Holds bounds.zone body := ⟨own.1, wastes.bodies ▸ own.2⟩
      rw [alike.body body]
      exact pair.within.world.bodies body own }
  exact {
    alike := alike_iff.mpr ((alike_iff.mp alike).trans (alike_iff.mp pair.alike))
    within := ⟨⟨world, ⟨[], wastes.stack.trans empty, by simp⟩, .refl _⟩, by
      rw [rests]
      trivial⟩
    inside := pair.inside
    first := pair.first
    limits := by
      refine pair.limits.imp id fun ⟨attached, limit, count, same, low, few⟩ => ?_
      refine ⟨by rw [alike.accumulator]; exact attached, limit, count, same, ?_, ?_⟩
      · rw [promises]
        exact Nat.le_trans low (by simp [Store.size])
      · rw [channels]
        exact Nat.le_trans few (by simp [Store.size])
    unread := fun channel out => by
      rw [World.channel, channels]
      by_cases made : channel < full.world.channels.size
      · rw [Store.get_append _ _ made]
        exact pair.unread channel out
      · simp only [Store.get, List.getElem?_append_right (Nat.le_of_not_lt made)]
        cases row : others[channel - full.world.channels.rows.length]? with
        | none => rfl
        | some item => exact unheard item (List.mem_of_getElem? row) }

/-- An operation that needs no hand-over, or that is done when everything matters. -/
theorem suits (granted : operation.refusal? index full = none)
    (named : (full.world.body index).accumulator = accumulator) :
    operation.handsOver = false ∨ bounds = .whole := by
  rcases pair.limits with whole | ⟨attached, -⟩
  · exact .inr whole
  · rw [← named] at attached
    refine .inl ?_
    cases operation <;> first | rfl | simp [Operation.refusal?, attached] at granted

/-- Only streams that matter are read. -/
theorem reads (admitted : operation.Admitted index full) (channel : Nat)
    (polled : operation = .poll channel) : bounds.zone.channel channel := by
  subst polled
  by_cases own : bounds.zone.channel channel
  · exact own
  · have listening : (full.world.channel channel).listening = true := admitted.1
    rw [pair.unread channel own] at listening
    cases listening

/-- An operation that was not refused goes the same way without those that were. -/
theorem granted {reply : Reply} (reached : full.Reached) (follows : reduced.Reached)
    (guards : site.Guards reduced) (empty : full.stack = []) (idle : full.control = .client sight)
    (suits : operation.handsOver = false ∨ bounds = .whole)
    (performs : Performs client site.body operation full reply after) :
    ∃ next, Performs client site.body operation reduced reply next ∧
      Pair bounds accumulator after next := by
  have reads := pair.reads performs.admitted
  have allowed := pair.alike.admitted guards suits reads empty idle performs.admitted
  obtain ⟨seen, rests⟩ := pair.alike.idle idle
  obtain ⟨start, fits, origins⟩ :=
    fits_moves pair.within pair.first reached suits reads idle performs.admitted
  obtain ⟨origin, follow, -⟩ := fits_moves pair.inside pair.first follows suits reads rests allowed
  have begun := pair.alike.moves suits reads empty idle performs.admitted allowed
  obtain ⟨moves, ran⟩ := performs.run
  obtain ⟨between, course, bottom, replied, rfl⟩ := performs.course
  obtain ⟨later, again, matched, fit, followed⟩ := course.follow begun fits follow
  have alike := alike_iff.mpr matched
  have answered : later.control = .reply reply := by
    have plain := alike.control
    rw [replied] at plain
    cases control : later.control <;> rw [control] at plain <;> cases plain
    rfl
  have surfaced : between.tick.world = between.world := by
    obtain ⟨world, stack, control, journal⟩ := between
    obtain rfl : stack = [] := bottom
    obtain rfl : control = .reply reply := replied
    rfl
  refine ⟨later.tick, ⟨allowed, later, again, alike.stack.symm.trans bottom, answered, rfl⟩, ?_⟩
  exact {
    alike := alike_iff.mpr (by rw [gist_tick fit, matched, ← gist_tick followed])
    within := fit.tick.inside.restart
    inside := followed.tick.inside.restart
    first := pair.first
    limits := by
      refine pair.limits.imp id fun ⟨attached, limit, count, same, low, few⟩ => ?_
      have grown := (reached.rooted.run moves).2
      rw [← ran]
      exact ⟨reached.attached attached moves, limit, count, same,
        Nat.le_trans low grown.promises, Nat.le_trans few grown.channels⟩
    unread := fun channel out => by
      rcases origins with rfl | rfl
      · rw [surfaced, (fit.inside.kept.channels channel out).1]
        exact pair.unread channel out
      · exact absurd (Bounds.channel_whole channel) out }

end Pair

end Machine

end Handoff
