import Handoff.Proofs.Bodies.Refusals
import Handoff.Proofs.Channels.Solo
import Handoff.Proofs.Sessions.Exchanges
import Handoff.Proofs.Sinks.Shares

namespace Handoff

/-! Operations that are refused.

The library refuses an operation by itself.  Some operations do work before they are
refused: they begin to abort the stream, or they make a promise or a channel for the
handler that cannot be attached.  What they made is let go, so that nobody can get
hold of it. -/

/-- Why an operation is refused, if it is. -/
def Operation.refusal? (operation : Operation) (index : Nat) (machine : Machine) : Option Error :=
  let body := machine.world.body index
  let accumulator := machine.world.accumulator body.accumulator
  match operation with
  | .send bytes | .deliver bytes => accumulator.refusal? bytes
  | .complete _ | .finish _ => if accumulator.closed then some .streamClosed else none
  | .fail _ | .cancel _ =>
      if (machine.world.promise body.promise).isDone then some .alreadyCompleted else none
  | .attach _ | .text _ | .chunks =>
      if accumulator.isAttached then some .alreadyAttached else none
  | .listen _ _ | .log _ | .poll _ => none

/-- Hands the body over. -/
def Operation.handsOver : Operation → Bool
  | .attach _ | .text _ | .chunks => true
  | _ => false

theorem Store.set_add {α : Type} [Inhabited α] (store : Store α) (first second : α) :
    (store.add first).set store.size second = store.add second := by
  simp [Store.set, Store.add, Store.size]

namespace Machine

/-- After an operation that was refused, the log may be longer, and there may be objects
more that nobody can get hold of; when nothing but the log changed, the operation is
`clean`. -/
structure Wastes (clean : Bool) (before after : Machine) : Prop where
  promises : ∃ more, after.world.promises = ⟨before.world.promises.rows ++ more⟩ ∧
    (clean = true → more = [])
  channels : ∃ more, after.world.channels = ⟨before.world.channels.rows ++ more⟩ ∧
    (∀ channel ∈ more, channel.listening = false) ∧ (clean = true → more = [])
  accumulators : after.world.accumulators = before.world.accumulators
  bodies : after.world.bodies = before.world.bodies
  handlers : ∀ index handler, after.world.handler? index = some handler →
    before.world.handler? index = some handler
  registrations : after.world.registrations = before.world.registrations
  causes : after.world.causes = before.world.causes
  stack : after.stack = before.stack
  calls : after.calls = before.calls

variable {machine after : Machine} {site : Site} {sight : Sight} {clean : Bool}

theorem Passes.solo {count : Nat} (passes : Passes count machine after) : Solo [] machine after := by
  induction passes with
  | arrived => exact .still _
  | @tick count machine next after working same rest ih =>
      refine .tick (fun ceased => ?_) working (same ▸ ih)
      obtain ⟨world, stack, control, journal⟩ := machine
      obtain ⟨rfl, bottom⟩ := ceased
      subst same
      have surfaced : ∃ seen, (⟨world, [], control, journal⟩ : Machine).tick.control =
          .client seen := by
        cases control with
        | reply reply => exact ⟨_, rfl⟩
        | panic message => exact ⟨_, rfl⟩
        | _ => cases bottom
      obtain ⟨seen, surfaced⟩ := surfaced
      cases rest with
      | arrived replied => cases surfaced.symm.trans replied
      | tick busy => exact busy seen surfaced

/-- The calls of handlers are as they were when only the log of the library is longer. -/
theorem wastes_reply (machine : Machine) (reply : Reply) : Wastes clean machine (machine.reply reply) where
  promises := ⟨[], by rw [List.append_nil]; rfl, fun _ => rfl⟩
  channels := ⟨[], by rw [List.append_nil]; rfl, by simp, fun _ => rfl⟩
  accumulators := rfl
  bodies := rfl
  handlers _ _ held := held
  registrations := rfl
  causes := rfl
  stack := rfl
  calls := rfl

theorem wastes_log (machine : Machine) {notice : Notice} (quiet : notice.isCall = false) (reply : Reply) :
    Wastes clean machine ((machine.log notice).reply reply) :=
  { machine.wastes_reply reply with
    calls := List.filter_cons_of_neg (by rw [Entry.isCall, quiet]; exact Bool.false_ne_true) }

/-! A handler that comes too late is let go. -/

theorem Solo.attach {base : List Frame} {index : Nat} {handler : ChunkHandler}
    (attached : (machine.world.accumulator index).isAttached = true)
    (rest : Solo base
      ((machine.push (.replying (.refused .alreadyAttached))).turn (.discard handler)) after) :
    Solo base (machine.turn (.attach index handler)) after := by
  have refused : (machine.turn (.attach index handler)).perform (.attach index handler) =
      (machine.push (.replying (.refused .alreadyAttached))).turn (.discard handler) :=
    if_pos attached
  exact .task (refused ▸ rest)

/-- A share goes while others stay. -/
theorem Solo.share {base : List Frame} {index : Nat}
    (several : 2 ≤ (machine.world.promise index).shares)
    (rest : Solo base
      ((machine.setPromise index (machine.world.promise index).removeShare).reply .done) after) :
    Solo base (machine.turn (.release index)) after := by
  have left : (machine.world.promise index).removeShare.shares ≠ 0 := by
    simp only [Promise.removeShare]
    omega
  have released : (machine.turn (.release index)).perform (.release index) =
      (machine.setPromise index (machine.world.promise index).removeShare).reply .done := by
    have row : (machine.turn (.release index)).world.promise index = machine.world.promise index :=
      rfl
    simp only [perform, release, row, left, decide_false, Bool.false_and]
    rfl
  exact .task (released ▸ rest)

theorem Solo.resume {frame : Frame} {below : List Frame} {reply : Reply}
    (top : machine.stack = frame :: below) (replied : machine.control = .reply reply)
    (rest : Solo [] ({ machine with stack := below }.resume reply frame) after) :
    Solo [] machine after := by
  obtain ⟨world, stack, control, journal⟩ := machine
  obtain rfl : stack = frame :: below := top
  obtain rfl : control = .reply reply := replied
  exact .tick (fun ceased => by cases ceased.1) (fun _ same => by cases same) rest

end Machine

/-- When control is with the client, a body that is settled has its stream closed. -/
theorem Site.Guards.closed_idle {site : Site} {machine : Machine} {sight : Sight}
    (guards : site.Guards machine) (idle : machine.control = .client sight)
    (settled : (machine.world.promise site.promise).isDone = true) :
    (machine.world.accumulator site.accumulator).closed = true :=
  (guards.shut settled).closed (by rw [idle]; exact id)

/-- The handler that the client makes. -/
def NewHandler.made : NewHandler → ChunkHandler
  | .client handler => .client handler
  | .logging name => .logging name
  | .collecting charset capacity promise => .collecting (.new charset capacity promise)

/-- A collector shares the sink of its promise. -/
def NewHandler.share (machine : Machine) : NewHandler → Machine
  | .collecting _ _ promise =>
      machine.setPromise promise (machine.world.promise promise).addShare
  | _ => machine

namespace Machine

variable {machine after : Machine} {site : Site} {sight : Sight} {clean : Bool}

def withHandlers (machine : Machine) (handlers : Store (Option ChunkHandler)) : Machine :=
  machine.withWorld { machine.world with handlers }

/-- The machine once the client has made a handler. -/
def equipped (machine : Machine) (handler : NewHandler) : Machine :=
  { (handler.share machine).withHandlers (machine.world.handlers.add (some handler.made)) with
    control := .client (.replied (.made machine.world.handlers.size)) }

theorem run_preparation (empty : machine.stack = []) (idle : machine.control = .client sight)
    {handler : NewHandler} (admitted : machine.world.admits (.newHandler handler) = true) :
    machine.run (Operation.attach handler).preparation = machine.equipped handler := by
  obtain ⟨world, stack, control, journal⟩ := machine
  obtain rfl : stack = [] := empty
  obtain rfl : control = .client sight := idle
  simp only [Operation.preparation, run_cons, run_nil, act, admitted, if_true, begin]
  cases handler <;> rfl

theorem run_attach {handler : NewHandler} {index : Nat} (empty : machine.stack = [])
    (idle : machine.control = .client sight)
    (admitted : (Operation.attach handler).Admitted index machine) :
    machine.run ((Operation.attach handler).moves index machine) =
      ((handler.share machine).withHandlers
        ((machine.world.handlers.add (some handler.made)).set machine.world.handlers.size none)).turn
          (.attach (machine.world.body index).accumulator handler.made) := by
  obtain ⟨asked, made⟩ := admitted
  rw [run_preparation empty idle made] at asked
  have begun : (machine.equipped handler).act (.call ((Operation.attach handler).call index machine)) =
      (machine.equipped handler).begin ((Operation.attach handler).call index machine) := by
    have free : (machine.equipped handler).control =
        .client (.replied (.made machine.world.handlers.size)) := rfl
    simp only [act, free, asked, if_true]
  have given : ((machine.equipped handler).takeHandler machine.world.handlers.size).1 =
      handler.made := by
    have row : ((machine.world.handlers.add (some handler.made)).get machine.world.handlers.size).getD
        default = handler.made := by simp [Store.get_add]
    exact row
  rw [Operation.moves, run_append, run_preparation empty idle made, run_cons, run_nil, begun]
  simp only [begin, Operation.call, given]
  rfl

theorem mem_handlers {handlers : Store (Option ChunkHandler)} {made handler : ChunkHandler}
    {index : Nat} (held : ((handlers.add (some made)).set handlers.size none).get index = some handler) :
    handlers.get index = some handler := by
  rw [Store.get_set] at held
  split at held
  case isTrue => cases held
  case isFalse other => rwa [Store.get_add, if_neg other] at held

theorem share_released {promise : Nat} (made : promise < machine.world.promises.size) :
    let shared := machine.setPromise promise (machine.world.promise promise).addShare
    (shared.setPromise promise (shared.world.promise promise).removeShare).world.promises =
      machine.world.promises := by
  have row : ((machine.world.promises.set promise
      (machine.world.promise promise).addShare).get promise).removeShare =
        machine.world.promises.get promise := by
    rw [Store.get_set_same]
    rfl
  exact (congrArg ((machine.world.promises.set promise
    (machine.world.promise promise).addShare).set promise) row).trans
      (Store.set_get_same machine.world.promises made _)

/-- A handler of the client that cannot be attached is let go. -/
theorem solo_attach {handler : NewHandler} {index : Nat} (reached : machine.Reached)
    (empty : machine.stack = []) (idle : machine.control = .client sight)
    (admitted : (Operation.attach handler).Admitted index machine)
    (attached : (machine.world.accumulator (machine.world.body index).accumulator).isAttached = true) :
    ∃ after, Solo [] (machine.run ((Operation.attach handler).moves index machine)) after ∧
      Wastes clean machine after ∧ after.control = .reply (.refused .alreadyAttached) := by
  let taken := (handler.share machine).withHandlers
    ((machine.world.handlers.add (some handler.made)).set machine.world.handlers.size none)
  suffices goes : ∃ after, Solo [] ((taken.push (.replying (.refused .alreadyAttached))).turn
      (.discard handler.made)) after ∧ Wastes clean machine after ∧
        after.control = .reply (.refused .alreadyAttached) by
    obtain ⟨after, rest, wastes⟩ := goes
    refine ⟨after, ?_, wastes⟩
    have same : taken.world.accumulators = machine.world.accumulators := by cases handler <;> rfl
    have attached : (taken.world.accumulator (machine.world.body index).accumulator).isAttached =
        true := by rw [World.accumulator, same]; exact attached
    rw [run_attach empty idle admitted]
    exact .attach attached rest
  have kept : Wastes clean machine (machine.reply (.refused .alreadyAttached)) :=
    machine.wastes_reply _
  have made := admitted.2
  cases handler with
  | client number =>
      refine ⟨_, .task (.resume rfl rfl (.still _)), ?_, rfl⟩
      exact { kept with handlers := fun index handler held => mem_handlers held }
  | logging name =>
      refine ⟨_, .task (.resume rfl rfl (.still _)), ?_, rfl⟩
      exact { kept with handlers := fun index handler held => mem_handlers held }
  | collecting charset capacity promise =>
      let shared := machine.setPromise promise (machine.world.promise promise).addShare
      have row : shared.world.promise promise = (machine.world.promise promise).addShare :=
        Store.get_set_same _ _ _
      have held : 2 ≤ (shared.world.promise promise).shares :=
        row ▸ Nat.succ_le_succ (reached.shares_of_owned made)
      have released : Solo [] ((taken.push (.replying (.refused .alreadyAttached))).turn
          (.discard (.collecting (.new charset capacity promise))))
            (((shared.setPromise promise (shared.world.promise promise).removeShare).withHandlers
              taken.world.handlers).reply (.refused .alreadyAttached)) :=
        .task (.share held (.resume rfl rfl (.still _)))
      refine ⟨_, released, ?_, rfl⟩
      exact { kept with
        promises := ⟨[], by
          rw [List.append_nil]
          exact share_released (World.promise_lt_of_owned made), fun _ => rfl⟩
        handlers := fun index handler held => mem_handlers held }

/-- An operation without preparation is a call. -/
theorem run_moves {operation : Operation} {index : Nat} (idle : machine.control = .client sight)
    (plain : operation.preparation = []) (admitted : operation.Admitted index machine) :
    machine.run (operation.moves index machine) = machine.begin (operation.call index machine) := by
  have asked := admitted.1
  rw [plain, run_nil] at asked
  rw [Operation.moves, plain, List.nil_append, run_cons, run_nil]
  simp only [act, idle, asked, if_true]

theorem settle_pending {index : Nat} {waiting : List Registration}
    (pending : (machine.world.promise index).state = .pending waiting) (outcome : Outcome) :
    machine.settle index outcome =
      (((machine.setPromise index ((machine.world.promise index).settle outcome)).note
        (.settled index outcome)).log (.promiseSettled outcome.status waiting.length)).turn
          (.dispatch index outcome waiting) := by
  simp [settle, pending]

/-- A promise that nobody heard of is cancelled when its last share goes. -/
theorem Solo.lapse {index : Nat} (unheard : (machine.world.promise index).state = .pending [])
    (last : (machine.world.promise index).shares = 1)
    (rest : Solo [] ((((((machine.setPromise index (machine.world.promise index).removeShare).setPromise
      index ((machine.world.promise index).removeShare.settle (.cancelled false))).note
        (.settled index (.cancelled false))).log (.promiseSettled .cancelled 0)).log
          .sinkDropped).reply .done) after) : Solo [] (machine.turn (.release index)) after := by
  let left := (machine.world.promise index).removeShare
  let dropping := (machine.setPromise index left).push .dropping
  have released : (machine.turn (.release index)).perform (.release index) =
      dropping.turn (.settle index (.cancelled false)) := by
    have row : (machine.turn (.release index)).world.promise index = machine.world.promise index :=
      rfl
    have gone : (machine.world.promise index).removeShare.shares = 0 := by
      simp [Promise.removeShare, last]
    have pending : (machine.world.promise index).removeShare.isDone = false := by
      simp [Promise.isDone, Promise.outcome?, Promise.removeShare, unheard]
    simp only [perform, release, row, gone, pending, decide_true, Bool.not_false, Bool.and_self,
      if_true]
    rfl
  have row : dropping.world.promise index = left := Store.get_set_same _ _ _
  have waits : (dropping.world.promise index).state = .pending [] := row.symm ▸ unheard
  have settled : (dropping.turn (.settle index (.cancelled false))).perform
      (.settle index (.cancelled false)) =
        (((dropping.setPromise index (left.settle (.cancelled false))).note
          (.settled index (.cancelled false))).log (.promiseSettled .cancelled 0)).turn
            (.dispatch index (.cancelled false) []) := by
    rw [← row]
    exact @settle_pending (dropping.turn _) _ _ waits _
  exact .task (released ▸ .task (settled ▸ .task (.resume rfl rfl rest)))

/-- The machine with a promise more. -/
def withPromise (machine : Machine) (promise : Promise) : Machine :=
  machine.withWorld (machine.world.addPromise promise)

theorem promise_withPromise (machine : Machine) (promise : Promise) :
    (machine.withPromise promise).world.promise machine.world.promises.size = promise :=
  (Store.get_add _ _ _).trans (if_pos rfl)

theorem setPromise_withPromise (machine : Machine) (first second : Promise) :
    (machine.withPromise first).setPromise machine.world.promises.size second =
      machine.withPromise second :=
  congrArg (fun promises => machine.withWorld { machine.world with promises })
    (Store.set_add machine.world.promises first second)

/-- A text that cannot be had: its promise is cancelled, and nobody ever gets hold of it. -/
theorem solo_text {index : Nat} (empty : machine.stack = []) (charset : Charset)
    (attached : (machine.world.accumulator (machine.world.body index).accumulator).isAttached = true) :
    ∃ after, Solo [] (machine.begin (.text index charset)) after ∧
      Wastes false machine after ∧ after.control = .reply (.refused .alreadyAttached) := by
  let derived := machine.world.promises.size
  let refusal : Frame := .replying (.refused .alreadyAttached)
  let texting : Frame := .texting index derived
  let lapsed : Machine :=
    { machine.withPromise ⟨.settled (.cancelled false), 0, false⟩ with stack := [] }
  let gone := (((lapsed.note (.settled derived (.cancelled false))).log
    (.promiseSettled .cancelled 0)).log .sinkDropped).reply (.refused .alreadyAttached)
  have written (first second : Promise) (frames : List Frame) :
      ({ machine.withPromise first with stack := frames } : Machine).setPromise derived second =
        { machine.withPromise second with stack := frames } :=
    congrArg (fun made : Machine => { made with stack := frames })
      (machine.setPromise_withPromise first second)
  have row (promise : Promise) (frames : List Frame) :
      ({ machine.withPromise promise with stack := frames } : Machine).world.promise derived = promise :=
    machine.promise_withPromise promise
  have cancelled : Solo [] (({ machine.withPromise (.inside 1) with stack := [refusal] } : Machine).turn
      (.release derived)) gone := by
    refine .lapse (by rw [row]; rfl) (by rw [row]; rfl) ?_
    rw [row, written, written]
    exact .resume rfl rfl (.still _)
  have refused : Solo [] (({ machine.withPromise (.inside 2) with
      stack := [refusal, texting] } : Machine).turn (.release derived)) gone := by
    refine .share (by rw [row]; exact Nat.le_refl 2) ?_
    rw [row, written]
    exact .resume rfl rfl (.resume rfl rfl cancelled)
  have begun : { machine.withPromise (.inside 2) with stack := [refusal, texting] } =
      ((machine.withPromise (.inside 2)).push texting).push refusal := by
    rw [← empty]
    rfl
  rw [begun] at refused
  refine ⟨gone, .attach attached (.task refused), ?_, rfl⟩
  exact { machine.wastes_reply (.refused .alreadyAttached) with
    promises := ⟨[_], rfl, fun clean => (by cases clean)⟩
    stack := empty.symm }

/-- A stream that cannot be had: nobody reads its channel. -/
theorem solo_chunks {index : Nat} (empty : machine.stack = [])
    (attached : (machine.world.accumulator (machine.world.body index).accumulator).isAttached = true) :
    ∃ after, Solo [] (machine.begin (.chunks index)) after ∧
      Wastes false machine after ∧ after.control = .reply (.refused .alreadyAttached) := by
  obtain ⟨world, stack, control, journal⟩ := machine
  obtain rfl : stack = [] := empty
  refine ⟨_, .attach attached (.task (.resume rfl rfl (.resume rfl rfl (.still _)))), ?_, rfl⟩
  have written (first second : Channel) :
      ((world.channels.add .new).set world.channels.size first).set world.channels.size second =
        world.channels.add second := by rw [Store.set_add, Store.set_add]
  exact { (⟨world, [], control, journal⟩ : Machine).wastes_reply (.refused .alreadyAttached) with
    channels := ⟨[_], written _ _, by simp [Channel.abandon], fun clean => (by cases clean)⟩ }

/-- An operation that is refused leaves nothing behind that anybody can get hold of. -/
theorem solo_refused {operation : Operation} {error : Error} (guards : site.Guards machine)
    (reached : machine.Reached) (empty : machine.stack = [])
    (idle : machine.control = .client sight) (admitted : operation.Admitted site.body machine)
    (refused : operation.refusal? site.body machine = some error) :
    ∃ after, Solo [] (machine.run (operation.moves site.body machine)) after ∧
      Wastes (!operation.handsOver) machine after ∧ after.control = .reply (.refused error) := by
  have called (plain : operation.preparation = []) {after : Machine}
      (rest : Solo [] (machine.begin (operation.call site.body machine)) after)
      (wastes : Wastes (!operation.handsOver) machine after)
      (replied : after.control = .reply (.refused error)) :
      ∃ after, Solo [] (machine.run (operation.moves site.body machine)) after ∧
        Wastes (!operation.handsOver) machine after ∧ after.control = .reply (.refused error) := by
    rw [run_moves idle plain admitted]
    exact ⟨after, rest, wastes, replied⟩
  cases operation with
  | send bytes =>
      refine called rfl (passes_send guards admitted.1 ?_).solo (machine.wastes_reply _) rfl
      rw [← guards.accumulator]
      exact refused
  | complete value =>
      obtain ⟨closed, ⟨⟩⟩ := Option.ite_none_right_eq_some.mp refused
      rw [guards.accumulator] at closed
      exact called rfl (passes_complete guards closed admitted.1 value).solo
        (machine.wastes_reply _) rfl
  | fail outcome =>
      obtain ⟨settled, ⟨⟩⟩ := Option.ite_none_right_eq_some.mp refused
      rw [guards.promise] at settled
      have owned := (Bool.and_eq_true_iff.mp admitted.1).1
      exact called rfl (passes_fail guards (guards.closed_idle idle settled) settled owned outcome).solo
        (machine.wastes_log rfl _) rfl
  | cancel force =>
      obtain ⟨settled, ⟨⟩⟩ := Option.ite_none_right_eq_some.mp refused
      exact called rfl (passes_cancel settled force).solo (machine.wastes_log rfl _) rfl
  | deliver bytes => exact called rfl (passes_deliver refused).solo (machine.wastes_reply _) rfl
  | finish ending =>
      obtain ⟨closed, ⟨⟩⟩ := Option.ite_none_right_eq_some.mp refused
      exact called rfl (passes_finish closed ending).solo (machine.wastes_reply _) rfl
  | attach handler =>
      obtain ⟨attached, ⟨⟩⟩ := Option.ite_none_right_eq_some.mp refused
      exact solo_attach reached empty idle admitted attached
  | text charset =>
      obtain ⟨attached, ⟨⟩⟩ := Option.ite_none_right_eq_some.mp refused
      obtain ⟨after, rest, wastes, replied⟩ := solo_text empty charset attached
      exact called rfl rest wastes replied
  | chunks =>
      obtain ⟨attached, ⟨⟩⟩ := Option.ite_none_right_eq_some.mp refused
      obtain ⟨after, rest, wastes, replied⟩ := solo_chunks empty attached
      exact called rfl rest wastes replied
  | listen handler hearing => cases refused
  | log name => cases refused
  | poll channel => cases refused

end Machine

section

variable {client : Client} {operation : Operation} {reply : Reply} {before after : Machine}
  {site : Site} {sight : Sight} {error : Error}

/-- What an operation that is refused replies, and what it leaves. -/
theorem Performs.refused (performs : Performs client site.body operation before reply after)
    (guards : site.Guards before) (reached : before.Reached) (empty : before.stack = [])
    (idle : before.control = .client sight)
    (refused : operation.refusal? site.body before = some error) :
    reply = .refused error ∧ before.Wastes (!operation.handsOver) after := by
  obtain ⟨between, course, bottom, replied, rfl⟩ := performs.course
  obtain ⟨last, solo, wastes, answered⟩ :=
    Machine.solo_refused guards reached empty idle performs.admitted refused
  have floor : last.stack = [] := wastes.stack.trans empty
  have ends : Machine.Ends client.plays [] (fun final => final = last) last :=
    Machine.ends_of_over ⟨floor, by rw [answered]; rfl⟩ rfl
  obtain rfl : between = last :=
    solo.ends ends between course ⟨bottom, by rw [replied]; rfl⟩
  obtain ⟨world, stack, control, journal⟩ := between
  obtain rfl : control = .reply reply := replied
  obtain rfl : stack = [] := floor
  cases answered
  exact ⟨rfl, { wastes with }⟩

end

end Handoff
