import Handoff.Proofs.Sessions.Exchanges
import Handoff.Proofs.Zones.Scope

namespace Handoff

/-! What matters of a machine.

An operation that is refused may leave things behind that nobody can get hold of: a
promise, a channel, or a line in the log.  The gist of a machine leaves them out.  It
keeps the objects up to some bounds and the calls of handlers.  What the library
does within these bounds depends on the gist only. -/

/-- Whether a number is among the first so many; without a count, every number is. -/
def Below (count : Option Nat) (index : Nat) : Prop :=
  ∀ limit, count = some limit → index < limit

/-- How many promises and channels matter; without a count, all of them do. -/
structure Bounds where
  promises : Option Nat
  channels : Option Nat

namespace Bounds

def whole : Bounds :=
  ⟨none, none⟩

def zone (bounds : Bounds) : Zone where
  promise := Below bounds.promises
  accumulator _ := True
  body _ := True
  channel := Below bounds.channels
  panics := True

end Bounds

namespace Store

variable {α : Type u} [Inhabited α]

def first (store : Store α) : Option Nat → Store α
  | none => store
  | some count => ⟨(List.range count).map store.get⟩

theorem get_first (store : Store α) {count : Option Nat} {index : Nat} (own : Below count index) :
    (store.first count).get index = store.get index := by
  cases count with
  | none => rfl
  | some count =>
      have inside : index < count := own count rfl
      simp [first, get, inside]

theorem first_congr {store other : Store α} {count : Nat}
    (same : ∀ index < count, store.get index = other.get index) :
    store.first (some count) = other.first (some count) := by
  simp only [first, mk.injEq, List.map_inj_left, List.mem_range]
  exact same

theorem first_first (store : Store α) (count : Option Nat) :
    (store.first count).first count = store.first count := by
  cases count with
  | none => rfl
  | some count =>
      refine first_congr fun index inside => store.get_first fun limit same => ?_
      cases same
      exact inside

theorem first_set (store : Store α) {count : Option Nat} {index : Nat} (own : Below count index)
    (value : α) : (store.set index value).first count = (store.first count).set index value := by
  cases count with
  | none => rfl
  | some count =>
      have inside : index < count := own count rfl
      have size : index < (store.first (some count)).size := by simpa [first, Store.size] using inside
      have written : (store.first (some count)).set index value =
          ⟨(store.first (some count)).rows.set index value⟩ := if_pos size
      rw [written]
      simp only [first, mk.injEq]
      refine List.ext_getElem (by simp) fun other _ _ => ?_
      simp [get_set, List.getElem_set, eq_comm]

theorem get_append (store : Store α) (more : List α) {index : Nat} (made : index < store.size) :
    (⟨store.rows ++ more⟩ : Store α).get index = store.get index := by
  have inside : index < store.rows.length := made
  simp only [get, List.getElem?_append_left inside]

/-- What comes later does not matter. -/
theorem first_append (store : Store α) {more : List α} {count : Option Nat}
    (few : ∀ limit, count = some limit → limit ≤ store.size) (spare : count.isSome ∨ more = []) :
    (⟨store.rows ++ more⟩ : Store α).first count = store.first count := by
  cases count with
  | none =>
      obtain rfl := spare.resolve_left (by simp)
      rw [List.append_nil]
  | some limit =>
      exact first_congr fun index inside =>
        store.get_append more (Nat.lt_of_lt_of_le inside (few limit rfl))

end Store

/-- What client code was shown last does not matter to the library. -/
def Control.plain : Control → Control
  | .client _ => .client .start
  | control => control

namespace Machine

def gist (machine : Machine) (bounds : Bounds) : Machine where
  world := { machine.world with
    promises := machine.world.promises.first bounds.promises
    channels := machine.world.channels.first bounds.channels
    handlers := default }
  stack := machine.stack
  control := machine.control.plain
  journal := machine.calls

variable {bounds : Bounds} {machine : Machine} {index : Nat}

section Parts

variable (machine) (bounds)

@[simp] theorem gist_gist : (machine.gist bounds).gist bounds = machine.gist bounds := by
  have control : machine.control.plain.plain = machine.control.plain := by
    cases machine.control <;> rfl
  simp only [gist, calls, List.filter_filter, Bool.and_self, control, Store.first_first]

@[simp] theorem stack_gist : (machine.gist bounds).stack = machine.stack := rfl

@[simp] theorem accumulator_gist (index : Nat) :
    (machine.gist bounds).world.accumulator index = machine.world.accumulator index := rfl

@[simp] theorem body_gist (index : Nat) :
    (machine.gist bounds).world.body index = machine.world.body index := rfl

theorem registrations_gist :
    (machine.gist bounds).world.registrations = machine.world.registrations := rfl

theorem causes_gist : (machine.gist bounds).world.causes = machine.world.causes := rfl

@[simp] theorem gist_turn (task : Task) :
    (machine.turn task).gist bounds = (machine.gist bounds).turn task := rfl

@[simp] theorem gist_reply (reply : Reply) :
    (machine.reply reply).gist bounds = (machine.gist bounds).reply reply := rfl

@[simp] theorem gist_push (frame : Frame) :
    (machine.push frame).gist bounds = (machine.gist bounds).push frame := rfl

@[simp] theorem gist_note (entry : Entry) : (machine.note entry).gist bounds =
    if entry.isCall then (machine.gist bounds).note entry else machine.gist bounds := by
  cases call : entry.isCall <;> simp [gist, calls, note, call]

@[simp] theorem gist_log (notice : Notice) : ((machine.log notice).gist bounds) =
    if notice.isCall then (machine.gist bounds).log notice
    else machine.gist bounds :=
  gist_note bounds machine _

@[simp] theorem gist_invoke (invocation : Invocation) :
    (machine.invoke invocation).gist bounds =
      ((machine.gist bounds).invoke invocation).gist bounds := by
  have called : Entry.isCall (.invoked invocation) = true := rfl
  simp [gist, calls, invoke, push, note, called, Control.plain, Store.first_first]

@[simp] theorem gist_setAccumulator (index : Nat) (accumulator : Accumulator) :
    (machine.setAccumulator index accumulator).gist bounds =
      (machine.gist bounds).setAccumulator index accumulator := rfl

@[simp] theorem gist_setBody (index : Nat) (body : Body) :
    (machine.setBody index body).gist bounds = (machine.gist bounds).setBody index body := rfl

@[simp] theorem gist_setHandler (index : Nat) (handler : Option ChunkHandler) :
    (machine.setHandler index handler).gist bounds = machine.gist bounds := rfl

@[simp] theorem gist_countRegistrations (registrations : Nat) :
    (machine.withWorld { machine.world with registrations }).gist bounds =
      (machine.gist bounds).withWorld { (machine.gist bounds).world with registrations } := rfl

@[simp] theorem gist_countCauses (causes : Nat) :
    (machine.withWorld { machine.world with causes }).gist bounds =
      (machine.gist bounds).withWorld { (machine.gist bounds).world with causes } := rfl

theorem gist_withControl (control : Control) :
    ({ machine with control } : Machine).gist bounds =
      ({ machine.gist bounds with control } : Machine).gist bounds := by
  simp only [gist, calls, List.filter_filter, Bool.and_self, Store.first_first]

end Parts

section Own

@[simp] theorem promise_gist (own : bounds.zone.promise index) :
    (machine.gist bounds).world.promise index = machine.world.promise index :=
  Store.get_first _ own

@[simp] theorem channel_gist (own : bounds.zone.channel index) :
    (machine.gist bounds).world.channel index = machine.world.channel index :=
  Store.get_first _ own

@[simp] theorem gist_setPromise (own : bounds.zone.promise index) (promise : Promise) :
    (machine.setPromise index promise).gist bounds =
      (machine.gist bounds).setPromise index promise := by
  simp only [gist, setPromise, withWorld, World.setPromise, Store.first_set _ own]
  rfl

@[simp] theorem gist_setChannel (own : bounds.zone.channel index) (channel : Channel) :
    (machine.setChannel index channel).gist bounds =
      (machine.gist bounds).setChannel index channel := by
  simp only [gist, setChannel, withWorld, World.setChannel, Store.first_set _ own]
  rfl

end Own

/-! The library's own steps. -/

section Steps

variable (machine)

theorem gist_settle (own : bounds.zone.promise index) (outcome : Outcome) :
    (machine.settle index outcome).gist bounds =
      ((machine.gist bounds).settle index outcome).gist bounds := by
  simp only [settle, promise_gist own]
  split <;> simp [own]

theorem gist_dispatch (outcome : Outcome) (waiting : List Registration) :
    (machine.dispatch index outcome waiting).gist bounds =
      ((machine.gist bounds).dispatch index outcome waiting).gist bounds := by
  cases waiting <;> simp [dispatch]

theorem gist_tell {handler : CompletionHandler} (inside : handler.In bounds.zone)
    (outcome : Outcome) : (machine.tell handler outcome).gist bounds =
      ((machine.gist bounds).tell handler outcome).gist bounds := by
  cases handler with
  | client handler hearing =>
      simp only [tell]
      split <;> simp
  | logging name => simp [tell]
  | forwarding channel =>
      have own : bounds.zone.channel channel := inside
      simp [tell, own]
  | _ => cases outcome <;> simp [tell]

theorem gist_register (own : bounds.zone.promise index) (handler : CompletionHandler) :
    (machine.register index handler).gist bounds =
      ((machine.gist bounds).register index handler).gist bounds := by
  simp only [register, promise_gist own, registrations_gist]
  split <;> simp [own]

theorem gist_forget {handlers : List CompletionHandler}
    (inside : ∀ handler ∈ handlers, handler.In bounds.zone) :
    (machine.forget handlers).gist bounds =
      ((machine.gist bounds).forget handlers).gist bounds := by
  cases handlers with
  | nil => simp [forget]
  | cons handler rest =>
      cases handler with
      | forwarding channel =>
          have own : bounds.zone.channel channel := inside _ (List.mem_cons_self ..)
          have row (frame : Frame) : (machine.push frame).world = machine.world := rfl
          have gistRow (frame : Frame) :
              ((machine.gist bounds).push frame).world = (machine.gist bounds).world := rfl
          cases rest <;> simp [forget, own, row, gistRow]
      | _ => cases rest <;> simp [forget]

theorem gist_release (own : bounds.zone.promise index) :
    (machine.release index).gist bounds = ((machine.gist bounds).release index).gist bounds := by
  simp only [release, promise_gist own]
  split <;> simp [own]

theorem gist_deliver (bytes : Bytes) :
    (machine.deliver index bytes).gist bounds =
      ((machine.gist bounds).deliver index bytes).gist bounds := by
  cases refused : (machine.world.accumulator index).refusal? bytes with
  | some error => simp [deliver, refused]
  | none => cases attached : (machine.world.accumulator index).isAttached <;>
      simp [deliver, refused, attached]

theorem gist_attach (handler : ChunkHandler) :
    (machine.attach index handler).gist bounds =
      ((machine.gist bounds).attach index handler).gist bounds := by
  cases attached : (machine.world.accumulator index).isAttached <;> simp [attach, attached]

theorem gist_finish (ending : Ending) :
    (machine.finish index ending).gist bounds =
      ((machine.gist bounds).finish index ending).gist bounds := by
  cases closed : (machine.world.accumulator index).closed <;> simp [finish, closed]

theorem gist_drain :
    (machine.drain index).gist bounds = ((machine.gist bounds).drain index).gist bounds := by
  simp only [drain, accumulator_gist]
  split <;> simp

theorem gist_letGo (handler : ChunkHandler) :
    (machine.letGo index handler).gist bounds =
      ((machine.gist bounds).letGo index handler).gist bounds := by
  simp [letGo]

theorem gist_next (handler : ChunkHandler) :
    (machine.next index handler).gist bounds =
      ((machine.gist bounds).next index handler).gist bounds := by
  simp only [next, accumulator_gist]
  split
  case h_1 => simp
  case h_2 => simp
  case h_3 ending rest _ =>
      by_cases heard :
          (ending = .finished && (machine.world.accumulator index).wantsEnd) = true
      · simp [heard]
      · simp only [heard, Bool.false_eq_true, if_false]
        exact (gist_letGo _ handler).trans (by rw [gist_setAccumulator])

theorem gist_logs (notices : List Notice) :
    (notices.foldl log machine).gist bounds =
      (notices.foldl log (machine.gist bounds)).gist bounds := by
  induction notices generalizing machine with
  | nil => simp
  | cons notice rest ih =>
      rw [List.foldl_cons, List.foldl_cons, ih, ih ((machine.gist bounds).log notice)]
      simp

theorem gist_feed {handler : ChunkHandler} (inside : handler.In bounds.zone) (bytes : Bytes) :
    (machine.feed handler bytes).gist bounds =
      ((machine.gist bounds).feed handler bytes).gist bounds := by
  cases handler with
  | client handler => simp [feed]
  | logging name => simp [feed]
  | forwarding channel =>
      have own : bounds.zone.channel channel := inside
      simp [feed, own]
  | collecting collector =>
      simp only [feed]
      split
      · simp
      · split
        · simp only [gist_reply]
          rw [gist_logs]
        · simp [raise, causes_gist]

theorem gist_feedEnd {handler : ChunkHandler} (inside : handler.In bounds.zone) :
    (machine.feedEnd handler).gist bounds =
      ((machine.gist bounds).feedEnd handler).gist bounds := by
  cases handler with
  | forwarding channel =>
      have own : bounds.zone.channel channel := inside
      simp [feedEnd, own]
  | _ => simp [feedEnd]

theorem gist_discard {handler : ChunkHandler} (inside : handler.In bounds.zone) :
    (machine.discard handler).gist bounds =
      ((machine.gist bounds).discard handler).gist bounds := by
  cases handler with
  | forwarding channel =>
      have own : bounds.zone.channel channel := inside
      simp [discard, own]
  | _ => simp [discard]

theorem gist_abandon (own : bounds.zone.promise (machine.world.body index).promise) :
    (machine.abandon index).gist bounds = ((machine.gist bounds).abandon index).gist bounds := by
  simp only [abandon, body_gist, promise_gist own]
  split <;> simp

theorem gist_perform {task : Task} (world : machine.world.In bounds.zone)
    (inside : task.In bounds.zone machine.world)
    (waits : ∀ promise handler, task = .register promise handler → bounds.zone.promise promise) :
    (machine.perform task).gist bounds = ((machine.gist bounds).perform task).gist bounds := by
  cases task with
  | settle promise outcome => exact machine.gist_settle inside outcome
  | dispatch promise outcome waiting => exact machine.gist_dispatch outcome waiting
  | tell handler outcome => exact machine.gist_tell inside outcome
  | register promise handler => exact machine.gist_register (waits _ _ rfl) handler
  | forget handlers => exact machine.gist_forget inside
  | release promise => exact machine.gist_release inside
  | deliver accumulator bytes => exact machine.gist_deliver bytes
  | attach accumulator handler => exact machine.gist_attach handler
  | finish accumulator ending => exact machine.gist_finish ending
  | drain accumulator => exact machine.gist_drain
  | next accumulator handler => exact machine.gist_next handler
  | feed handler bytes => exact machine.gist_feed inside bytes
  | feedEnd handler => exact machine.gist_feedEnd inside
  | discard handler => exact machine.gist_discard inside
  | abandon body => exact machine.gist_abandon (world.bodies body inside).2

theorem gist_leave (after : Frame) (otherwise : Control) :
    (machine.leave index after otherwise).gist bounds =
      ((machine.gist bounds).leave index after otherwise).gist bounds := by
  by_cases last : (machine.world.body index).removeSender.senders = 0
  · simp [leave, last]
  · simp only [leave, body_gist, last, if_false]
    exact gist_withControl bounds (machine.setBody index _) otherwise

theorem gist_resume (reply : Reply) {frame : Frame} (inside : frame.In bounds.zone machine.world) :
    (machine.resume reply frame).gist bounds =
      ((machine.gist bounds).resume reply frame).gist bounds := by
  cases frame with
  | client invocation => exact gist_withControl bounds (machine.push _) _
  | fedEnd accumulator handler => exact machine.gist_letGo handler
  | leaving body => exact machine.gist_leave _ _
  | streaming body channel =>
      have own : bounds.zone.channel channel := inside
      cases reply with
      | result result => cases result <;> simp [resume, own]
      | _ => simp [resume]
  | rethrowing message => exact gist_withControl bounds machine _
  | resolving derived => cases reply <;> simp [resume]
  | dropping =>
      cases reply with
      | result result => cases result <;> simp [resume]
      | _ => simp [resume]
  | finishing promise value =>
      cases reply with
      | result result => cases result <;> simp [resume]
      | _ => simp [resume]
  | texting body derived =>
      cases reply with
      | result result => cases result <;> simp [resume]
      | _ => simp [resume]
  | _ => simp [resume]

theorem gist_unwind (message : String) {frame : Frame}
    (inside : frame.In bounds.zone machine.world) :
    (machine.unwind message frame).gist bounds =
      ((machine.gist bounds).unwind message frame).gist bounds := by
  cases frame with
  | client invocation => exact gist_withControl bounds (machine.push _) _
  | leaving body => exact machine.gist_leave _ _
  | streaming body channel =>
      have own : bounds.zone.channel channel := inside
      simp [unwind, own]
  | rethrowing earlier => exact gist_withControl bounds machine _
  | _ => simp [unwind, collapse]

end Steps

end Machine

end Handoff
