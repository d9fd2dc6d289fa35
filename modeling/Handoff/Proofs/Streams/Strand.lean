import Handoff.Proofs.Streams.History

namespace Handoff

/-! The strand of an accumulator.

A machine works on many objects at once.  The strand of one accumulator is all
that concerns it: its row in the table, what control is about to do with it, the
calls of its handler that are under way, and its past.  A move of the machine
moves the strand of every accumulator by one of the steps below, or leaves it
alone.  Everything that is proved of single accumulators is proved over these
steps. -/

inductive HandlerCall where
  | chunk
  | ending
deriving DecidableEq

/-- What control is about to do with an accumulator. -/
inductive Attention where
  | away
  /-- A drain is about to look for a parked handler. -/
  | draining
  /-- A drain is about to take the next item out of the queue. -/
  | turning
deriving DecidableEq

structure Strand where
  accumulator : Accumulator
  made : Prop
  attention : Attention
  /-- The calls of the handler that are under way, innermost first. -/
  calls : List HandlerCall
  past : List Entry

def Task.attention (index : Nat) : Task → Attention
  | .drain accumulator => if accumulator = index then .draining else .away
  | .next accumulator _ => if accumulator = index then .turning else .away
  | _ => .away

def Control.attention (index : Nat) : Control → Attention
  | .task work => work.attention index
  | _ => .away

def Frame.handlerCall? (index : Nat) : Frame → Option HandlerCall
  | .fed accumulator _ => if accumulator = index then some .chunk else none
  | .fedEnd accumulator _ => if accumulator = index then some .ending else none
  | _ => none

namespace Machine

/-- The calls of the handler of an accumulator that are under way. -/
def handlerCalls (machine : Machine) (index : Nat) : List HandlerCall :=
  machine.stack.filterMap (Frame.handlerCall? index)

def strand (machine : Machine) (index : Nat) : Strand where
  accumulator := machine.world.accumulator index
  made := index < machine.world.accumulators.size
  attention := machine.control.attention index
  calls := machine.handlerCalls index
  past := machine.streamPast index

end Machine

namespace Strand

def blank : Strand :=
  ⟨Accumulator.new none, False, .away, [], []⟩

def look (strand : Strand) (attention : Attention) : Strand :=
  { strand with attention }

/-- The table grows; the row reads as before. -/
def grow (strand : Strand) (made : Prop) : Strand :=
  { strand with made := strand.made ∨ made }

def become (strand : Strand) (accumulator : Accumulator) : Strand :=
  { strand with accumulator, made := True }

def note (strand : Strand) (entry : Entry) : Strand :=
  { strand with past := strand.past ++ [entry] }

/-- An entry is noted if it is about accumulator `index`. -/
def hear (strand : Strand) (index : Nat) (entry : Entry) : Strand :=
  if entry.accumulator? = some index then strand.note entry else strand

def enter (strand : Strand) (call : HandlerCall) : Strand :=
  { strand with calls := call :: strand.calls }

/-- A frame goes on the stack; it may stand for a call of the handler. -/
def meet (strand : Strand) : Option HandlerCall → Strand
  | none => strand
  | some call => strand.enter call

def leave (strand : Strand) (calls : List HandlerCall) : Strand :=
  { strand with calls }

/-- What one move of the machine does to the strand of accumulator `index`. -/
inductive Step (index : Nat) (strand : Strand) : Strand → Prop where
  | still (made : Prop) : Step index strand (strand.grow made)
  | make (ceiling : Option Nat) (fresh : ¬ strand.made) :
      Step index strand (strand.become (Accumulator.new ceiling))
  | accept (bytes : Bytes) (idle : strand.attention = .away)
      (fits : strand.accumulator.refusal? bytes = none) :
      Step index strand (((strand.become (strand.accumulator.enqueue bytes)).note
        (.accepted index bytes)).look .draining)
  | attach (handler : ChunkHandler) (idle : strand.attention = .away)
      (first : strand.accumulator.isAttached = false) :
      Step index strand ((strand.become (strand.accumulator.park handler)).look .draining)
  | close (ending : Ending) (idle : strand.attention = .away)
      (opened : strand.accumulator.closed = false) :
      Step index strand (((strand.become (strand.accumulator.close ending)).note
        (.closed index ending)).look .draining)
  | pass (draining : strand.attention = .draining)
      (absent : ∀ handler, strand.accumulator.stage ≠ .parked handler) :
      Step index strand (strand.look .away)
  | take (handler : ChunkHandler) (draining : strand.attention = .draining)
      (parked : strand.accumulator.stage = .parked handler) :
      Step index strand
        ((strand.become { strand.accumulator with stage := .draining }).look .turning)
  | park (handler : ChunkHandler) (turning : strand.attention = .turning)
      (dry : strand.accumulator.queue = []) :
      Step index strand ((strand.become (strand.accumulator.park handler)).look .away)
  | hand (bytes : Bytes) (rest : List Item) (turning : strand.attention = .turning)
      (first : strand.accumulator.queue = .chunk bytes :: rest) :
      Step index strand ((((strand.become (strand.accumulator.dequeue bytes rest)).note
        (.handed index bytes)).enter .chunk).look .away)
  | answer (wantsEnd : Bool) (calls : List HandlerCall) (idle : strand.attention = .away)
      (running : strand.calls = .chunk :: calls) :
      Step index strand ((((strand.leave calls).become
        { strand.accumulator with wantsEnd }).note (.answered index wantsEnd)).look .turning)
  | tell (rest : List Item) (turning : strand.attention = .turning)
      (first : strand.accumulator.queue = .ending .finished :: rest)
      (wanted : strand.accumulator.wantsEnd = true) :
      Step index strand ((((strand.become { strand.accumulator with queue := rest }).note
        (.ended index)).enter .ending).look .away)
  /-- The handler goes without being told of the end. -/
  | release (ending : Ending) (rest : List Item) (turning : strand.attention = .turning)
      (first : strand.accumulator.queue = .ending ending :: rest)
      (unwanted : ending = .finished → strand.accumulator.wantsEnd = false) :
      Step index strand (((strand.become strand.accumulator.release).note
        (.released index)).look .away)
  /-- The handler goes after it was told of the end. -/
  | dismiss (calls : List HandlerCall) (idle : strand.attention = .away)
      (running : strand.calls = .ending :: calls) :
      Step index strand ((((strand.leave calls).become strand.accumulator.release).note
        (.released index)).look .away)
  | collapse (call : HandlerCall) (calls : List HandlerCall) (idle : strand.attention = .away)
      (running : strand.calls = call :: calls) :
      Step index strand ((((strand.leave calls).become strand.accumulator.collapse).note
        (.collapsed index)).look .away)

variable {strand : Strand} {index : Nat}

theorem Step.unchanged {after : Strand} (same : after = strand) : Step index strand after := by
  simpa [same, grow] using @Step.still index strand False

theorem Step.grown {after : Strand} (made : Prop) (same : after = strand.grow made) :
    Step index strand after :=
  same ▸ Step.still made

theorem look_same {attention : Attention} (same : strand.attention = attention) :
    strand.look attention = strand := by
  subst same
  rfl

theorem Step.quiet {after : Strand} {attention : Attention} (same : after = strand.look attention)
    (idle : strand.attention = attention) : Step index strand after :=
  .unchanged (same.trans (look_same idle))

@[simp] theorem look_grow (attention : Attention) (made : Prop) :
    (strand.grow made).look attention = (strand.look attention).grow made := rfl

@[simp] theorem grow_grow (first second : Prop) :
    (strand.grow first).grow second = strand.grow (first ∨ second) := by
  simp [grow, or_assoc]

@[simp] theorem become_become (first second : Accumulator) :
    (strand.become first).become second = strand.become second := rfl

@[simp] theorem leave_enter (call : HandlerCall) :
    (strand.enter call).leave strand.calls = strand := rfl

@[simp] theorem accumulator_enter (call : HandlerCall) :
    (strand.enter call).accumulator = strand.accumulator := rfl

end Strand

namespace Machine

variable (machine : Machine) (index : Nat)

/-! What the parts of a move do to a strand. -/

@[simp] theorem strand_accumulator :
    (machine.strand index).accumulator = machine.world.accumulator index := rfl

@[simp] theorem withWorld_world : machine.withWorld machine.world = machine := rfl

@[simp] theorem strand_addPromise (world : World) (promise : Promise) :
    (machine.withWorld (world.addPromise promise)).strand index =
      (machine.withWorld world).strand index := rfl

@[simp] theorem strand_addBody (world : World) (body : Body) :
    (machine.withWorld (world.addBody body)).strand index =
      (machine.withWorld world).strand index := rfl

@[simp] theorem strand_addChannel (world : World) (channel : Channel) :
    (machine.withWorld (world.addChannel channel)).strand index =
      (machine.withWorld world).strand index := rfl

@[simp] theorem strand_addHandler (world : World) (handler : ChunkHandler) :
    (machine.withWorld (world.addHandler handler)).strand index =
      (machine.withWorld world).strand index := rfl

@[simp] theorem strand_countRegistrations (registrations : Nat) :
    (machine.withWorld { machine.world with registrations }).strand index =
      machine.strand index := rfl

@[simp] theorem strand_countCauses (causes : Nat) :
    (machine.withWorld { machine.world with causes }).strand index =
      machine.strand index := rfl

@[simp] theorem strand_setPromise (other : Nat) (promise : Promise) :
    (machine.setPromise other promise).strand index = machine.strand index := rfl

@[simp] theorem strand_setBody (other : Nat) (body : Body) :
    (machine.setBody other body).strand index = machine.strand index := rfl

@[simp] theorem strand_setChannel (other : Nat) (channel : Channel) :
    (machine.setChannel other channel).strand index = machine.strand index := rfl

@[simp] theorem strand_setHandler (other : Nat) (handler : Option ChunkHandler) :
    (machine.setHandler other handler).strand index = machine.strand index := rfl

@[simp] theorem strand_setAccumulator_own (accumulator : Accumulator) :
    (machine.setAccumulator index accumulator).strand index =
      (machine.strand index).become accumulator := by
  have made : (index < max machine.world.accumulators.size (index + 1)) = True :=
    eq_true (by omega)
  simp only [strand, setAccumulator, withWorld, World.setAccumulator, World.accumulator,
    Strand.become, handlerCalls, streamPast, Store.size_set, Store.get_set_same, made]

@[simp] theorem accumulator_setAccumulator_own (accumulator : Accumulator) :
    (machine.setAccumulator index accumulator).world.accumulator index = accumulator := by
  simp [setAccumulator, withWorld, World.setAccumulator, World.accumulator]

theorem strand_setAccumulator_other {other : Nat} (accumulator : Accumulator)
    (apart : index ≠ other) :
    (machine.setAccumulator other accumulator).strand index =
      (machine.strand index).grow (index ≤ other) := by
  have made : (index < max machine.world.accumulators.size (other + 1)) =
      (index < machine.world.accumulators.size ∨ index ≤ other) := by
    refine propext ⟨fun less => ?_, fun less => ?_⟩ <;> omega
  simp only [strand, setAccumulator, withWorld, World.setAccumulator, World.accumulator,
    Strand.grow, handlerCalls, streamPast, Store.get_set_other _ _ apart, Store.size_set, made]

@[simp] theorem strand_note (entry : Entry) :
    (machine.note entry).strand index = (machine.strand index).hear index entry := by
  by_cases own : entry.accumulator? = some index <;>
    simp [strand, note, streamPast, handlerCalls, own, Strand.hear, Strand.note]

@[simp] theorem strand_push (frame : Frame) :
    (machine.push frame).strand index =
      (machine.strand index).meet (frame.handlerCall? index) := by
  cases own : frame.handlerCall? index <;>
    simp [strand, push, handlerCalls, streamPast, own, Strand.meet, Strand.enter]

@[simp] theorem strand_turn (task : Task) :
    (machine.turn task).strand index = (machine.strand index).look (task.attention index) := rfl

@[simp] theorem strand_reply (reply : Reply) :
    (machine.reply reply).strand index = (machine.strand index).look .away := rfl

attribute [simp] Strand.hear Strand.meet Entry.accumulator? Frame.handlerCall? Task.attention

@[simp] theorem strand_log (notice : Notice) :
    (machine.log notice).strand index = machine.strand index := by
  simp [log]

@[simp] theorem strand_logs (notices : List Notice) :
    (notices.foldl log machine).strand index = machine.strand index := by
  induction notices generalizing machine with
  | nil => rfl
  | cons notice rest ih => exact (ih (machine.log notice)).trans (machine.strand_log index notice)

@[simp] theorem strand_invoke (invocation : Invocation) :
    (machine.invoke invocation).strand index = (machine.strand index).look .away := by
  change (((machine.note (.invoked invocation)).push (.client invocation)).strand index).look
    .away = _
  simp

end Machine

end Handoff
