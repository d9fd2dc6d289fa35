import Handoff.Config.Json
import Handoff.Machine.Run
import Handoff.Script.Record
import Handoff.Script.Step

namespace Handoff.Script

/-! The state of a script that is being played: the machine, the names given so
far, and the programs of the handlers made so far. -/

/-- A sink or a sender in the client's hands. -/
inductive Owned where
  | sink (promise : Nat)
  | sender (body : Nat)

/-- A recording chunk handler and the number of its next chunk call. -/
structure Recorder where
  program : Program
  calls : Nat

/-- A mapping function and the name of the future it leads to. -/
structure Mapping where
  name : String
  function : Function

structure Player where
  machine : Machine
  /-- Whether the log is written down. -/
  logged : Bool
  /-- Entries of the journal that were looked at. -/
  seen : Nat
  /-- Latest event first. -/
  events : List Event
  taken : List String
  /-- Sinks and senders in the order they were made. -/
  owned : List (String × Owned)
  futures : List (String × Nat)
  accumulators : List (String × Nat)
  bodies : List (String × Nat)
  streams : List (String × Nat)
  waiters : List (String × Nat)
  causes : List (String × Cause)
  listeners : List Listener
  recorders : List Recorder
  mappings : List Mapping

namespace Player

def start (logged : Bool) : Player :=
  { machine := .initial, logged, seen := 0, events := [], taken := [], owned := [], futures := [],
    accumulators := [], bodies := [], streams := [], waiters := [], causes := [],
    listeners := [], recorders := [], mappings := [] }

def world (player : Player) : World :=
  player.machine.world

def promise (player : Player) (index : Nat) : Promise :=
  player.world.promise index

def sink? (player : Player) (name : String) : Option Nat :=
  match player.owned.lookup name with
  | some (.sink promise) => some promise
  | _ => none

def sender? (player : Player) (name : String) : Option Nat :=
  match player.owned.lookup name with
  | some (.sender body) => some body
  | _ => none

def future? (player : Player) (name : String) : Option Nat :=
  player.futures.lookup name

def accumulator? (player : Player) (name : String) : Option Nat :=
  player.accumulators.lookup name

def body? (player : Player) (name : String) : Option Nat :=
  player.bodies.lookup name

def stream? (player : Player) (name : String) : Option Nat :=
  player.streams.lookup name

def summary (player : Player) (name : String) : Summary :=
  { future := (player.future? name).map fun index => (player.promise index).status
    accumulator := (player.accumulator? name).map fun index =>
      let accumulator := player.world.accumulator index
      (accumulator.isAttached, accumulator.closed, accumulator.bufferedChunks,
        accumulator.queuedBytes) }

def inspect (player : Player) (name : String) : List String :=
  (player.sink? name).toList.map (fun index => (player.promise index).inspectSink)
    ++ (player.future? name).toList.map (fun index => (player.promise index).inspectFuture)
    ++ (player.accumulator? name).toList.map fun index => (player.world.accumulator index).inspect

def record (player : Player) (event : Event) : Player :=
  { player with events := event :: player.events }

def event? (player : Player) : Entry → Option Event
  | .notice notice => if player.logged then some (.log notice) else none
  | .dropped handler => do
      let recorder ← player.recorders[handler]?
      if recorder.program.closure then none else some (.dropped recorder.program.tag)
  | _ => none

/-- Writes down what the journal has got since it was looked at. -/
def catchUp (player : Player) : Player :=
  let entries := player.machine.journal
  let fresh := entries.take (entries.length - player.seen)
  { player with
    seen := entries.length
    events := fresh.filterMap player.event? ++ player.events }

def settleDown (player : Player) : Player :=
  { player with machine := player.machine.settleDown }.catchUp

def act (player : Player) (move : Move) : Player :=
  { player with machine := player.machine.act move }.settleDown

/-- Gives a name, unless it was given before. -/
def giveName (player : Player) (name : String) : Option Player :=
  if player.taken.contains name then none
  else some { player with taken := name :: player.taken }

def addListener (player : Player) (listener : Listener) : Nat × Player :=
  (player.listeners.length, { player with listeners := player.listeners ++ [listener] })

def addRecorder (player : Player) (program : Program) : Nat × Player :=
  (player.recorders.length, { player with recorders := player.recorders ++ [⟨program, 0⟩] })

def addMapping (player : Player) (mapping : Mapping) : Nat × Player :=
  (player.mappings.length, { player with mappings := player.mappings ++ [mapping] })

def describe (player : Player) (description : Cause.Description) : Cause × Player :=
  let (cause, machine) := player.machine.describe description
  (cause, { player with machine })

/-- Takes the events written down so far, oldest first. -/
def takeEvents (player : Player) : List Event × Player :=
  (player.events.reverse, { player with events := [] })

end Player

end Handoff.Script
