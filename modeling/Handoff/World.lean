import Handoff.Accumulator
import Handoff.Body
import Handoff.Channel
import Handoff.Promise
import Handoff.Store

namespace Handoff

/-! All objects there are.  An object is known by its number in its table. -/

structure World where
  promises : Store Promise
  accumulators : Store Accumulator
  bodies : Store Body
  channels : Store Channel
  /-- Chunk handlers in the client's hands; an empty row was given away. -/
  handlers : Store (Option ChunkHandler)
  /-- How many completion handlers were registered. -/
  registrations : Nat
  /-- How many cause instances were made. -/
  causes : Nat
deriving Inhabited

namespace World

def promise (world : World) (index : Nat) : Promise :=
  world.promises.get index

def accumulator (world : World) (index : Nat) : Accumulator :=
  world.accumulators.get index

def body (world : World) (index : Nat) : Body :=
  world.bodies.get index

def channel (world : World) (index : Nat) : Channel :=
  world.channels.get index

def handler? (world : World) (index : Nat) : Option ChunkHandler :=
  world.handlers.get index

def setPromise (world : World) (index : Nat) (promise : Promise) : World :=
  { world with promises := world.promises.set index promise }

def setAccumulator (world : World) (index : Nat) (accumulator : Accumulator) : World :=
  { world with accumulators := world.accumulators.set index accumulator }

def setBody (world : World) (index : Nat) (body : Body) : World :=
  { world with bodies := world.bodies.set index body }

def setChannel (world : World) (index : Nat) (channel : Channel) : World :=
  { world with channels := world.channels.set index channel }

def setHandler (world : World) (index : Nat) (handler : Option ChunkHandler) : World :=
  { world with handlers := world.handlers.set index handler }

def addPromise (world : World) (promise : Promise) : World :=
  { world with promises := world.promises.add promise }

def addAccumulator (world : World) (accumulator : Accumulator) : World :=
  { world with accumulators := world.accumulators.add accumulator }

def addBody (world : World) (body : Body) : World :=
  { world with bodies := world.bodies.add body }

def addChannel (world : World) (channel : Channel) : World :=
  { world with channels := world.channels.add channel }

def addHandler (world : World) (handler : ChunkHandler) : World :=
  { world with handlers := world.handlers.add (some handler) }

end World

end Handoff
