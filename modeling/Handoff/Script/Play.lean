import Handoff.Script.Perform

namespace Handoff.Script

/-! Whole scripts. -/

/-- More calls than a script of a size can cause: every repetition is spelled
out in it. -/
def patience (size : Nat) : Nat :=
  1 <<< (size + 16)

def answer (fuel : Nat) (step : Step) : Playing Answer := do
  let result ← perform fuel step
  let (events, player) := (← get).takeEvents
  set player
  return ⟨result, player.summary step.subject, events⟩

/-- Drops every sink and sender that is left, in the order they were made.  A
panic becomes an event. -/
def dropAll (fuel : Nat) : Nat → Playing Unit
  | 0 => return
  | count + 1 => do
      let (name, owned) :: _ := (← get).owned | return
      modify (Player.disown name)
      if let .panicked message ← ask fuel owned.drop then
        modify fun player => player.record (.panicked message)
      dropAll fuel count

def close (fuel : Nat) : Playing Closing := do
  dropAll fuel fuel
  let (events, player) := (← get).takeEvents
  set player
  return ⟨events, player.futures.map fun (name, index) => (name, (player.promise index).result?)⟩

def play (logged : Bool) (steps : List Step) : List Answer × Closing :=
  let fuel := patience (sizeOfSteps steps)
  let playing : Playing (List Answer × Closing) := do
    let answers ← steps.mapM (answer fuel)
    return (answers, ← close fuel)
  (playing.run (Player.start logged)).1

end Handoff.Script
