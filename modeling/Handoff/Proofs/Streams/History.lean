import Handoff.Machine.Run

namespace Handoff

/-! What the journal tells about one accumulator.

The journal mixes the entries of all objects, latest first.  Here the entries
about one accumulator are picked out, oldest first, and read as the chunks it
accepted, the chunks it handed over, the answers its handler gave, and the
endings it was closed with. -/

namespace Entry

def accumulator? : Entry → Option Nat
  | .accepted accumulator _ | .handed accumulator _ | .answered accumulator _
  | .closed accumulator _ | .ended accumulator | .released accumulator
  | .collapsed accumulator => some accumulator
  | _ => none

def accepted? : Entry → Option Bytes
  | .accepted _ bytes => some bytes
  | _ => none

def handed? : Entry → Option Bytes
  | .handed _ bytes => some bytes
  | _ => none

def answered? : Entry → Option Bool
  | .answered _ wantsEnd => some wantsEnd
  | _ => none

def closed? : Entry → Option Ending
  | .closed _ ending => some ending
  | _ => none

def isEnded : Entry → Bool
  | .ended _ => true
  | _ => false

def isReleased : Entry → Bool
  | .released _ => true
  | _ => false

def isCollapsed : Entry → Bool
  | .collapsed _ => true
  | _ => false

end Entry

/-! Readings of a list of entries. -/

namespace History

def accepted (entries : List Entry) : List Bytes :=
  entries.filterMap Entry.accepted?

def handed (entries : List Entry) : List Bytes :=
  entries.filterMap Entry.handed?

def answers (entries : List Entry) : List Bool :=
  entries.filterMap Entry.answered?

def closings (entries : List Entry) : List Ending :=
  entries.filterMap Entry.closed?

def ends (entries : List Entry) : Nat :=
  entries.countP Entry.isEnded

def releases (entries : List Entry) : Nat :=
  entries.countP Entry.isReleased

def collapses (entries : List Entry) : Nat :=
  entries.countP Entry.isCollapsed

@[simp] theorem accepted_append (past : List Entry) (entry : Entry) :
    accepted (past ++ [entry]) = accepted past ++ entry.accepted?.toList := by
  cases found : entry.accepted? <;> simp [accepted, found]

@[simp] theorem handed_append (past : List Entry) (entry : Entry) :
    handed (past ++ [entry]) = handed past ++ entry.handed?.toList := by
  cases found : entry.handed? <;> simp [handed, found]

@[simp] theorem answers_append (past : List Entry) (entry : Entry) :
    answers (past ++ [entry]) = answers past ++ entry.answered?.toList := by
  cases found : entry.answered? <;> simp [answers, found]

@[simp] theorem closings_append (past : List Entry) (entry : Entry) :
    closings (past ++ [entry]) = closings past ++ entry.closed?.toList := by
  cases found : entry.closed? <;> simp [closings, found]

@[simp] theorem ends_append (past : List Entry) (entry : Entry) :
    ends (past ++ [entry]) = ends past + entry.isEnded.toNat := by
  cases found : entry.isEnded <;> simp [ends, found]

@[simp] theorem releases_append (past : List Entry) (entry : Entry) :
    releases (past ++ [entry]) = releases past + entry.isReleased.toNat := by
  cases found : entry.isReleased <;> simp [releases, found]

@[simp] theorem collapses_append (past : List Entry) (entry : Entry) :
    collapses (past ++ [entry]) = collapses past + entry.isCollapsed.toNat := by
  cases found : entry.isCollapsed <;> simp [collapses, found]

end History

attribute [simp] Entry.accepted? Entry.handed? Entry.answered? Entry.closed? Entry.isEnded
  Entry.isReleased Entry.isCollapsed

namespace Machine

/-- The entries about an accumulator, oldest first. -/
def streamPast (machine : Machine) (accumulator : Nat) : List Entry :=
  machine.journal.reverse.filter fun entry => entry.accumulator? = some accumulator

/-- The chunks that passed the checks of an accumulator, in the order they came. -/
def accepted (machine : Machine) (accumulator : Nat) : List Bytes :=
  History.accepted (machine.streamPast accumulator)

/-- The chunks that were passed to the handler of an accumulator, in order. -/
def handed (machine : Machine) (accumulator : Nat) : List Bytes :=
  History.handed (machine.streamPast accumulator)

def answers (machine : Machine) (accumulator : Nat) : List Bool :=
  History.answers (machine.streamPast accumulator)

/-- The terminal markers that an accumulator took, in order. -/
def closings (machine : Machine) (accumulator : Nat) : List Ending :=
  History.closings (machine.streamPast accumulator)

/-- How often the handler of an accumulator was told that the stream ended. -/
def ends (machine : Machine) (accumulator : Nat) : Nat :=
  History.ends (machine.streamPast accumulator)

/-- How often the handler of an accumulator was let go at the end of its stream. -/
def releases (machine : Machine) (accumulator : Nat) : Nat :=
  History.releases (machine.streamPast accumulator)

/-- How often the handler of an accumulator panicked. -/
def collapses (machine : Machine) (accumulator : Nat) : Nat :=
  History.collapses (machine.streamPast accumulator)

end Machine

end Handoff
