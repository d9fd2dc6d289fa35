import Handoff.Error

namespace Handoff

/-! Descriptions of errors and causes.

A description becomes a value by numbering the cause instances in it.  Causes
described under a common label are one instance: the first description under a
label makes it, and later ones return it whatever else they say. -/

mutual

inductive Error.Description where
  /-- An error that reports no failure of a producer. -/
  | plain (error : Error)
  | producerFailed (cause : Cause.Description)

/-- How a cause is described, perhaps under a label. -/
inductive Cause.Description where
  | stated (label : Option String) (text : String)
  | because (label : Option String) (text : String) (deeper : Cause.Description)
  | raised (label : Option String) (error : Error.Description)
  | known (cause : Cause)

end

instance : Inhabited Error.Description := ⟨.plain default⟩

instance : Inhabited Cause.Description := ⟨.stated none ""⟩

/-- The cause instances made so far: how many there are, and those with a
label. -/
structure Instances where
  made : Nat
  labelled : List (String × Cause)
deriving Inhabited

namespace Instances

def fresh : StateM Instances Nat :=
  modifyGet fun instances => (instances.made, { instances with made := instances.made + 1 })

def find? (label : Option String) : StateM Instances (Option Cause) := do
  match label with
  | none => return none
  | some label => return (← get).labelled.lookup label

def record (label : Option String) (cause : Cause) : StateM Instances Cause := do
  if let some label := label then
    modify fun instances => { instances with labelled := (label, cause) :: instances.labelled }
  return cause

end Instances

mutual

def Error.Description.build : Error.Description → StateM Instances Error
  | .plain error => return error
  | .producerFailed cause => return .producerFailed (← cause.build)

def Cause.Description.build : Cause.Description → StateM Instances Cause
  | .stated label text => do
      if let some known ← Instances.find? label then return known
      Instances.record label (.stated (← Instances.fresh) text)
  | .because label text deeper => do
      if let some known ← Instances.find? label then return known
      let deeper ← deeper.build
      Instances.record label (.because (← Instances.fresh) text deeper)
  | .raised label error => do
      if let some known ← Instances.find? label then return known
      let error ← error.build
      Instances.record label (.raised (← Instances.fresh) error)
  | .known cause => return cause

end

/-- One entry in a list of errors: described anew, or an earlier entry again. -/
inductive Error.Entry where
  | described (description : Error.Description)
  | again (index : Nat)

/-- The errors of a list of entries.  An entry that refers to no earlier one is
left out. -/
def Error.listed (entries : List Error.Entry) : StateM Instances (List Error) :=
  entries.foldlM (fun errors entry => do
    match entry with
    | .described description => return errors ++ [← description.build]
    | .again index => return errors ++ errors[index]?.toList) []

end Handoff
