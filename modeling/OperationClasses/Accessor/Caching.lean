/-
Module: OperationClasses.Accessor.Caching
Purpose: The accessor of a field with everything that it keeps from one reading to the next.
Main exports: Derived.Value, FieldAccess.read, CachingAccess, CachingAccess.read, CachingAccess.merge
-/
import OperationClasses.Accessor.FieldAccess

namespace OperationClasses

namespace FieldAccess

/-- What is read of an accessor, by what is asked. -/
def Derived.Value : Derived → Type
  | .reduced => List TypedPath
  | .rootPossible => NameSet
  | .impossible | .guaranteed => Bool
  | .branches => List Branch
  | .signature | .body => String

/-- Reads something of an accessor. -/
def read (s : Schema) (a : FieldAccess) : (what : Derived) → Except InvariantFault what.Value
  | .reduced => a.reduced s
  | .rootPossible => a.rootPossible s
  | .impossible => a.impossible s
  | .guaranteed => a.guaranteed s
  | .branches => a.branches s
  | .signature => a.signature s
  | .body => a.body s

end FieldAccess

open FieldAccess

/-- The accessor of a field, with what was derived of it so far. -/
structure CachingAccess where
  name : String
  paths : List Path
  reduced : Option (List TypedPath)
  rootTypes : Option NameSet
  branches : Option (List Branch)
  signature : Option String
  body : Option String
deriving DecidableEq, Inhabited

namespace CachingAccess

/-- An accessor that nobody has read yet. -/
def fresh (name : String) (paths : List Path) : CachingAccess := ⟨name, paths, none, none, none, none, none⟩

/-- Adds the paths of another accessor, unless the own ones were reduced already. -/
def merge (c : CachingAccess) (other : FieldAccess) : Except InvariantFault CachingAccess :=
  if c.reduced.isSome then throw (.pathsReduced c.name)
  else return { c with paths := c.paths ++ other.paths }

/-- What an accessor keeps of what can be asked. -/
def kept? (c : CachingAccess) : (what : Derived) → Option what.Value
  | .reduced => c.reduced
  | .rootPossible => c.rootTypes
  | .impossible | .guaranteed => none
  | .branches => c.branches
  | .signature => c.signature
  | .body => c.body

/-- The accessor that keeps something from now on. -/
def keep (c : CachingAccess) : (what : Derived) → what.Value → CachingAccess
  | .reduced, paths => { c with reduced := some paths }
  | .rootPossible, types => { c with rootTypes := some types }
  | .impossible, _ | .guaranteed, _ => c
  | .branches, branches => { c with branches := some branches }
  | .signature, text => { c with signature := some text }
  | .body, text => { c with body := some text }

/-- A reading. One that fails leaves behind what was kept before. -/
abbrev Reading := ExceptT InvariantFault (StateM CachingAccess)

namespace Reading

/-- What is kept of something, derived now if it is read for the first time. -/
def kept (what : Derived) (derive : Reading what.Value) : Reading what.Value := do
  match (← get).kept? what with
  | some value => return value
  | none =>
    let value ← derive
    modify (·.keep what value)
    return value

/-- Fails if a value cannot be derived. -/
def derived {α : Type} : Except InvariantFault α → Reading α
  | .ok value => pure value
  | .error fault => throw fault

/-- The paths that decide the accessor. -/
def reduced (s : Schema) : Reading (List TypedPath) :=
  kept .reduced do
    let c ← get
    return reducePaths (← derived (TypedPath.resolve s c.paths))

/-- The possible types of the one type that all paths start from. -/
def rootPossible (s : Schema) : Reading NameSet :=
  kept .rootPossible do
    let c ← get
    match (NameSet.ofList (c.paths.map (·.owner))).toList with
    | [root] => derived (s.runtimeTypes root)
    | roots => throw (.differentRoots c.name roots)

/-- Whether no runtime type has the field. -/
def impossible (s : Schema) : Reading Bool := do
  return (← reduced s).isEmpty

/-- Whether every runtime type has the field. -/
def guaranteed (s : Schema) : Reading Bool := do
  if ← impossible s then return false
  else
    let covered := coveredTypes (← reduced s)
    return (← rootPossible s).subset covered

/-- One branch for each conversion. Branches must not share a type. -/
def branches (s : Schema) : Reading (List Branch) :=
  kept .branches do
    let branches := branchesOf (← reduced s)
    match firstOverlap branches with
    | some types => throw (.overlappingBranches (← get).name types.toList)
    | none => return sortBranches branches

/-- The signature. -/
def signature (s : Schema) : Reading String :=
  kept .signature do
    if ← impossible s then return "None"
    else
      let guaranteed ← guaranteed s
      return signatureOf (← reduced s) guaranteed

/-- The body. -/
def body (s : Schema) : Reading String :=
  kept .body do
    if ← impossible s then return Dispatch.absentText
    else
      let branches ← branches s
      let guaranteed ← guaranteed s
      let dispatch : Dispatch :=
        match branches with
        | [b] => if guaranteed then .always b.expression else .guarded b
        | _ => .cases branches guaranteed
      return dispatch.text (← get).name

end Reading

/-- Reads something of an accessor. -/
def reading (s : Schema) : (what : Derived) → Reading what.Value
  | .reduced => Reading.reduced s
  | .rootPossible => Reading.rootPossible s
  | .impossible => Reading.impossible s
  | .guaranteed => Reading.guaranteed s
  | .branches => Reading.branches s
  | .signature => Reading.signature s
  | .body => Reading.body s

/-- What is read of an accessor. -/
def read (s : Schema) (c : CachingAccess) (what : Derived) : Except InvariantFault what.Value :=
  (reading s what c).1

/-- The accessor after something was read of it, or could not be. -/
def observe (s : Schema) (c : CachingAccess) (what : Derived) : CachingAccess := (reading s what c).2

end CachingAccess

end OperationClasses
