/-
Module: OperationClasses.Accessor.FieldAccess
Purpose: Accessors that collect the selections of a field and, once something is derived from them, take
  no more.
Main exports: FieldAccess, FieldAccess.merge, FieldAccess.reduced, FieldAccess.signature,
  FieldAccess.body, Derived, FieldAccess.observe
-/
import OperationClasses.Accessor.Dispatch

namespace OperationClasses

/-- The accessor of one field. `rootTypes` holds the possible types of the owner once they were read, and
    `frozen` says that the paths were reduced. -/
structure FieldAccess where
  name : String
  paths : List Path
  rootTypes : Option NameSet
  frozen : Bool
deriving DecidableEq, Inhabited

namespace FieldAccess

/-- An accessor that nobody has read yet. -/
def fresh (name : String) (paths : List Path) : FieldAccess := ⟨name, paths, none, false⟩

/-- Adds the paths of another accessor, unless the own ones were reduced already. -/
def merge (a other : FieldAccess) : Except InvariantFault FieldAccess :=
  if a.frozen then throw (.pathsReduced a.name)
  else return { a with paths := a.paths ++ other.paths }

/-- The paths that decide the accessor. -/
def reduced (s : Schema) (a : FieldAccess) : Except InvariantFault (List TypedPath) := do
  return reducePaths (← TypedPath.resolve s a.paths)

/-- The types that all paths start from. -/
def roots (a : FieldAccess) : NameSet := NameSet.ofList (a.paths.map (·.owner))

/-- The possible types of the one type that all paths start from. -/
def rootPossible (s : Schema) (a : FieldAccess) : Except InvariantFault NameSet :=
  match a.rootTypes with
  | some types => return types
  | none =>
    match a.roots.toList with
    | [root] => s.runtimeTypes root
    | roots => throw (.differentRoots a.name roots)

/-- Whether no runtime type has the field. -/
def impossible (s : Schema) (a : FieldAccess) : Except InvariantFault Bool := do
  return (← a.reduced s).isEmpty

/-- Whether every runtime type has the field. -/
def guaranteed (s : Schema) (a : FieldAccess) : Except InvariantFault Bool := do
  let paths ← a.reduced s
  if paths.isEmpty then return false
  else return (← a.rootPossible s).subset (coveredTypes paths)

/-- One branch for each conversion, in the order they are written. Branches must not share a type. -/
def branches (s : Schema) (a : FieldAccess) : Except InvariantFault (List Branch) := do
  let branches := branchesOf (← a.reduced s)
  match firstOverlap branches with
  | some types => throw (.overlappingBranches a.name types.toList)
  | none => return sortBranches branches

/-- The signature inside an optional one; any other signature as it is. -/
def withoutOptional (signature : String) : String :=
  if "Optional[".toList.isPrefixOf signature.toList then
    String.ofList ((signature.toList.drop 9).dropLast)
  else signature

/-- The signature for several alternatives, each once and in order. -/
def unionSignature (signatures : List String) : String :=
  match (NameSet.ofList signatures).toList with
  | [one] => one
  | many => "Union[" ++ ", ".intercalate many ++ "]"

/-- The signature of an accessor with the given paths. -/
def signatureOf (paths : List TypedPath) (guaranteed : Bool) : String :=
  if paths.isEmpty then "None"
  else if guaranteed then unionSignature (paths.map (·.path.signature))
  else "Optional[" ++ unionSignature (paths.map fun p => withoutOptional p.path.signature) ++ "]"

/-- The signature: nothing if no type has the field, otherwise the alternatives of the paths, as a whole
    optional unless every type has the field. -/
def signature (s : Schema) (a : FieldAccess) : Except InvariantFault String := do
  let paths ← a.reduced s
  return signatureOf paths (← a.guaranteed s)

/-- The choice that the accessor makes by runtime type. -/
def dispatch (s : Schema) (a : FieldAccess) : Except InvariantFault Dispatch := do
  if ← a.impossible s then return .absent
  else
    let branches ← a.branches s
    let guaranteed ← a.guaranteed s
    match branches with
    | [b] => return if guaranteed then .always b.expression else .guarded b
    | _ => return .cases branches guaranteed

/-- The body of the accessor. -/
def body (s : Schema) (a : FieldAccess) : Except InvariantFault String := do
  return (← a.dispatch s).text a.name

/-!
### Reading

Whoever reads something derived from the reduced paths freezes the accessor, unless the reading fails
before the paths are reduced. The possible types of the owner are kept from their first reading on.
-/

/-- What can be read of an accessor. -/
inductive Derived where
  | reduced
  | rootPossible
  | impossible
  | guaranteed
  | branches
  | signature
  | body
deriving DecidableEq, Repr, Inhabited

/-- The accessor after its paths were reduced, if they can be. -/
def freeze (s : Schema) (a : FieldAccess) : FieldAccess :=
  match a.reduced s with
  | .ok _ => { a with frozen := true }
  | .error _ => a

/-- The accessor after the possible types of its owner were read, if they can be. -/
def keepRoot (s : Schema) (a : FieldAccess) : FieldAccess :=
  match a.rootPossible s with
  | .ok types => { a with rootTypes := some types }
  | .error _ => a

/-- The accessor after it was asked whether every type has the field. -/
def askGuaranteed (s : Schema) (a : FieldAccess) : FieldAccess :=
  match a.reduced s with
  | .ok [] => a.freeze s
  | .ok _ => (a.freeze s).keepRoot s
  | .error _ => a

/-- The accessor after something was read of it. -/
def observe (s : Schema) (a : FieldAccess) : Derived → FieldAccess
  | .reduced => a.freeze s
  | .rootPossible => a.keepRoot s
  | .impossible => a.freeze s
  | .guaranteed => a.askGuaranteed s
  | .branches => a.freeze s
  | .signature => a.askGuaranteed s
  | .body =>
    match a.branches s with
    | .ok _ => a.askGuaranteed s
    | .error _ => a.freeze s

end FieldAccess

end OperationClasses
