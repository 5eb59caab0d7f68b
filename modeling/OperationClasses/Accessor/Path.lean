/-
Module: OperationClasses.Accessor.Path
Purpose: One selection of a field, with the fragments it was selected through and the runtime types that
  pass all of them, and which of the selections of a field decide its accessor.
Main exports: Path, Path.compatible, Schema.runtimeTypes, TypedPath, TypedPath.resolve, reducePaths,
  coveredTypes
-/
import OperationClasses.Schema.Basic
import OperationClasses.Failure

namespace OperationClasses

/-- The names of the object types that a value of a named type can have at run time. -/
def Schema.runtimeTypes (s : Schema) (name : String) : Except InvariantFault NameSet :=
  match s.find? name with
  | none => throw (.unknownType name)
  | some t =>
    match s.possibleTypes t with
    | none => throw (.notComposite name)
    | some types => return types

/-- One selection of a field below a type. `conditions` are the type conditions of the fragments around
    it, outermost first. -/
structure Path where
  name : String
  signature : String
  expression : String
  owner : String
  conditions : List String
deriving DecidableEq, Repr, Inhabited

namespace Path

/-- The owner and the type conditions, outermost first. -/
def chain (p : Path) : List String := p.owner :: p.conditions

/-- The names of `types` that every one of the conditions admits. -/
def narrow (s : Schema) (types : NameSet) : List String → Except InvariantFault NameSet
  | [] => return types
  | condition :: rest => do narrow s (types ∩ (← s.runtimeTypes condition)) rest

/-- The object types for which every fragment around the selection applies. -/
def compatible (s : Schema) (p : Path) : Except InvariantFault NameSet := do
  narrow s (← s.runtimeTypes p.owner) p.conditions

end Path

/-! ### The selections that decide -/

/-- A path and the object types that it is compatible with. -/
structure TypedPath where
  path : Path
  types : NameSet
deriving DecidableEq, Inhabited

/-- The paths with their compatible types. -/
def TypedPath.resolve (s : Schema) (paths : List Path) : Except InvariantFault (List TypedPath) :=
  paths.mapM fun p => do return ⟨p, ← p.compatible s⟩

/-- Goes through paths in order and keeps each whose types are not all types of one kept path. -/
def keepUncovered (kept : List TypedPath) : List TypedPath → List TypedPath
  | [] => kept
  | p :: rest =>
    if kept.any fun k => p.types.subset k.types then keepUncovered kept rest
    else keepUncovered (kept ++ [p]) rest

/-- The paths that can apply, those with more types first, without those that an earlier one covers. Of
    paths with equal types the first selected stays. -/
def reducePaths (paths : List TypedPath) : List TypedPath :=
  let candidates := paths.filter fun p => !p.types.isEmpty
  keepUncovered [] (candidates.mergeSort fun a b => decide (b.types.size ≤ a.types.size))

/-- All types of the paths. -/
def coveredTypes (paths : List TypedPath) : NameSet :=
  paths.foldl (fun covered p => covered ∪ p.types) ∅

end OperationClasses
