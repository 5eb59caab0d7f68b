/-
Module: OperationClasses.Document.UsedFragments
Purpose: The fragments that selections spread, directly or through other fragments, and how deep the
  selection sets of a document stand in one another when they are followed.
Main exports: spreadNames, levelSpreads, follow, takeSpread, usedFragments, selectionsBelow, nestsDeeper
-/
import OperationClasses.Document.Resolved
import OperationClasses.NameSet

namespace OperationClasses

mutual

/-- The names that a selection spreads at any depth, in document order. -/
def Selection.spreadNames : Selection → List String
  | .leaf _ => []
  | .nested _ selections => spreadNames selections
  | .spread name _ => [name]
  | .inline _ _ selections => spreadNames selections

/-- The names that selections spread at any depth, in document order. -/
def spreadNames : List Selection → List String
  | [] => []
  | s :: rest => s.spreadNames ++ spreadNames rest

end

mutual

/-- The names that a selection spreads in its own selection set and not below a field. -/
def Selection.levelSpreads : Selection → List String
  | .leaf _ => []
  | .nested _ _ => []
  | .spread name _ => [name]
  | .inline _ _ selections => levelSpreads selections

/-- The names that selections spread in their own selection set and not below a field. -/
def levelSpreads : List Selection → List String
  | [] => []
  | s :: rest => s.levelSpreads ++ levelSpreads rest

end

/-- Takes each pending name whose fragment has not been taken, and goes on with the names that the
    fragment leads to. Names of no fragment are passed over. -/
def follow (names : Fragment → List String) (unused : List Fragment) (pending : List String) :
    List Fragment :=
  match pending with
  | [] => []
  | name :: rest =>
    match _h : findFragment unused name with
    | none => follow names unused rest
    | some f => f :: follow names (withoutFragment unused name) (names f ++ rest)
termination_by (unused.length, pending.length)
decreasing_by
  · simp [Prod.lex_def]
  · have := length_withoutFragment_lt _h
    simp only [Prod.lex_def]; omega

/-- The fragments that names lead to through all spreads. -/
def takeSpread (unused : List Fragment) (pending : List String) : List Fragment :=
  follow (fun f => spreadNames f.selections) unused pending

/-- The fragments whose fields stand in a selection set beside its own, each once. -/
def levelFragments (table : List Fragment) (selections : List Selection) : List Fragment :=
  follow (fun f => levelSpreads f.selections) table (levelSpreads selections)

/-- The fragments of the table that selections reach through spreads, each once, sorted by name. -/
def usedFragments (table : List Fragment) (selections : List Selection) : List Fragment :=
  (takeSpread table (spreadNames selections)).mergeSort fun a b => decide (a.name ≤ b.name)

/-! ### Depth -/

mutual

/-- What is selected directly below the fields of a selection, its spreads aside. -/
def Selection.ownBelow : Selection → List (List Selection)
  | .leaf _ => []
  | .nested _ selections => [selections]
  | .spread _ _ => []
  | .inline _ _ selections => ownBelow selections

/-- What is selected directly below the fields of selections, their spreads aside. -/
def ownBelow : List Selection → List (List Selection)
  | [] => []
  | s :: rest => s.ownBelow ++ ownBelow rest

end

/-- The selection sets directly below a selection set. Each fragment is followed once. -/
def selectionsBelow (table : List Fragment) (selections : List Selection) : List (List Selection) :=
  ownBelow selections ++ (levelFragments table selections).flatMap fun f => ownBelow f.selections

/-- Whether there are more than `depth` selection sets below a selection set, one in the other. All sets of
    one depth are followed together, so that no fragment is followed twice at one depth. -/
def nestsDeeper (table : List Fragment) (depth : Nat) (selections : List Selection) : Bool :=
  match depth, selectionsBelow table selections with
  | _, [] => false
  | 0, _ :: _ => true
  | depth + 1, sets => nestsDeeper table depth sets.flatten

end OperationClasses
