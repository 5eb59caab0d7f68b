/-
Module: OperationClasses.Document.Resolved
Purpose: Selections with every fragment spread replaced by what the fragment selects.
Main exports: Document.fragmentTable, Resolved, resolve, Resolved.weight
-/
import OperationClasses.Schema.Definition

namespace OperationClasses

/-- Puts a fragment in the place of the one of its name, or at the end. -/
def putFragment (f : Fragment) : List Fragment → List Fragment
  | [] => [f]
  | g :: rest => if g.name = f.name then f :: rest else g :: putFragment f rest

/-- The fragments of a document, one for each name. Of several under one name the last counts. -/
def Document.fragmentTable (d : Document) : List Fragment :=
  d.fragments.foldl (fun table f => putFragment f table) []

/-- A member of a selection set in which no spread is left. -/
inductive Resolved where
  /-- a field without a selection set -/
  | leaf (head : FieldHead)
  /-- a field with a selection set -/
  | nested (head : FieldHead) (below : List Resolved)
  /-- selections of a fragment, limited to the values of its type -/
  | narrowed (condition : Option String) (below : List Resolved)
  /-- a spread of a fragment that is not defined -/
  | missing (name : String)
  /-- a spread of a fragment inside itself -/
  | cyclic (name : String)
deriving BEq, Repr, Inhabited

/-- The fragments other than those of a name. -/
def withoutFragment (fragments : List Fragment) (name : String) : List Fragment :=
  fragments.filter (·.name != name)

theorem length_withoutFragment_lt {fragments : List Fragment} {f : Fragment} {name : String}
    (h : findFragment fragments name = some f) :
    (withoutFragment fragments name).length < fragments.length := by
  refine List.length_filter_lt_length_iff_exists.2 ⟨f, List.mem_of_find?_eq_some h, ?_⟩
  have := List.find?_some h
  simp_all

mutual

/-- Replaces the spreads in a selection. `available` are the fragments that may be spread here: all of the
    table but those being expanded. -/
def resolve (table available : List Fragment) : Selection → Resolved
  | .leaf head => .leaf head
  | .nested head selections => .nested head (resolveAll table available selections)
  | .inline condition _ selections => .narrowed condition (resolveAll table available selections)
  | .spread name _ =>
    match _h : findFragment available name with
    | some f =>
      .narrowed (some f.typeCondition) (resolveAll table (withoutFragment available name) f.selections)
    | none => if (findFragment table name).isSome then .cyclic name else .missing name
termination_by s => (available.length, sizeOf s)
decreasing_by
  · exact Prod.Lex.right _ (by simp only [Selection.nested.sizeOf_spec]; omega)
  · exact Prod.Lex.right _ (by simp only [Selection.inline.sizeOf_spec]; omega)
  · simp only [Prod.lex_def]; exact Or.inl (length_withoutFragment_lt _h)

/-- Replaces the spreads in a list of selections. -/
def resolveAll (table available : List Fragment) : List Selection → List Resolved
  | [] => []
  | s :: rest => resolve table available s :: resolveAll table available rest
termination_by s => (available.length, sizeOf s)

end

mutual

/-- The number of members at all depths, each counted with its list. -/
def Resolved.weight : Resolved → Nat
  | .leaf _ => 1
  | .nested _ below => 1 + Resolved.weightAll below
  | .narrowed _ below => 1 + Resolved.weightAll below
  | .missing _ => 1
  | .cyclic _ => 1

/-- The number of members of a list at all depths. -/
def Resolved.weightAll : List Resolved → Nat
  | [] => 0
  | r :: rest => r.weight + Resolved.weightAll rest

end

end OperationClasses
