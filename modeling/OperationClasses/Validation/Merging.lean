/-
Module: OperationClasses.Validation.Merging
Purpose: Whether the selections that share a response key can be answered by one value.
Main exports: LevelField, levelFields, conflicting, setConflicts
-/
import OperationClasses.Document.UsedFragments
import OperationClasses.Validation.Visit

namespace OperationClasses

mutual

/-- A value with the fields of its objects in order of their names. -/
def Value.sorted : Value → Value
  | .list items => .list (Value.sortedItems items)
  | .object fields =>
    .object ((Value.sortedFields fields).mergeSort fun a b => decide (a.1 ≤ b.1))
  | other => other

/-- The items of a list, each with its fields in order. -/
def Value.sortedItems : List Value → List Value
  | [] => []
  | v :: rest => v.sorted :: Value.sortedItems rest

/-- The fields of an object, each value with its fields in order. -/
def Value.sortedFields : List (String × Value) → List (String × Value)
  | [] => []
  | (name, v) :: rest => (name, v.sorted) :: Value.sortedFields rest

end

/-- Whether two lists of arguments give the same values to the same names. -/
def sameArguments (a b : List Argument) : Bool :=
  a.length == b.length && a.all fun x =>
    (b.find? (·.name == x.name)).any fun y => x.value.sorted == y.value.sorted

/-- A field of a selection set, its fragments included, with the fragment that it stands in, if it stands
    in one, and the type that it is looked up on. -/
structure LevelField where
  origin : Option String
  parent : Option TypeDefinition
  head : FieldHead
  below : Option (List Selection)
deriving Inhabited

mutual

/-- The fields of a member of a selection set, without those of the fragments that it spreads. -/
def Selection.ownFields (s : Schema) (origin : Option String) (parent : Option TypeDefinition) :
    Selection → List LevelField
  | .leaf head => [⟨origin, parent, head, none⟩]
  | .nested head below => [⟨origin, parent, head, some below⟩]
  | .spread _ _ => []
  | .inline condition _ selections => ownFields s origin (condition.elim parent s.find?) selections

/-- The fields of a selection set, without those of the fragments that it spreads. -/
def ownFields (s : Schema) (origin : Option String) (parent : Option TypeDefinition) :
    List Selection → List LevelField
  | [] => []
  | member :: rest => member.ownFields s origin parent ++ ownFields s origin parent rest

end

/-- The fields of a selection set, those of its fragments included, each fragment once. -/
def levelFields (s : Schema) (table : List Fragment) (parent : Option TypeDefinition)
    (selections : List Selection) : List LevelField :=
  ownFields s none parent selections
    ++ (levelFragments table selections).flatMap fun f =>
      ownFields s (some f.name) (s.find? f.typeCondition) f.selections

namespace LevelField

/-- The type of a field, if it is known. -/
def type? (f : LevelField) : Option TypeRef := do
  return (← (← f.parent).outputFields.find? (·.name == f.head.name)).type

/-- The type of the values below a field, if it is known. -/
def belowType? (s : Schema) (f : LevelField) : Option TypeDefinition := do s.find? (← f.type?).core

/-- Whether two fields have to be compared: they share a response key and do not stand in one fragment,
    whose own fields are compared where it is defined. -/
def meets (f g : LevelField) : Bool :=
  f.head.responseKey == g.head.responseKey && (f.origin.isNone || f.origin != g.origin)

end LevelField

/-- Whether two types cannot describe one value: their layers differ, or they are different types and one is
    a scalar or an enum. -/
def shapesConflict (s : Schema) : TypeRef → TypeRef → Bool
  | .named a r, .named b r' =>
    r != r' || (a != b && ((s.find? a).any (·.body.isLeaf) || (s.find? b).any (·.body.isLeaf)))
  | .list a r, .list b r' => r != r' || shapesConflict s a b
  | _, _ => true

/-- Whether a type is an object type. -/
def TypeDefinition.isObject (t : TypeDefinition) : Bool :=
  match t.body with
  | .object .. => true
  | _ => false

/-- Whether no value is of both types: they are different object types. -/
def areExclusive (a b : Option TypeDefinition) : Bool :=
  match a, b with
  | some a, some b => a.name != b.name && a.isObject && b.isObject
  | _, _ => false

/-- Whether the items of a field's list are to be delivered one by one. -/
def FieldHead.isStreamed (head : FieldHead) : Bool := head.directives.any (·.name == "stream")

/-- Whether two fields under one response key, apart from what is selected below them, cannot both be
    answered. `exclusive` says that no value has both. A streamed field shares its key with no other. -/
def headsConflict (s : Schema) (exclusive : Bool) (f g : LevelField) : Bool :=
  (!exclusive && (f.head.name != g.head.name || !sameArguments f.head.arguments g.head.arguments))
    || f.head.isStreamed || g.head.isStreamed
    || match f.type?, g.type? with
      | some t, some u => shapesConflict s t u
      | _, _ => false

/-- Compares fields while comparisons are left. Without any left there is no answer. -/
abbrev Comparing (α : Type) := StateT Nat Option α

/-- How many pairs of fields are compared in a document. -/
def maxComparisons : Nat := 250000

/-- Takes one of the comparisons that are left. -/
def spendComparison : Comparing Unit := fun
  | 0 => none
  | left + 1 => some ((), left)

/-- Whether a comparison says yes of a field and one of several others that it meets. -/
def anyMeeting (compare : LevelField → LevelField → Comparing Bool) (f : LevelField) :
    List LevelField → Comparing Bool
  | [] => return false
  | g :: rest => do
    if f.meets g then
      if ← compare f g then return true else anyMeeting compare f rest
    else anyMeeting compare f rest

/-- Whether a comparison says yes of two fields that meet, one from each list. -/
def anyPair (compare : LevelField → LevelField → Comparing Bool) :
    List LevelField → List LevelField → Comparing Bool
  | [], _ => return false
  | f :: rest, others => do
    if ← anyMeeting compare f others then return true else anyPair compare rest others

/-- Whether two fields under one response key cannot both be answered, be it for what is selected at most
    `depth` levels below them. -/
def conflicting (s : Schema) (table : List Fragment) (depth : Nat) (exclusive : Bool)
    (f g : LevelField) : Comparing Bool := do
  spendComparison
  let exclusive := exclusive || areExclusive f.parent g.parent
  if headsConflict s exclusive f g then return true
  match depth, f.below, g.below with
  | depth + 1, some below, some below' =>
    anyPair (conflicting s table depth exclusive) (levelFields s table (f.belowType? s) below)
      (levelFields s table (g.belowType? s) below')
  | _, _, _ => return false

/-- The response keys of pairs of fields that cannot both be answered, once for each pair. -/
def pairConflicts (compare : LevelField → LevelField → Comparing Bool) :
    List LevelField → Comparing (List String)
  | [] => return []
  | f :: rest => do
    let own ← rest.filterMapM fun g => do
      if f.meets g then
        if ← compare f g then return some f.head.responseKey else return none
      else return none
    return own ++ (← pairConflicts compare rest)

/-- The response keys with conflicts in a selection set. -/
def setConflicts (s : Schema) (table : List Fragment) (parent : Option TypeDefinition)
    (selections : List Selection) : Comparing (List String) :=
  pairConflicts (conflicting s table Parse.maxNesting false) (levelFields s table parent selections)

end OperationClasses
