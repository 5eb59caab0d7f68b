/-
Module: OperationClasses.Proofs.Selection.Response
Purpose: The responses that execution allows for a selection set, and the objects that stand in their values.
Main exports: mem_gather_mergedBelow, Answers, Completes, Holds, Answers.mem_keys_iff
-/
import OperationClasses.Generation.Occurrence
import OperationClasses.Json.Basic
import OperationClasses.Proofs.Accessor.Reduction
import OperationClasses.Proofs.Selection.Execution
import OperationClasses.Validation.Merging

namespace OperationClasses

variable {s : Schema} {table : List Fragment} {given : String → Bool}

/-- What fields of one response key select below them, taken together. -/
def mergedBelow (fields : List SelectedField) : List Selection := fields.flatMap fun f => f.below.getD []

/-- The response keys of selections for an object type. -/
def responseKeys (s : Schema) (table : List Fragment) (given : String → Bool) (object : String)
    (selections : List Selection) : List String :=
  (collectFields s table given object selections).map Prod.fst

/-- What execution meets in the selections of fields taken together is what it meets below some of them. -/
theorem mem_gather_mergedBelow {object : String} {fields : List SelectedField} {x : SelectedField} :
    x ∈ gather s given object table (mergedBelow fields)
      ↔ ∃ f ∈ fields, ∃ below, f.below = some below ∧ x ∈ gather s given object table below := by
  simp only [mem_gather_iff]
  induction fields with
  | nil => exact iff_of_false Answered.not_nil (by simp)
  | cons f rest ih =>
    rw [mergedBelow, List.flatMap_cons, Answered.append, ← mergedBelow, ih]
    simp only [List.mem_cons, exists_eq_or_imp]
    refine or_congr_left ?_
    cases f.below with
    | none => exact iff_of_false Answered.not_nil (by simp)
    | some below => simp

mutual

/-- The members of an object answer selections for its runtime type: there is a value for each response
    key, it completes the type of the fields of that key with what they select together, and the type
    name is that of the object. The fields of one key agree in their name in a document without faults. -/
inductive Answers (s : Schema) (table : List Fragment) (given : String → Bool) :
    TypeDefinition → List Selection → List (String × Json) → Prop where
  | object {t : TypeDefinition} {selections : List Selection} {members : List (String × Json)}
      (isObject : t.isObject) (known : s.find? t.name = some t)
      (keys : ∀ key, key ∈ members.map Prod.fst ↔ key ∈ responseKeys s table given t.name selections)
      (values : ∀ key fields value f type,
        (key, fields) ∈ collectFields s table given t.name selections → (key, value) ∈ members →
        f ∈ fields → s.selectableType? t f.head.name = some type →
        Completes s table given type (mergedBelow fields) value)
      (typename : ∀ key fields value f,
        (key, fields) ∈ collectFields s table given t.name selections → (key, value) ∈ members →
        f ∈ fields →
        f.head.name = typenameField.name → value = .str t.name) :
      Answers s table given t selections members

/-- A value completes a type: null unless it is required, a list of values, some value of a scalar or
    enum, or an object of a type that is possible for it. -/
inductive Completes (s : Schema) (table : List Fragment) (given : String → Bool) :
    TypeRef → List Selection → Json → Prop where
  | null {type : TypeRef} {selections : List Selection} (nullable : ¬ type.isRequired) :
      Completes s table given type selections .null
  | list {item : TypeRef} {required : Bool} {selections : List Selection} {values : List Json}
      (items : ∀ value ∈ values, Completes s table given item selections value) :
      Completes s table given (.list item required) selections (.arr values)
  | leaf {name : String} {required : Bool} {selections : List Selection} {value : Json}
      {t : TypeDefinition} (known : s.find? name = some t) (leaf : t.body.isLeaf) (some_ : value ≠ .null) :
      Completes s table given (.named name required) selections value
  | object {name : String} {required : Bool} {selections : List Selection} {t : TypeDefinition}
      {members : List (String × Json)} (possible : Possible s name t.name)
      (answers : Answers s table given t selections members) :
      Completes s table given (.named name required) selections (.obj members)

end

/-- A value that completes a type holds an object with a runtime type: it is that object, or a list with
    it. -/
inductive Holds (s : Schema) (table : List Fragment) (given : String → Bool) :
    TypeRef → List Selection → Json → TypeDefinition → List (String × Json) → Prop where
  | self {name : String} {required : Bool} {selections : List Selection} {t : TypeDefinition}
      {members : List (String × Json)} (possible : Possible s name t.name)
      (answers : Answers s table given t selections members) :
      Holds s table given (.named name required) selections (.obj members) t members
  | item {type : TypeRef} {required : Bool} {selections : List Selection} {values : List Json}
      {value : Json} {t : TypeDefinition} {members : List (String × Json)} (mem : value ∈ values)
      (inside : Holds s table given type selections value t members) :
      Holds s table given (.list type required) selections (.arr values) t members

/-- An object has a member for each response key, and no other. -/
theorem Answers.mem_keys_iff {t : TypeDefinition} {selections : List Selection}
    {members : List (String × Json)} (h : Answers s table given t selections members) {key : String} :
    key ∈ members.map Prod.fst ↔ key ∈ responseKeys s table given t.name selections := by
  cases h with
  | object _ _ keys => exact keys key

/-- The objects that a value holds answer what is selected for it. -/
theorem Holds.answers {type : TypeRef} {selections : List Selection} {value : Json} {t : TypeDefinition}
    {members : List (String × Json)} (h : Holds s table given type selections value t members) :
    Answers s table given t selections members := by
  induction h with
  | self _ answers => exact answers
  | item _ _ ih => exact ih

end OperationClasses
