/-
Module: OperationClasses.Proofs.Validation.TypenameRule
Purpose: The rule on the type name finds nothing exactly if every field of an interface or union asks for the type name
  among its selections, if it has any.
Main exports: SetOf, SelectsBelow, AsksTypenames, typenameFaults_eq_nil_iff, Accepted.asksTypenames
-/
import OperationClasses.Proofs.Validation.Acceptance

namespace OperationClasses

variable {s : Schema} {d : Document} {parent : Option TypeDefinition} {selections : List Selection}
  {member : Selection}

/-! ### Selection sets of a document -/

/-- A selection set of a document, with the composite type that it is on if that is known: that of an operation or a
    fragment, that of a field, or that of an inline fragment. -/
inductive SetOf (s : Schema) (d : Document) : Option TypeDefinition → List Selection → Prop where
  | operation {o : Operation} (mem : o ∈ d.operations) : SetOf s d (s.rootType o.kind) o.selections
  | fragment {f : Fragment} (mem : f ∈ d.fragments) :
      SetOf s d (s.compositeType? f.typeCondition) f.selections
  | nested {parent : Option TypeDefinition} {selections below : List Selection} {head : FieldHead}
      (outer : SetOf s d parent selections) (mem : .nested head below ∈ selections) :
      SetOf s d ((s.definitionOf? parent head.name).bind fun f => s.compositeType? f.type.core) below
  | inline {parent : Option TypeDefinition} {selections inner : List Selection} {condition : Option String}
      {directives : List Directive} (outer : SetOf s d parent selections)
      (mem : .inline condition directives inner ∈ selections) :
      SetOf s d (condition.elim parent s.compositeType?) inner

/-- A field of a document has values of a type, and selections below it. -/
def SelectsBelow (s : Schema) (d : Document) (t : TypeDefinition) (below : List Selection) : Prop :=
  ∃ parent selections head field, SetOf s d parent selections ∧ .nested head below ∈ selections
    ∧ s.definitionOf? parent head.name = some field ∧ s.core? field.type = some t

/-- Every field of a document with values of an interface or union asks for the type name, under its own name and not
    inside a fragment, if it has any selections. -/
def AsksTypenames (s : Schema) (d : Document) : Prop :=
  ∀ t below, SelectsBelow s d t below → t.body.isAbstract → below ≠ [] → ∃ member ∈ below, member.isTypename

/-! ### Visiting them -/

/-- A member of a selection set is visited with the set. -/
theorem visit_subset_visits (mem : member ∈ selections) : visit s parent member ⊆ visits s parent selections := by
  induction selections with
  | nil => exact absurd mem List.not_mem_nil
  | cons first rest ih =>
    rw [visits]
    rcases List.mem_cons.1 mem with rfl | mem
    · exact List.subset_append_left _ _
    · exact fun v hv => List.mem_append_right _ (ih mem hv)

/-- The members of the selection sets of a document are visited. -/
theorem SetOf.visited (h : SetOf s d parent selections) :
    ∃ x ∈ d.definitions, visits s parent selections ⊆ x.visits s := by
  induction h with
  | operation mem => exact ⟨_, mem_definitions_of_mem_operations mem, fun _ hv => hv⟩
  | fragment mem => exact ⟨_, mem_definitions_of_mem_fragments mem, fun _ hv => hv⟩
  | nested _ mem ih | inline _ mem ih =>
    obtain ⟨x, hx, visited⟩ := ih
    refine ⟨x, hx, fun v hv => visited (visit_subset_visits mem ?_)⟩
    rw [visit]
    exact List.mem_cons_of_mem _ hv

section Visited

variable {lookup : Option TypeDefinition} {definition : Option FieldDefinition} {head : FieldHead}
  {below : List Selection}

mutual

/-- A field with selections that is visited in a member of a selection set stands in a selection set. -/
theorem SetOf.of_mem_visit {parent : Option TypeDefinition} {selections : List Selection}
    (set : SetOf s d parent selections) (member : Selection) (mem : member ∈ selections)
    (visited : .field lookup definition head (some below) ∈ visit s parent member) :
    ∃ others, SetOf s d lookup others ∧ .nested head below ∈ others
      ∧ definition = s.definitionOf? lookup head.name := by
  match member with
  | .leaf _ => simp [visit] at visited
  | .spread .. => simp [visit] at visited
  | .nested own inner =>
    rw [visit] at visited
    rcases List.mem_cons.1 visited with same | visited
    · cases same
      exact ⟨selections, set, mem, rfl⟩
    · exact SetOf.of_mem_visits (.nested set mem) inner (List.Subset.refl _) visited
  | .inline condition directives inner =>
    rw [visit] at visited
    rcases List.mem_cons.1 visited with same | visited
    · cases same
    · exact SetOf.of_mem_visits (.inline set mem) inner (List.Subset.refl _) visited

/-- A field with selections that is visited in a part of a selection set stands in a selection set. -/
theorem SetOf.of_mem_visits {parent : Option TypeDefinition} {selections : List Selection}
    (set : SetOf s d parent selections) (part : List Selection) (sub : part ⊆ selections)
    (visited : .field lookup definition head (some below) ∈ visits s parent part) :
    ∃ others, SetOf s d lookup others ∧ .nested head below ∈ others
      ∧ definition = s.definitionOf? lookup head.name := by
  match part with
  | [] => simp [visits] at visited
  | first :: rest =>
    obtain ⟨own, others⟩ := List.cons_subset.1 sub
    rw [visits] at visited
    rcases List.mem_append.1 visited with visited | visited
    · exact set.of_mem_visit first own visited
    · exact set.of_mem_visits rest others visited

end

/-- A field with selections is visited in a document exactly if it stands in one of its selection sets. -/
theorem visited_iff : (∃ x ∈ d.definitions, .field lookup definition head (some below) ∈ x.visits s)
    ↔ ∃ selections, SetOf s d lookup selections ∧ .nested head below ∈ selections
      ∧ definition = s.definitionOf? lookup head.name := by
  constructor
  · intro visited
    obtain ⟨x, hx, visited⟩ := visited
    cases x with
    | operation o =>
      have mem : o ∈ d.operations := List.mem_filterMap.2 ⟨_, hx, rfl⟩
      exact (SetOf.operation mem).of_mem_visits _ (List.Subset.refl _) visited
    | fragment f =>
      have mem : f ∈ d.fragments := List.mem_filterMap.2 ⟨_, hx, rfl⟩
      exact (SetOf.fragment mem).of_mem_visits _ (List.Subset.refl _) visited
    | system => exact absurd visited List.not_mem_nil
  · intro stands
    obtain ⟨selections, set, mem, rfl⟩ := stands
    obtain ⟨x, hx, visited⟩ := set.visited
    refine ⟨x, hx, visited (visit_subset_visits mem ?_)⟩
    rw [visit]
    exact List.mem_cons_self

end Visited

/-! ### The rule -/

/-- The rule finds nothing at a field with selections exactly if the field is of no interface or union, has no
    selections, or asks for the type name. -/
theorem typenameFaultAt_field_eq_none_iff {lookup : Option TypeDefinition} {field : FieldDefinition}
    {head : FieldHead} {below : List Selection} :
    typenameFaultAt s (.field lookup (some field) head (some below)) = none
      ↔ ∀ t, s.core? field.type = some t → t.body.isAbstract → below ≠ [] →
        ∃ member ∈ below, member.isTypename := by
  rw [typenameFaultAt]
  cases s.core? field.type with
  | none => simp
  | some t =>
    simp only [Option.some.injEq, forall_eq', Bool.and_eq_true, Bool.not_eq_true', ite_eq_right_iff,
      reduceCtorEq, imp_false, ← List.any_eq_true, List.isEmpty_eq_false_iff, not_and, and_imp,
      Bool.not_eq_false]

/-- **The rule on the type name** finds nothing in a document exactly if every field with values of an interface or
    union asks for the type name, if it has any selections. -/
theorem typenameFaults_eq_nil_iff : typenameFaults s d = [] ↔ AsksTypenames s d := by
  have silent : typenameFaults s d = [] ↔ ∀ x ∈ d.definitions, ∀ v ∈ x.visits s, typenameFaultAt s v = none := by
    simp only [typenameFaults, List.filterMap_eq_nil_iff, List.mem_flatMap]
    grind
  rw [silent]
  constructor
  · intro silent t below selects
    obtain ⟨lookup, selections, head, field, set, mem, known, type⟩ := selects
    obtain ⟨x, hx, visited⟩ := visited_iff.2 ⟨selections, set, mem, known.symm⟩
    exact typenameFaultAt_field_eq_none_iff.1 (silent x hx _ visited) t type
  · intro asks x hx v visited
    -- the rule looks at fields of known types that have selections
    match v with
    | .field lookup (some field) head (some below) =>
      obtain ⟨selections, set, mem, known⟩ := visited_iff.1 ⟨x, hx, visited⟩
      refine typenameFaultAt_field_eq_none_iff.2 fun t type => ?_
      exact asks t below ⟨lookup, selections, head, field, set, mem, known.symm, type⟩
    | .field _ none _ _ | .field _ (some _) _ none | .spread .. | .inline .. => rfl

/-- What the rule finds at a member is reported among the steps at the member. -/
theorem typename_mem_memberSteps {table : List Fragment} {forEvents : Bool} {v : Visit} :
    .report ((typenameFaultAt s v).map .typename).toList ∈ memberSteps s table forEvents v :=
  List.mem_append_left _ (List.mem_cons_of_mem _ (List.mem_cons_of_mem _ List.mem_cons_self))

/-- In an accepted document every field of an interface or union asks for the type name, if it has any selections. -/
theorem Accepted.asksTypenames (h : Accepted s d) : AsksTypenames s d := by
  rw [← typenameFaults_eq_nil_iff, typenameFaults, List.filterMap_eq_nil_iff]
  intro v hv
  obtain ⟨x, hx, hv⟩ := List.mem_flatMap.1 hv
  obtain ⟨before, silent⟩ := exists_faults_eq_nil h.documentFaults hx
  have reported : ∃ forEvents, ∀ step ∈ memberSteps s d.fragmentTable forEvents v,
      step ∈ definitionSteps s d before x := by
    cases x with
    | operation o =>
      exact ⟨_, fun step mem => List.mem_append_left _ (List.mem_append_right _ (List.mem_flatMap.2 ⟨v, hv, mem⟩))⟩
    | fragment f => exact ⟨_, fun step mem => List.mem_append_right _ (List.mem_flatMap.2 ⟨v, hv, mem⟩)⟩
    | system => exact absurd hv List.not_mem_nil
  obtain ⟨forEvents, reported⟩ := reported
  simpa using silent (reported _ typename_mem_memberSteps)

end OperationClasses
