/-
Module: OperationClasses.Proofs.Selection.Standing
Purpose: Where the members of a selection set stand once its fragments are gone into, and on which of these
  places an executor looks.
Main exports: Encloses, Stands, Plain, Schema.applies_iff_possible, Plain.mem_gather_iff
-/
import OperationClasses.Generation.Occurrence
import OperationClasses.Proofs.Accessor.Reduction
import OperationClasses.Proofs.Selection.Execution

namespace OperationClasses

variable {s : Schema} {table : List Fragment}

/-- The field that a member of a selection set is, if it is one. -/
def Selection.field? : Selection → Option SelectedField
  | .leaf head => some ⟨head, none⟩
  | .nested head below => some ⟨head, some below⟩
  | _ => none

/-! ### Places -/

/-- A member whose fields are looked up on `parent` encloses a member that is looked up on `lookup`:
    itself, or one inside the fragment that it is. The position tells which member to go into at each
    step, and the conditions are the types of the fragments on the way. -/
inductive Encloses (s : Schema) (table : List Fragment) :
    TypeDefinition → Selection → List Nat → List String → TypeDefinition → Selection → Prop where
  | self {parent : TypeDefinition} {member : Selection} :
      Encloses s table parent member [] [] parent member
  | bare {parent lookup : TypeDefinition} {directives : List Directive} {inner : List Selection}
      {i : Nat} {next member : Selection} {position : List Nat} {conditions : List String}
      (at_ : inner[i]? = some next)
      (inside : Encloses s table parent next position conditions lookup member) :
      Encloses s table parent (.inline none directives inner) (i :: position) conditions lookup member
  | inline {parent type lookup : TypeDefinition} {condition : String} {directives : List Directive}
      {inner : List Selection} {i : Nat} {next member : Selection} {position : List Nat}
      {conditions : List String} (known : s.find? condition = some type) (at_ : inner[i]? = some next)
      (inside : Encloses s table type next position conditions lookup member) :
      Encloses s table parent (.inline (some condition) directives inner) (i :: position)
        (condition :: conditions) lookup member
  | spread {parent type lookup : TypeDefinition} {name : String} {directives : List Directive}
      {f : Fragment} {i : Nat} {next member : Selection} {position : List Nat} {conditions : List String}
      (found : findFragment table name = some f) (known : s.find? f.typeCondition = some type)
      (at_ : f.selections[i]? = some next)
      (inside : Encloses s table type next position conditions lookup member) :
      Encloses s table parent (.spread name directives) (i :: position) (f.typeCondition :: conditions)
        lookup member

/-- A member stands in a selection set on a type, itself or inside the fragments of the set. -/
def Stands (s : Schema) (table : List Fragment) (parent : TypeDefinition) (selections : List Selection)
    (position : List Nat) (conditions : List String) (lookup : TypeDefinition) (member : Selection) :
    Prop :=
  ∃ i rest next, position = i :: rest ∧ selections[i]? = some next
    ∧ Encloses s table parent next rest conditions lookup member

/-- The type that a member is looked up on is the last one on the way to it. -/
theorem Encloses.getLast? {parent lookup : TypeDefinition} {first member : Selection}
    {position : List Nat} {conditions : List String}
    (h : Encloses s table parent first position conditions lookup member) :
    (parent.name :: conditions).getLast? = some lookup.name := by
  have named : ∀ {condition : String} {type : TypeDefinition}, s.find? condition = some type →
      type.name = condition := fun known => by simpa using List.find?_some known
  induction h with
  | self => rfl
  | bare _ _ ih => exact ih
  | inline known _ _ ih =>
    rw [List.getLast?_cons_cons, ← named known]
    exact ih
  | spread _ known _ _ ih =>
    rw [List.getLast?_cons_cons, ← named known]
    exact ih

/-- The type that a member is looked up on is one of the schema. -/
theorem Encloses.find?_lookup {parent lookup : TypeDefinition} {first member : Selection}
    {position : List Nat} {conditions : List String}
    (h : Encloses s table parent first position conditions lookup member)
    (known : s.find? parent.name = some parent) : s.find? lookup.name = some lookup := by
  have again : ∀ {condition : String} {type : TypeDefinition}, s.find? condition = some type →
      s.find? type.name = some type := by
    intro condition type found
    have same : type.name = condition := by simpa using List.find?_some found
    rwa [same]
  induction h with
  | self => exact known
  | bare _ _ ih => exact ih known
  | inline found _ _ ih => exact ih (again found)
  | spread _ found _ _ ih => exact ih (again found)

/-- The members that stand in a selection set on a type, with the types that they are looked up on. -/
def Reached (s : Schema) (table : List Fragment) (parent : TypeDefinition) (selections : List Selection)
    (lookup : TypeDefinition) (member : Selection) : Prop :=
  ∃ position conditions, Stands s table parent selections position conditions lookup member

/-- The members that a member encloses, with the types that they are looked up on. -/
def Within (s : Schema) (table : List Fragment) (parent : TypeDefinition) (first : Selection)
    (lookup : TypeDefinition) (member : Selection) : Prop :=
  ∃ position conditions, Encloses s table parent first position conditions lookup member

section Within

variable {parent type lookup : TypeDefinition} {member : Selection} {directives : List Directive}
  {inner : List Selection}

/-- A member of a selection set encloses members of the set. -/
theorem Within.reached {first : Selection} {selections : List Selection} (mem : first ∈ selections)
    (h : Within s table parent first lookup member) :
    Reached s table parent selections lookup member := by
  obtain ⟨i, hi⟩ := List.getElem?_of_mem mem
  obtain ⟨position, conditions, h⟩ := h
  exact ⟨i :: position, conditions, i, position, first, rfl, hi, h⟩

/-- What stands in an inline fragment without a type condition is enclosed by it. -/
theorem Reached.bare (h : Reached s table parent inner lookup member) :
    Within s table parent (.inline none directives inner) lookup member := by
  obtain ⟨_, conditions, i, position, next, rfl, hi, h⟩ := h
  exact ⟨i :: position, conditions, .bare hi h⟩

/-- What stands in an inline fragment with a type condition is enclosed by it. -/
theorem Reached.inline {condition : String} (known : s.find? condition = some type)
    (h : Reached s table type inner lookup member) :
    Within s table parent (.inline (some condition) directives inner) lookup member := by
  obtain ⟨_, conditions, i, position, next, rfl, hi, h⟩ := h
  exact ⟨i :: position, condition :: conditions, .inline known hi h⟩

/-- What stands in a fragment is enclosed by its spreads. -/
theorem Reached.spread {name : String} {f : Fragment} (found : findFragment table name = some f)
    (known : s.find? f.typeCondition = some type) (h : Reached s table type f.selections lookup member) :
    Within s table parent (.spread name directives) lookup member := by
  obtain ⟨_, conditions, i, position, next, rfl, hi, h⟩ := h
  exact ⟨i :: position, f.typeCondition :: conditions, .spread found known hi h⟩

theorem Within.self {first : Selection} : Within s table parent first parent first := ⟨[], [], .self⟩

/-- A first member and others reach what it encloses and what they reach. -/
theorem reached_cons {first : Selection} {others : List Selection} :
    Reached s table parent (first :: others) lookup member
      ↔ Within s table parent first lookup member ∨ Reached s table parent others lookup member := by
  constructor
  · rintro ⟨_, conditions, i, position, next, rfl, hi, h⟩
    cases i with
    | zero =>
      cases hi
      exact Or.inl ⟨position, conditions, h⟩
    | succ i => exact Or.inr ⟨i :: position, conditions, i, position, next, rfl, hi, h⟩
  · rintro (h | ⟨_, conditions, i, position, next, rfl, hi, h⟩)
    · exact h.reached List.mem_cons_self
    · exact ⟨(i + 1) :: position, conditions, i + 1, position, next, rfl, hi, h⟩

theorem not_reached_nil : ¬ Reached s table parent [] lookup member := by
  rintro ⟨_, conditions, i, position, next, rfl, hi, h⟩
  cases hi

/-- A field encloses itself only. -/
theorem within_field {first : Selection} {x : SelectedField} (field : first.field? = some x) :
    Within s table parent first lookup member ↔ lookup = parent ∧ member = first := by
  constructor
  · rintro ⟨position, conditions, h⟩
    cases h with
    | self => exact ⟨rfl, rfl⟩
    | bare | inline | spread => cases field
  · rintro ⟨rfl, rfl⟩
    exact Within.self

/-- An inline fragment encloses itself and what its selections reach on its type. -/
theorem within_inline {condition : Option String} :
    Within s table parent (.inline condition directives inner) lookup member
      ↔ (lookup = parent ∧ member = .inline condition directives inner)
        ∨ ∃ type, condition.elim (some parent) s.find? = some type
            ∧ Reached s table type inner lookup member := by
  constructor
  · rintro ⟨position, conditions, h⟩
    cases h with
    | self => exact Or.inl ⟨rfl, rfl⟩
    | bare hi h => exact Or.inr ⟨_, rfl, _, _, _, _, _, rfl, hi, h⟩
    | inline known hi h => exact Or.inr ⟨_, known, _, _, _, _, _, rfl, hi, h⟩
  · rintro (⟨rfl, rfl⟩ | ⟨type, known, h⟩)
    · exact Within.self
    · cases condition with
      | none =>
        cases known
        exact h.bare
      | some condition => exact h.inline known

/-- A spread encloses itself and what the selections of its fragment reach on its type. -/
theorem within_spread {name : String} :
    Within s table parent (.spread name directives) lookup member
      ↔ (lookup = parent ∧ member = .spread name directives)
        ∨ ∃ f type, findFragment table name = some f ∧ s.find? f.typeCondition = some type
            ∧ Reached s table type f.selections lookup member := by
  constructor
  · rintro ⟨position, conditions, h⟩
    cases h with
    | self => exact Or.inl ⟨rfl, rfl⟩
    | spread found known hi h => exact Or.inr ⟨_, _, found, known, _, _, _, _, _, rfl, hi, h⟩
  · rintro (⟨rfl, rfl⟩ | ⟨f, type, found, known, h⟩)
    · exact Within.self
    · exact h.spread found known

end Within

/-! ### Plain selections -/

/-- What is asked of the members that are reached: fields and fragments are known, fragments are on
    composite types and do not come back to themselves, and no directive leaves anything out. -/
structure Plain (s : Schema) (table : List Fragment) (reached : TypeDefinition → Selection → Prop) :
    Prop where
  field : ∀ {lookup member x}, reached lookup member → member.field? = some x →
    ∃ type, s.selectableType? lookup x.head.name = some type
  inline : ∀ {lookup condition directives inner},
    reached lookup (.inline (some condition) directives inner) →
    ∃ type, s.find? condition = some type ∧ type.body.isComposite
  spread : ∀ {lookup name directives}, reached lookup (.spread name directives) →
    ∃ f type, findFragment table name = some f ∧ s.find? f.typeCondition = some type
      ∧ type.body.isComposite
  acyclic : ∀ {lookup name directives f type}, reached lookup (.spread name directives) →
    findFragment table name = some f → s.find? f.typeCondition = some type →
    ∀ lookup' directives', ¬ Reached s table type f.selections lookup' (.spread name directives')
  undirected : ∀ {lookup member}, reached lookup member →
    ∀ d ∈ member.directives, d.name ≠ "skip" ∧ d.name ≠ "include"

/-- Fewer members are plain if more are. -/
theorem Plain.mono {reached fewer : TypeDefinition → Selection → Prop} (plain : Plain s table reached)
    (sub : ∀ lookup member, fewer lookup member → reached lookup member) : Plain s table fewer where
  field h := plain.field (sub _ _ h)
  inline h := plain.inline (sub _ _ h)
  spread h := plain.spread (sub _ _ h)
  acyclic h := plain.acyclic (sub _ _ h)
  undirected h := plain.undirected (sub _ _ h)

/-! ### Conditions -/

/-- A fragment applies to an object type exactly if a value of its type can have it. -/
theorem Schema.applies_iff_possible {object condition : String} :
    s.applies object condition ↔ Possible s condition object := by
  have succeeds : ∀ {types : NameSet},
      (∃ types', (Except.ok types : Except InvariantFault NameSet) = .ok types' ∧ object ∈ types')
        ↔ object ∈ types := by
    intro types
    constructor
    · rintro ⟨_, ⟨⟩, ht⟩
      exact ht
    · exact fun ht => ⟨types, rfl, ht⟩
  have fails : ∀ {fault : InvariantFault}, ¬ ∃ types,
    (Except.error fault : Except InvariantFault NameSet)
      = .ok types ∧ object ∈ types := by
    rintro fault ⟨_, ⟨⟩, _⟩
  unfold Schema.applies Possible Schema.runtimeTypes Schema.possibleTypes
  cases s.find? condition with
  | none => exact iff_of_false Bool.false_ne_true fails
  | some type =>
    obtain ⟨name, directives, body⟩ := type
    cases body with
    | object interfaces fields =>
      refine Iff.trans ?_ succeeds.symm
      rw [NameSet.mem_singleton, beq_iff_eq, eq_comm]
    | interface interfaces fields =>
      refine Iff.trans ?_ succeeds.symm
      rw [implementors, NameSet.mem_ofList, listings, List.any_eq_true, List.mem_flatMap]
      refine exists_congr fun t => and_congr_right fun _ => ?_
      cases t.body <;> simp
      grind
    | union members =>
      refine Iff.trans ?_ succeeds.symm
      rw [NameSet.mem_ofList, List.contains_iff_mem]
    | scalar | enum values | input fields => exact iff_of_false Bool.false_ne_true fails

/-- A fragment that applies is on a type of the schema. -/
theorem Schema.find?_of_applies {object condition : String} (h : s.applies object condition) :
    ∃ type, s.find? condition = some type := by
  unfold Schema.applies at h
  split at h
  · cases h
  · rename_i type known
    exact ⟨type, known⟩

/-! ### Execution -/

/-- Only `@skip` and `@include` leave members out. -/
theorem takesPart_of_undirected {given : String → Bool} {directives : List Directive}
    (undirected : ∀ d ∈ directives, d.name ≠ "skip" ∧ d.name ≠ "include") :
    takesPart given directives := by
  refine List.all_eq_true.2 fun d hd => ?_
  obtain ⟨notSkip, notInclude⟩ := undirected d hd
  rw [if_neg notSkip, if_neg notInclude]

/-- A field that an executor meets stands in fragments that apply. -/
theorem Answered.stands {given : String → Bool} {object : String} {parent : TypeDefinition}
    {selections : List Selection} {x : SelectedField}
    (h : Answered s given object table selections x) :
    ∃ position conditions lookup member,
      Stands s table parent selections position conditions lookup member
      ∧ member.field? = some x ∧ ∀ c ∈ conditions, s.applies object c := by
  induction h generalizing parent with
  | leaf mem =>
    obtain ⟨i, hi⟩ := List.getElem?_of_mem mem
    exact ⟨[i], [], parent, _, ⟨i, [], _, rfl, hi, .self⟩, rfl, by simp⟩
  | nested mem =>
    obtain ⟨i, hi⟩ := List.getElem?_of_mem mem
    exact ⟨[i], [], parent, _, ⟨i, [], _, rfl, hi, .self⟩, rfl, by simp⟩
  | @inline _ _ condition _ _ mem _ applies _ ih =>
    obtain ⟨i, hi⟩ := List.getElem?_of_mem mem
    cases condition with
    | none =>
      obtain ⟨_, conditions, lookup, member, ⟨j, position, next, rfl, hj, h⟩, field, all⟩ := ih
      exact ⟨i :: j :: position, conditions, lookup, member, ⟨i, _, _, rfl, hi, .bare hj h⟩, field, all⟩
    | some condition =>
      have applies : s.applies object condition := applies
      obtain ⟨type, known⟩ := Schema.find?_of_applies applies
      obtain ⟨_, conditions, lookup, member, ⟨j, position, next, rfl, hj, h⟩, field, all⟩ :=
        @ih type
      exact ⟨i :: j :: position, condition :: conditions, lookup, member,
        ⟨i, _, _, rfl, hi, .inline known hj h⟩, field, List.forall_mem_cons.2 ⟨applies, all⟩⟩
  | @spread _ _ _ f _ mem _ found applies _ ih =>
    obtain ⟨i, hi⟩ := List.getElem?_of_mem mem
    obtain ⟨type, known⟩ := Schema.find?_of_applies applies
    obtain ⟨_, conditions, lookup, member, ⟨j, position, next, rfl, hj, h⟩, field, all⟩ :=
      @ih type
    exact ⟨i :: j :: position, f.typeCondition :: conditions, lookup, member,
      ⟨i, _, _, rfl, hi, .spread found known hj h⟩, field, List.forall_mem_cons.2 ⟨applies, all⟩⟩

/-- An executor meets a field that stands in fragments that apply. -/
theorem Encloses.answered {given : String → Bool} {object : String} {parent lookup : TypeDefinition}
    {first member : Selection} {position : List Nat} {conditions : List String} {x : SelectedField}
    (h : Encloses s table parent first position conditions lookup member)
    (plain : Plain s table (Within s table parent first)) (field : member.field? = some x)
    (all : ∀ c ∈ conditions, s.applies object c) :
    Answered s given object table [first] x := by
  induction h with
  | @self _ member =>
    have part : takesPart given member.directives :=
      takesPart_of_undirected (plain.undirected Within.self)
    cases member with
    | leaf head =>
      cases field
      exact .leaf List.mem_cons_self part
    | nested head below =>
      cases field
      exact .nested List.mem_cons_self part
    | spread name directives => cases field
    | inline condition directives inner => cases field
  | bare at_ _ ih =>
    have mem := List.mem_of_getElem? at_
    refine .inline List.mem_cons_self (takesPart_of_undirected (plain.undirected Within.self)) rfl ?_
    exact (ih (plain.mono fun _ _ h => (h.reached mem).bare) field all).mono (by simpa using mem)
  | inline known at_ _ ih =>
    have mem := List.mem_of_getElem? at_
    obtain ⟨applies, all⟩ := List.forall_mem_cons.1 all
    refine .inline List.mem_cons_self (takesPart_of_undirected (plain.undirected Within.self)) applies ?_
    exact (ih (plain.mono fun _ _ h => (h.reached mem).inline known) field all).mono (by simpa using mem)
  | spread found known at_ _ ih =>
    have mem := List.mem_of_getElem? at_
    obtain ⟨applies, all⟩ := List.forall_mem_cons.1 all
    refine .spread List.mem_cons_self (takesPart_of_undirected (plain.undirected Within.self)) found
      applies ?_
    exact (ih (plain.mono fun _ _ h => (h.reached mem).spread found known) field all).mono
      (by simpa using mem)

/-- For plain selections, an executor meets exactly the fields that stand in fragments that apply. -/
theorem Plain.mem_gather_iff {given : String → Bool} {object : String} {parent : TypeDefinition}
    {selections : List Selection} {x : SelectedField}
    (plain : Plain s table (Reached s table parent selections)) :
    x ∈ gather s given object table selections
      ↔ ∃ position conditions lookup member,
          Stands s table parent selections position conditions lookup member
            ∧ member.field? = some x ∧ ∀ c ∈ conditions, Possible s c object := by
  simp only [OperationClasses.mem_gather_iff, ← Schema.applies_iff_possible]
  constructor
  · exact Answered.stands
  · rintro ⟨_, conditions, lookup, member, ⟨i, position, next, rfl, hi, h⟩, field, all⟩
    have mem := List.mem_of_getElem? hi
    exact (h.answered (plain.mono fun _ _ h => h.reached mem) field all).mono (by simpa using mem)

end OperationClasses
