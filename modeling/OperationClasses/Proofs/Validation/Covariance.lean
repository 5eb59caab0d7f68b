/-
Module: OperationClasses.Proofs.Validation.Covariance
Purpose: In a schema whose types implement their interfaces, the objects of a response are possible for the
  selection sets that are asked for at their places.
Main exports: Schema.Implements, Located, Located.possible
-/
import Mathlib.Data.List.Nodup
import OperationClasses.Proofs.Validation.Places

namespace OperationClasses

variable {s : Schema} {d : Document} {given : String → Bool} {operation : Operation}

/-! ### Interfaces -/

/-- Whether values of a type are values of an interface or union: it lists the interface, or it is an object
    type of the union. -/
def TypeDefinition.isSubtypeOf (t wide : TypeDefinition) : Bool :=
  match wide.body with
  | .interface .. => decide (wide.name ∈ t.interfaces)
  | .union members => t.isObject && decide (t.name ∈ members)
  | _ => false

/-- Whether the values of one type are values of another one: its layers are the same but may be required
    where the others are not, and its named type is the same or a subtype. -/
def TypeRef.narrows (s : Schema) : TypeRef → TypeRef → Bool
  | .named a required, .named b required' =>
    (!required' || required) && (a == b || (s.find? a).any fun t => (s.find? b).any t.isSubtypeOf)
  | .list a required, .list b required' => (!required' || required) && a.narrows s b
  | _, _ => false

/-- What is asked of the types of a valid schema that list interfaces: they list those that their interfaces
    list, and have the fields of their interfaces, of types that may be narrower. No field has the name of a
    meta field. -/
structure Schema.Implements (s : Schema) : Prop where
  interfaces : ∀ t ∈ s.types, ∀ i ∈ t.interfaces, ∀ u ∈ s.find? i, ∀ j ∈ u.interfaces, j ∈ t.interfaces
  fields : ∀ t ∈ s.types, ∀ i ∈ t.interfaces, ∀ u ∈ s.find? i, ∀ f ∈ u.outputFields,
    (t.outputFields.find? (·.name == f.name)).any (·.type.narrows s f.type)
  own : ∀ t ∈ s.types, ∀ f ∈ t.outputFields, ∀ m ∈ [typenameField, schemaField, typeField], f.name ≠ m.name

/-- Whether the types of a schema implement their interfaces can be found out. -/
instance (s : Schema) : Decidable s.Implements :=
  decidable_of_iff ((∀ t ∈ s.types, ∀ i ∈ t.interfaces, ∀ u ∈ s.find? i, ∀ j ∈ u.interfaces, j ∈ t.interfaces)
      ∧ (∀ t ∈ s.types, ∀ i ∈ t.interfaces, ∀ u ∈ s.find? i, ∀ f ∈ u.outputFields,
        (t.outputFields.find? (·.name == f.name)).any (·.type.narrows s f.type))
      ∧ ∀ t ∈ s.types, ∀ f ∈ t.outputFields, ∀ m ∈ [typenameField, schemaField, typeField], f.name ≠ m.name)
    ⟨fun h => ⟨h.1, h.2.1, h.2.2⟩, fun h => ⟨h.interfaces, h.fields, h.own⟩⟩

/-! ### Possible types -/

section Possible

variable {t wide : TypeDefinition} {name x : String}

theorem possible_iff (known : s.find? name = some wide) :
    Possible s name x ↔ ∃ types, s.possibleTypes wide = some types ∧ x ∈ types := by
  unfold Possible Schema.runtimeTypes
  simp only [known]
  cases s.possibleTypes wide with
  | none => exact iff_of_false (by rintro ⟨_, ⟨⟩, _⟩) (by rintro ⟨_, ⟨⟩, _⟩)
  | some types => exact exists_congr fun _ => and_congr_left' (by simp [pure, Except.pure])

/-- Only a composite type has possible types. -/
theorem Possible.composite (h : Possible s name x) :
    ∃ wide, s.find? name = some wide ∧ wide.body.isComposite := by
  cases known : s.find? name with
  | none =>
    obtain ⟨types, h, -⟩ := h
    rw [Schema.runtimeTypes, known] at h
    cases h
  | some wide =>
    obtain ⟨types, h, -⟩ := (possible_iff known).1 h
    refine ⟨wide, rfl, ?_⟩
    obtain ⟨own, directives, body⟩ := wide
    cases body with
    | object | interface | union => rfl
    | scalar | enum | input => cases h

/-- The object types that list an interface. -/
theorem Schema.mem_implementors {i : String} :
    x ∈ s.implementors i ↔ ∃ t ∈ s.types, t.isObject ∧ t.name = x ∧ i ∈ t.interfaces := by
  rw [implementors, NameSet.mem_ofList, listings, List.mem_flatMap]
  refine exists_congr fun t => and_congr_right fun _ => ?_
  obtain ⟨own, directives, body⟩ := t
  cases body with
  | object interfaces fields =>
    simp only [TypeDefinition.isObject, TypeDefinition.interfaces, List.mem_map, List.mem_filter, beq_iff_eq]
    grind
  | scalar | interface | union | enum | input => simp [TypeDefinition.isObject]

/-- An object type is possible only for itself. -/
theorem possible_of_isObject (known : s.find? name = some wide) (object : wide.isObject) :
    Possible s name x ↔ x = name := by
  rw [possible_iff known, ← Schema.name_of_find? known]
  obtain ⟨own, directives, body⟩ := wide
  cases body with
  | object => simp [Schema.possibleTypes]
  | scalar | interface | union | enum | input => cases object

/-- The values of a type that lists an interface are values of the interface. -/
theorem Schema.Implements.possible_of_lists (implements : s.Implements) (known : s.find? name = some t)
    (known' : s.find? wide.name = some wide) {interfaces : List String} {fields : List FieldDefinition}
    (body : wide.body = .interface interfaces fields) (lists : wide.name ∈ t.interfaces)
    (h : Possible s name x) : Possible s wide.name x := by
  refine (possible_iff known').2 ⟨s.implementors wide.name, by rw [possibleTypes, body], ?_⟩
  rw [mem_implementors]
  obtain ⟨types, own, mem⟩ := (possible_iff known).1 h
  have listed := mem_types_of_find? known
  have found := find?_name known
  obtain ⟨tName, directives, tBody⟩ := t
  cases tBody with
  | object =>
    cases own
    exact ⟨_, listed, rfl, (NameSet.mem_singleton.1 mem).symm, lists⟩
  | interface =>
    cases own
    obtain ⟨t', listed', object, named, lists'⟩ := mem_implementors.1 mem
    exact ⟨t', listed', object, named, implements.interfaces t' listed' _ lists' _ found _ lists⟩
  | scalar | union | enum | input => exact absurd lists List.not_mem_nil

/-- The values of a narrower type are values of the wider one. -/
theorem Schema.Implements.possible_of_narrows (implements : s.Implements) {a b : TypeRef}
    (narrows : a.narrows s b) (h : Possible s a.core x) : Possible s b.core x := by
  induction a generalizing b with
  | list item _ ih =>
    cases b with
    | named => cases narrows
    | list other =>
      obtain ⟨-, narrows⟩ := Bool.and_eq_true_iff.1 narrows
      have inner : Possible s other.core x := ih narrows h
      exact inner
  | named a _ =>
    cases b with
    | list => cases narrows
    | named b =>
      obtain ⟨-, narrows⟩ := Bool.and_eq_true_iff.1 narrows
      rcases Bool.or_eq_true_iff.1 narrows with same | subtype
      · rwa [← beq_iff_eq.1 same]
      · obtain ⟨t, known, found⟩ := (Option.any_eq_true _ _).1 subtype
        obtain ⟨wide, known', below⟩ := (Option.any_eq_true _ _).1 found
        have sameName : wide.name = b := name_of_find? known'
        unfold TypeDefinition.isSubtypeOf at below
        split at below
        · rename_i body
          subst sameName
          exact implements.possible_of_lists known known' body (of_decide_eq_true below) h
        · rename_i members body
          obtain ⟨object, member⟩ := Bool.and_eq_true_iff.1 below
          have alone : x = a := (possible_of_isObject known object).1 h
          refine (possible_iff known').2 ⟨NameSet.ofList members, by rw [possibleTypes, body], ?_⟩
          rw [NameSet.mem_ofList, alone, ← name_of_find? known]
          exact of_decide_eq_true member
        · cases below

/-- No field of a type is hidden by a meta field. -/
theorem Schema.Implements.selectableType?_of_find? (implements : s.Implements) (mem : t ∈ s.types)
    {field : String} {f : FieldDefinition} (found : t.outputFields.find? (·.name == field) = some f) :
    s.selectableType? t field = some f.type := by
  have named : f.name = field := by simpa using List.find?_some found
  have own := implements.own t mem f (List.mem_of_find?_eq_some found)
  rw [named] at own
  have none_ : s.metaField? t field = none := by
    unfold metaField?
    rw [if_neg (own typenameField (by simp)), if_neg (own schemaField (by simp)),
      if_neg (own typeField (by simp)), ite_self]
  unfold Schema.selectableType? TypeDefinition.fieldType?
  rw [none_, found]

/-- An object type has the fields of every interface that it lists, of types whose values are values of
    theirs. -/
theorem Schema.Implements.selectableType?_of_lists (implements : s.Implements)
    (known : s.find? wide.name = some wide) (mem : t ∈ s.types) (lists : wide.name ∈ t.interfaces)
    {field : String} {f : FieldDefinition}
    (found : wide.outputFields.find? (·.name == field) = some f) :
    ∃ own, s.selectableType? t field = some own ∧ ∀ x, Possible s own.core x → Possible s f.type.core x := by
  have named : f.name = field := by simpa using List.find?_some found
  obtain ⟨g, found', narrows⟩ := (Option.any_eq_true _ _).1
    (implements.fields t mem _ lists wide known f (List.mem_of_find?_eq_some found))
  rw [named] at found'
  have selectable := implements.selectableType?_of_find? mem found'
  exact ⟨g.type, selectable, fun x => implements.possible_of_narrows narrows⟩

/-- What can be selected on a composite type can be selected on the object types that are possible for it,
    where it is of a type whose values are values of the type that it has there. -/
theorem Schema.Implements.selectableType? (implements : s.Implements) (valid : s.Valid) {field : String}
    {type : TypeRef} (known : s.find? wide.name = some wide) (known' : s.find? t.name = some t)
    (h : Possible s wide.name t.name) (selectable : s.selectableType? wide field = some type) :
    ∃ own, s.selectableType? t field = some own ∧ ∀ x, Possible s own.core x → Possible s type.core x := by
  by_cases object : wide.isObject
  · rw [possible_of_isObject known object] at h
    rw [h, known] at known'
    cases known'
    exact ⟨type, selectable, fun _ => id⟩
  by_cases typename : field = typenameField.name
  · subst typename
    have always : ∀ u, s.selectableType? u typenameField.name = some typenameField.type := fun u => by
      rw [Schema.selectableType?, metaField?, if_pos rfl]
    rw [always] at selectable ⊢
    cases selectable
    exact ⟨_, rfl, fun _ => id⟩
  -- the other meta fields are those of a root type, which is an object type
  have noRoot : s.queryType ≠ some wide.name := by
    intro root
    have isRoot : s.rootName .query = some wide.name := root
    obtain ⟨u, found, isObject⟩ := valid.root isRoot
    rw [known] at found
    cases found
    exact object isObject
  unfold Schema.selectableType? metaField? at selectable
  rw [if_neg typename, if_neg noRoot] at selectable
  obtain ⟨types, possible, mem⟩ := (possible_iff known).1 h
  have field_ : ∃ f, wide.outputFields.find? (·.name == field) = some f ∧ f.type = type := by
    obtain ⟨composite, known'', isComposite⟩ := h.composite
    rw [known] at known''
    cases known''
    simp only [TypeDefinition.fieldType?, inputFields_of_isComposite isComposite] at selectable
    cases found : wide.outputFields.find? (·.name == field) with
    | none => rw [found] at selectable; cases selectable
    | some f => rw [found] at selectable; exact ⟨f, rfl, Option.some.inj selectable⟩
  obtain ⟨f, found, rfl⟩ := field_
  have lists : wide.name ∈ t.interfaces := by
    obtain ⟨name, directives, body⟩ := wide
    cases body with
    | object => exact absurd rfl object
    | interface =>
      cases possible
      obtain ⟨t', listed', -, named, lists⟩ := mem_implementors.1 mem
      have same : t' = t := List.inj_on_of_nodup_map valid.unique listed' (mem_types_of_find? known') named
      rwa [same] at lists
    | union => cases found
    | scalar | enum | input => cases possible
  exact implements.selectableType?_of_lists known (mem_types_of_find? known') lists found

end Possible

/-! ### Occurrences -/

/-- The field of an occurrence is looked up on the type that it stands on: that of its selection set, or
    the condition of the innermost fragment around it. -/
def Occurrence.StandsOn (s : Schema) (o : Occurrence) : Prop :=
  ∃ parent, s.find? parent.name = some parent ∧ (parent.name = o.owner ∨ parent.name ∈ o.conditions)
    ∧ s.selectableType? parent o.head.name = some o.type

mutual

theorem standsOn_of_mem_collect {owner : String} {conditions : List String} {parent : TypeDefinition}
    (known : s.find? parent.name = some parent) (here : parent.name = owner ∨ parent.name ∈ conditions)
    (r : Resolved) {os : List Occurrence} (h : collect s owner conditions parent r = .ok os) :
    ∀ o ∈ os, o.StandsOn s := by
  match r with
  | .leaf head =>
    obtain ⟨type, found, h⟩ := bind_ok (by simpa only [collect] using h)
    cases h
    intro o ho
    cases List.mem_singleton.1 ho
    exact ⟨parent, known, here, fieldTypeOf_eq_ok_iff.1 found⟩
  | .nested head below =>
    obtain ⟨type, found, h⟩ := bind_ok (by simpa only [collect] using h)
    cases h
    intro o ho
    cases List.mem_singleton.1 ho
    exact ⟨parent, known, here, fieldTypeOf_eq_ok_iff.1 found⟩
  | .narrowed none below =>
    exact standsOn_of_mem_collectAll known here below (by simpa only [collect] using h)
  | .narrowed (some condition) below =>
    obtain ⟨t, found, h⟩ := bind_ok (by simpa only [collect] using h)
    rw [typeNamed_eq_ok_iff] at found
    refine standsOn_of_mem_collectAll (Schema.find?_name found) (Or.inr ?_) below h
    rw [Schema.name_of_find? found]
    exact List.mem_append_right _ List.mem_cons_self
  | .missing name => simp [collect, throw, throwThe, MonadExceptOf.throw] at h
  | .cyclic name => simp [collect, throw, throwThe, MonadExceptOf.throw] at h

theorem standsOn_of_mem_collectAll {owner : String} {conditions : List String} {parent : TypeDefinition}
    (known : s.find? parent.name = some parent) (here : parent.name = owner ∨ parent.name ∈ conditions)
    (rs : List Resolved) {os : List Occurrence} (h : collectAll s owner conditions parent rs = .ok os) :
    ∀ o ∈ os, o.StandsOn s := by
  match rs with
  | [] =>
    cases h
    exact fun o ho => absurd ho List.not_mem_nil
  | r :: rest =>
    obtain ⟨first, collects, h⟩ := bind_ok (by simpa only [collectAll] using h)
    obtain ⟨others, collects', h⟩ := bind_ok h
    cases h
    intro o ho
    rcases List.mem_append.1 ho with ho | ho
    · exact standsOn_of_mem_collect known here r collects o ho
    · exact standsOn_of_mem_collectAll known here rest collects' o ho

end

/-! ### The objects of a response -/

/-- An object at a place in a response to an operation, with its runtime type and what is selected for it: the
    response itself, or an object in the value of a response key, which completes the types of all fields with
    the key. -/
inductive Located (s : Schema) (d : Document) (given : String → Bool) (operation : Operation) :
    List (String × String) → TypeDefinition → List Selection → List (String × Json) → Prop where
  | root {t : TypeDefinition} {members : List (String × Json)} (mem : operation ∈ d.operations)
      (type : s.rootType operation.kind = some t)
      (answers : Answers s d.fragmentTable given t operation.selections members) :
      Located s d given operation [] t operation.selections members
  | under {way : List (String × String)} {t inner : TypeDefinition} {selections : List Selection}
      {members below : List (String × Json)} {key : String} {fields : List SelectedField} {f : SelectedField}
      {value : Json} (outer : Located s d given operation way t selections members)
      (group : (key, fields) ∈ collectFields s d.fragmentTable given t.name selections)
      (member : (key, value) ∈ members) (field : f ∈ fields)
      (holds : ∀ f ∈ fields, ∀ type, s.selectableType? t f.head.name = some type →
        Holds s d.fragmentTable given type (mergedBelow fields) value inner below) :
      Located s d given operation ((t.name, key) :: way) inner (mergedBelow fields) below

/-- The objects that a value holds are possible for its named type. -/
theorem Holds.possible {table : List Fragment} {type : TypeRef} {selections : List Selection} {value : Json}
    {t : TypeDefinition} {members : List (String × Json)}
    (h : Holds s table given type selections value t members) : Possible s type.core t.name := by
  induction h with
  | self possible _ => exact possible
  | item _ _ ih => exact ih

section Located

variable {way : List (String × String)} {t inner : TypeDefinition} {selections : List Selection}
  {members : List (String × Json)}

/-- What is selected for a located object is what is asked for at its place. -/
theorem Located.meets (faultless : Faultless s d) (valid : s.Valid) (undirected : d.Undirected)
    (h : Located s d given operation way t selections members) :
    operation ∈ d.operations ∧ Meets s d given operation way t.name selections := by
  induction h with
  | root mem => exact ⟨mem, faultless.meets_root valid undirected mem⟩
  | under _ group _ _ _ ih => exact ⟨ih.1, faultless.meets_below valid undirected ih.1 ih.2 group⟩

/-- What is asked for at a place stands in a selection set there. -/
theorem AskedOf.standsOn (faultless : Faultless s d) (valid : s.Valid) (mem : operation ∈ d.operations)
    {object : String} {o : Occurrence} (asked : AskedOf s d operation way object o) :
    o.StandsOn s ∧ o.AppliesTo s object
      ∧ ∃ owner others, Asked s d operation way owner others ∧ o.owner = owner.name := by
  obtain ⟨owner, others, os, asks, occurs, ho, applies⟩ := asked
  obtain ⟨known, -, -⟩ := faultless.selected valid (asks.selected mem)
  obtain ⟨os', occurs', readable⟩ := faultless.readable valid (asks.selected mem)
  rw [occurs] at occurs'
  cases occurs'
  exact ⟨standsOn_of_mem_collectAll known (Or.inl rfl) others occurs o ho, applies, owner, others, asks,
    (readable o ho).owner⟩

/-- An occurrence that applies to an object at a place has a field of the type of the object, with values
    that are values of the occurrence. -/
theorem AskedOf.selectable (faultless : Faultless s d) (valid : s.Valid) (implements : s.Implements)
    (mem : operation ∈ d.operations) (known : s.find? t.name = some t) {o : Occurrence}
    (possible : ∀ owner others, Asked s d operation way owner others → Possible s owner.name t.name)
    (asked : AskedOf s d operation way t.name o) :
    ∃ own, s.selectableType? t o.head.name = some own
      ∧ ∀ x, Possible s own.core x → Possible s o.type.core x := by
  obtain ⟨⟨parent, known', here, selectable⟩, applies, owner, others, asks, sameOwner⟩ :=
    asked.standsOn faultless valid mem
  refine implements.selectableType? valid known' known ?_ selectable
  rcases here with here | here
  · rw [here, sameOwner]
    exact possible owner others asks
  · exact applies parent.name here

/-- An object in the value of a response key is in a value of each field with the key, and is possible for
    the type that an occurrence of the field has. -/
theorem AskedOf.held (faultless : Faultless s d) (valid : s.Valid) (implements : s.Implements)
    (mem : operation ∈ d.operations) (known : s.find? t.name = some t) {o : Occurrence}
    (possible : ∀ owner others, Asked s d operation way owner others → Possible s owner.name t.name)
    {fields : List SelectedField} {value : Json}
    (holds : ∀ f ∈ fields, ∀ type, s.selectableType? t f.head.name = some type →
      Holds s d.fragmentTable given type (mergedBelow fields) value inner members)
    (asked : AskedOf s d operation way t.name o) {f : SelectedField} (hf : f ∈ fields)
    (depicts : Depicts d.fragmentTable f o) :
    ∃ own, s.selectableType? t f.head.name = some own
      ∧ Holds s d.fragmentTable given own (mergedBelow fields) value inner members
      ∧ Possible s o.type.core inner.name := by
  obtain ⟨own, selectable, wider⟩ := asked.selectable faultless valid implements mem known possible
  rw [depicts.head] at selectable
  have held := holds f hf own selectable
  exact ⟨own, selectable, held, wider _ held.possible⟩

/-- The object types that are asked about at a place admit the objects that are there. -/
theorem Located.possible (faultless : Faultless s d) (valid : s.Valid) (implements : s.Implements)
    (undirected : d.Undirected) (h : Located s d given operation way t selections members) :
    s.find? t.name = some t
      ∧ ∀ owner others, Asked s d operation way owner others → Possible s owner.name t.name := by
  induction h with
  | root mem type answers =>
    obtain ⟨root, isRoot, known, object, -⟩ := faultless.operation valid mem
    rw [type] at isRoot
    cases isRoot
    refine ⟨known, fun owner others asked => ?_⟩
    cases asked with
    | root type' =>
      rw [type] at type'
      cases type'
      exact (possible_of_isObject known object).2 rfl
  | @under way t inner selections members below key fields f value outer group member field holds ih =>
    obtain ⟨known, possible⟩ := ih
    obtain ⟨mem, meets⟩ := outer.meets faultless valid undirected
    constructor
    · obtain ⟨o, asked, depicts⟩ := meets.found f ((mem_group_iff group).1 field).1
      obtain ⟨own, -, held, -⟩ :=
        asked.held faultless valid implements mem known possible holds field depicts
      cases held.answers with
      | object _ known => exact known
    · intro owner others asked
      cases asked with
      | under outer' occurs ho applies type composite selected =>
        have asked : AskedOf s d operation way t.name _ := ⟨_, _, _, outer', occurs, ho, applies⟩
        obtain ⟨x, hx, depicts⟩ := meets.asked _ asked
        have sameKey := congrArg FieldHead.responseKey depicts.head.symm
        obtain ⟨-, -, -, possible'⟩ := asked.held faultless valid implements mem known possible holds
          ((mem_group_iff group).2 ⟨hx, sameKey⟩) depicts
        rwa [Schema.name_of_find? type]

end Located

end OperationClasses
