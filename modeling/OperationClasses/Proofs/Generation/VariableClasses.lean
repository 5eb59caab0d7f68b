/-
Module: OperationClasses.Proofs.Generation.VariableClasses
Purpose: What the classes of enums and input object types and the variables of operations are made from. What holds of
  every class that is made so keeps holding of all registered classes while variables and simple fields are read.
Main exports: Variable.Made, inputFields_made, declaredVariables_made, Variable.exists_source, HoldsOfSupport,
  coreInput_all, declaredVariables_all, coreOutput_all
-/
import Mathlib.Data.List.Forall2
import OperationClasses.Proofs.Generation.Linking

namespace OperationClasses

open Generation Naming

variable {settings : Settings} {p q : Progress} {reserved : List String}

/-! ### Where variables come from -/

/-- A variable was made from a GraphQL name: its own name is the identifier of that name, and what it sends is written
    over that identifier. -/
structure Variable.Made (reserved : List String) (graphqlName : String) (v : Variable) : Prop where
  source : v.graphqlName = graphqlName
  name : safeIdentifier reserved (underscore graphqlName) = .ok v.name
  sends : ∃ layers template,
    inputConversion layers v.name v.name (listDepth layers) template = .ok v.serializer

theorem TypedInput.Wraps.made {core typed : TypedInput} {type : TypeRef} {name graphqlName : String}
    (wraps : core.Wraps type name typed) (named : safeIdentifier reserved (underscore graphqlName) = .ok name) :
    (typed.variable name graphqlName).Made reserved graphqlName :=
  ⟨rfl, named, type.layers, core.serializer, wraps.serializer⟩

/-- The fields that are read are made from the names of the type's fields. -/
theorem inputFields_made {available : List String} {fields : List InputDefinition} {xs : List Variable}
    (h : Yields (inputFields settings available fields) p xs q) :
    List.Forall₂ (Variable.Made inputFieldReserved) (fields.map (·.name)) xs := by
  induction fields generalizing p xs with
  | nil =>
    rw [inputFields, yields_pure_iff] at h
    obtain ⟨rfl, rfl⟩ := h
    exact .nil
  | cons field rest ih =>
    obtain ⟨name, core, typed, others, between, named, -, wraps, later, rfl⟩ := yields_inputFields_cons_iff.1 h
    exact .cons (wraps.made named) (ih later)

/-- The variables that are read are made from the declared names. -/
theorem declaredVariables_made {vs : List VariableDeclaration} {xs : List Variable}
    (h : Yields (vs.mapM (declaredVariable settings)) p xs q) :
    List.Forall₂ (Variable.Made variableReserved) (vs.map (·.name)) xs := by
  induction vs generalizing p xs with
  | nil =>
    obtain ⟨rfl, rfl⟩ := yields_pure_iff.1 h
    exact .nil
  | cons v rest ih =>
    obtain ⟨x, r, others, first, later, rfl⟩ := yields_mapM_cons_iff.1 h
    obtain ⟨_, -, first⟩ := yields_declaredVariable_iff.1 first
    obtain ⟨name, core, typed, named, -, wraps, rfl⟩ := yields_variableDefinition_iff.1 first
    exact .cons (wraps.made named) (ih later)

/-- Each variable was made from one of the named things. -/
theorem Variable.exists_source {α : Type} {nameOf : α → String} {xs : List α} {vs : List Variable}
    (made : List.Forall₂ (Variable.Made reserved) (xs.map nameOf) vs) :
    ∀ v ∈ vs, ∃ x ∈ xs, safeIdentifier reserved (underscore (nameOf x)) = .ok v.name := by
  replace made := List.forall₂_map_left_iff.1 made
  induction made with
  | nil => exact fun _ absent => absurd absent List.not_mem_nil
  | cons first _ ih =>
    refine List.forall_mem_cons.2 ⟨⟨_, List.mem_cons_self, first.name⟩, fun v hv => ?_⟩
    obtain ⟨x, hx, named⟩ := ih v hv
    exact ⟨x, List.mem_cons_of_mem _ hx, named⟩

/-! ### The classes of enums and input object types -/

/-- A property that the classes of the enums and of the input object types of a schema have which are within reach, as
    are the types of all fields of one that is. -/
structure HoldsOfSupport (settings : Settings) (reach : String → Prop) (P : ClassDefinition → Prop) : Prop where
  enum {t : TypeDefinition} {values : List EnumValueDefinition} {className : String} (reached : reach t.name)
    (type : settings.schema.find? t.name = some t) (body : t.body = .enum values)
    (named : typeClassName t.name = .ok className) : P (.enum ⟨className, t.name, values.map (·.name)⟩)
  field {t : TypeDefinition} {fields : List InputDefinition} {f : InputDefinition} (reached : reach t.name)
    (type : settings.schema.find? t.name = some t) (body : t.body = .input fields) (mem : f ∈ fields) :
    reach f.type.core
  input {t : TypeDefinition} {fields : List InputDefinition} {className : String} {xs : List Variable}
    (reached : reach t.name) (type : settings.schema.find? t.name = some t) (body : t.body = .input fields)
    (named : typeClassName t.name = .ok className)
    (made : List.Forall₂ (Variable.Made inputFieldReserved) (fields.map (·.name)) xs) :
    P (.input ⟨className, t.name, xs⟩)

variable {reach : String → Prop} {P : ClassDefinition → Prop}

theorem enumClass_all (holds : HoldsOfSupport settings reach P) {t : TypeDefinition}
    {values : List EnumValueDefinition} {className : String} (reached : reach t.name)
    (type : settings.schema.find? t.name = some t) (body : t.body = .enum values)
    (h : Yields (enumClass t.name values) p className q) (old : ∀ c ∈ p.registry.classes, P c) :
    ∀ c ∈ q.registry.classes, P c := by
  rcases yields_enumClass_iff.1 h with ⟨-, rfl⟩ | ⟨-, named, registry, added, rfl⟩
  · exact old
  · exact Registry.all_of_add added old (holds.enum reached type body named)

mutual

/-- The property holds of all classes after a type of variables was read. -/
theorem coreInput_all (holds : HoldsOfSupport settings reach P) (available : List String) (name : String)
    (reached : reach name) {p q : Progress} {core : TypedInput}
    (h : Yields (coreInput settings available name) p core q) (old : ∀ c ∈ p.registry.classes, P c) :
    ∀ c ∈ q.registry.classes, P c := by
  unfold coreInput at h
  split at h
  · simp only [yields_bind_iff, yields_pure_iff] at h
    obtain ⟨_, _, bound, _, rfl⟩ := h
    obtain ⟨-, rfl⟩ := yields_scalarBinding_iff.1 bound
    exact old
  · rename_i type
    simp only [yields_bind_iff, yields_pure_iff] at h
    obtain ⟨_, _, read, _, rfl⟩ := h
    have named := Schema.name_of_find? type
    subst named
    exact enumClass_all holds reached type rfl read old
  · rename_i type
    simp only [yields_bind_iff, yields_pure_iff] at h
    obtain ⟨_, _, read, _, rfl⟩ := h
    exact inputClassOf_all holds available name _ reached type rfl read old
  · exact absurd h not_yields_throw
  · exact absurd h not_yields_throw
termination_by (available.length, 2, 0)

theorem inputClassOf_all (holds : HoldsOfSupport settings reach P) (available : List String) (name : String)
    (fields : List InputDefinition) {t : TypeDefinition} (reached : reach name)
    (type : settings.schema.find? name = some t) (body : t.body = .input fields) {p q : Progress} {className : String}
    (h : Yields (inputClassOf settings available name fields) p className q)
    (old : ∀ c ∈ p.registry.classes, P c) : ∀ c ∈ q.registry.classes, P c := by
  rcases yields_inputClassOf_iff.1 h with ⟨-, rfl⟩ | ⟨-, named, ⟨-, rfl⟩ |
    ⟨listed, xs, between, registry, read, added, rfl⟩⟩
  · exact old
  · exact old
  · have smaller := length_erase_lt listed
    have sameName := Schema.name_of_find? type
    subst sameName
    have fieldsReached : ∀ f ∈ fields, reach f.type.core := fun _ => holds.field reached type body
    have inside := inputFields_all holds (available.erase t.name) fields fieldsReached read old
    exact Registry.all_of_add added inside (holds.input reached type body named (inputFields_made read))
termination_by (available.length, 1, 0)
decreasing_by exact Prod.Lex.left _ _ smaller

theorem inputFields_all (holds : HoldsOfSupport settings reach P) (available : List String)
    (fields : List InputDefinition) (reached : ∀ f ∈ fields, reach f.type.core) {p q : Progress} {xs : List Variable}
    (h : Yields (inputFields settings available fields) p xs q) (old : ∀ c ∈ p.registry.classes, P c) :
    ∀ c ∈ q.registry.classes, P c := by
  match fields with
  | [] =>
    rw [inputFields, yields_pure_iff] at h
    obtain ⟨rfl, rfl⟩ := h
    exact old
  | field :: rest =>
    obtain ⟨name, core, typed, others, between, -, read, -, later, rfl⟩ := yields_inputFields_cons_iff.1 h
    obtain ⟨first, others⟩ := List.forall_mem_cons.1 reached
    exact inputFields_all holds available rest others later (coreInput_all holds available _ first read old)
termination_by (available.length, 3, fields.length)

end

/-- The property holds of all classes after the variables of an operation were read. -/
theorem declaredVariables_all (holds : HoldsOfSupport settings reach P) {vs : List VariableDeclaration}
    {xs : List Variable} (reached : ∀ v ∈ vs, reach v.type.core)
    (h : Yields (vs.mapM (declaredVariable settings)) p xs q) (old : ∀ c ∈ p.registry.classes, P c) :
    ∀ c ∈ q.registry.classes, P c := by
  induction vs generalizing p xs with
  | nil =>
    obtain ⟨rfl, rfl⟩ := yields_pure_iff.1 h
    exact old
  | cons v rest ih =>
    obtain ⟨x, r, others, first, later, rfl⟩ := yields_mapM_cons_iff.1 h
    obtain ⟨_, -, first⟩ := yields_declaredVariable_iff.1 first
    obtain ⟨name, core, typed, -, read, -, rfl⟩ := yields_variableDefinition_iff.1 first
    obtain ⟨own, others⟩ := List.forall_mem_cons.1 reached
    exact ih others later (coreInput_all holds _ _ own read old)

/-- The property holds of all classes after a field without selections was read. -/
theorem coreOutput_all (holds : HoldsOfSupport settings reach P) {wanted : String} {o : Occurrence}
    {t : TypeDefinition} {core : TypedOutput} (reached : reach t.name)
    (type : settings.schema.core? o.type = some t) (simple : ¬ t.body.isComposite)
    (h : Yields (coreOutput settings wanted o) p core q) (old : ∀ c ∈ p.registry.classes, P c) :
    ∀ c ∈ q.registry.classes, P c := by
  rcases (yields_coreOutput_iff type simple).1 h with ⟨-, binding, bound, -⟩ | ⟨values, className, body, read, -⟩
  · obtain ⟨-, rfl⟩ := yields_scalarBinding_iff.1 bound
    exact old
  · exact enumClass_all holds reached (Schema.find?_name type) body read old

end OperationClasses
