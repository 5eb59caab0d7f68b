/-
Module: OperationClasses.Proofs.Generation.InputClosure
Purpose: Reading an input object type in a fresh run makes one class for each enum and input object type that fields
  lead to from it, and no other.
Main exports: Schema.LeadsTo, Schema.NamesClosure, exists_coreInput, Progress.Closes, inputClass_closes
-/
import OperationClasses.Proofs.Conversion.Filling
import OperationClasses.Proofs.Generation.EmittedNames
import OperationClasses.Proofs.Generation.InputTypes

namespace OperationClasses

open Generation

variable {settings : Settings} {s : Schema} {p q : Progress} {pending : List String}
  {start name className : String}

/-! ### Types that fields lead to -/

/-- An input object type has a field of a named type. -/
def Schema.HasInputField (s : Schema) (owner name : String) : Prop :=
  ∃ t fields f, s.find? owner = some t ∧ t.body = .input fields ∧ f ∈ fields ∧ f.type.core = name

/-- Fields of input object types lead from one type to another one, or the two are the same. -/
def Schema.LeadsTo (s : Schema) (start name : String) : Prop := Relation.ReflTransGen s.HasInputField start name

/-- A type that values of variables have a class for: an enum or an input object type. -/
def Schema.HasClass (s : Schema) (name : String) : Prop :=
  ∃ t, s.find? name = some t ∧ ((∃ values, t.body = .enum values) ∨ ∃ fields, t.body = .input fields)

/-- The enum and input object types that fields lead to give class names, no two of them the same, and their fields
    have names with another character than underscores. -/
structure Schema.NamesClosure (s : Schema) (start : String) : Prop where
  named : ∀ {name}, s.LeadsTo start name → s.HasClass name → ∃ className, Naming.typeClassName name = .ok className
  apart : ∀ {name other className}, s.LeadsTo start name → s.HasClass name → s.LeadsTo start other →
    s.HasClass other → Naming.typeClassName name = .ok className → Naming.typeClassName other = .ok className →
    name = other
  fields : ∀ {name t fields}, s.LeadsTo start name → s.find? name = some t → t.body = .input fields →
    ∀ f ∈ fields, ∃ c ∈ f.name.toList, c ≠ '_'

/-! ### Templates -/

/-- The templates that registered scalars are sent with have no hole but the one for the value. -/
def Settings.SendsValues (settings : Settings) : Prop :=
  ∀ name binding, settings.scalars.find? name = some binding → Text.OnlyHole valueHole binding.serialize

/-- So has the template of each scalar that is known by name. -/
theorem onlyHole_of_builtin {binding : Binding} (h : builtinBinding? name = some binding) :
    Text.OnlyHole valueHole binding.serialize := by
  have all : ∀ b ∈ builtinBindings, (Text.pieces b.2.serialize).all (·.isFor valueHole) :=
    List.all_eq_true.1 (by cbv)
  obtain ⟨before, after, split, -⟩ := List.lookup_eq_some_iff.1 h
  exact List.all_eq_true.1 (all (name, binding) (split ▸ List.mem_append_right _ List.mem_cons_self))

/-- So has the template of whatever binding a scalar gets. -/
theorem Settings.Binds.onlyHole {binding : Binding} (binds : settings.Binds name binding)
    (sends : settings.SendsValues) : Text.OnlyHole valueHole binding.serialize := by
  cases binds with
  | known found =>
    unfold knownBinding? at found
    cases registered : settings.scalars.find? name with
    | some own =>
      rw [registered] at found
      cases found
      exact sends name _ registered
    | none =>
      rw [registered] at found
      exact onlyHole_of_builtin found
  | generic => exact List.all_eq_true.1 (by cbv)

/-- And so has the template that values of any type of variables are sent with. -/
theorem ReadAs.onlyHole {core : TypedInput} (reads : ReadAs settings p name core) (sends : settings.SendsValues) :
    Text.OnlyHole valueHole core.serializer := by
  cases reads with
  | scalar _ _ binds => exact binds.onlyHole sends
  | enum | input => exact List.all_eq_true.1 (by cbv)

/-- So the values of a type can be sent through all layers around it. -/
theorem ReadAs.exists_wraps {core : TypedInput} (reads : ReadAs settings p name core) (sends : settings.SendsValues)
    (type : TypeRef) (variableName : String) : ∃ typed, core.Wraps type variableName typed := by
  obtain ⟨text, written⟩ := exists_inputConversion_of_onlyHole (reads.onlyHole sends) type variableName
  exact ⟨⟨_, text, _⟩, rfl, written, rfl⟩

/-! ### Names that are free -/

/-- A class is for a type that fields lead to. -/
def ClassDefinition.WithinReach (s : Schema) (start : String) : ClassDefinition → Prop
  | .enum c => s.LeadsTo start c.graphqlName
  | .input c => s.LeadsTo start c.graphqlName
  | .leaf _ => False
  | .root _ _ => False

/-- A run has made classes for types only that fields lead to. -/
def Progress.Within (s : Schema) (start : String) (p : Progress) : Prop :=
  ∀ c ∈ p.registry.classes, c.WithinReach s start

theorem Progress.Within.add {c : ClassDefinition} {registry : Registry} (within : p.Within s start)
    (reached : c.WithinReach s start) (added : p.registry.add c = .ok registry) :
    ∀ c ∈ registry.classes, c.WithinReach s start := by
  intro x hx
  rcases Registry.mem_classes_of_add added hx with old | rfl
  · exact within x old
  · exact reached

/-- The class name of a type is free as long as no class is for the type. -/
theorem Progress.Within.free (within : p.Within settings.schema start)
    (names : settings.schema.NamesClosure start) (linked : Linked settings.schema pending p)
    (recorded : p.Recorded settings) (reached : settings.schema.LeadsTo start name)
    (hasClass : settings.schema.HasClass name) (named : Naming.typeClassName name = .ok className)
    (noEnum : ∀ c, .enum c ∈ p.registry.classes → c.graphqlName ≠ name)
    (noInput : ∀ c, .input c ∈ p.registry.classes → c.graphqlName ≠ name) : className ∉ p.registry.names := by
  intro taken
  obtain ⟨x, listed, rfl⟩ := List.mem_map.1 taken
  have leads := within x listed
  cases x with
  | enum c =>
    obtain ⟨got, t, values, type, body, -⟩ := recorded.classes _ listed
    exact noEnum c listed (names.apart leads ⟨t, type, Or.inl ⟨values, body⟩⟩ reached hasClass
      (recorded.enums _ _ got) named)
  | input c =>
    obtain ⟨got, t, fields, type, body, -⟩ := linked.classes _ listed
    exact noInput c listed (names.apart leads ⟨t, type, Or.inr ⟨fields, body⟩⟩ reached hasClass
      (recorded.inputs _ _ got) named)
  | leaf | root => exact leads

/-! ### Reading without a failure -/

/-- What is needed to read the types that fields lead to: a valid schema, whose names are names and give different
    classes, and scalars that get a binding and can be sent. -/
structure Settings.CanRead (settings : Settings) (start : String) : Prop where
  valid : settings.schema.Valid
  spelled : settings.schema.Spelled
  lenient : ¬ settings.strict
  sends : settings.SendsValues
  names : settings.schema.NamesClosure start

section Reading

variable (can : settings.CanRead start)
include can

/-- Every scalar gets a binding. -/
theorem exists_binds (name : String) : ∃ binding, settings.Binds name binding := by
  cases known : settings.knownBinding? name with
  | some binding => exact ⟨binding, .known known⟩
  | none => exact ⟨_, .generic known can.lenient⟩

/-- An enum that fields lead to can be read. -/
theorem exists_enumClass {t : TypeDefinition} {values : List EnumValueDefinition}
    (type : settings.schema.find? name = some t) (body : t.body = .enum values)
    (reached : settings.schema.LeadsTo start name) (linked : Linked settings.schema pending p)
    (recorded : p.Recorded settings) (within : p.Within settings.schema start) :
    ∃ className q, Yields (enumClass name values) p className q ∧ q.Within settings.schema start := by
  cases known : p.enumClasses.lookup name with
  | some className => exact ⟨className, p, yields_enumClass_iff.2 (Or.inl ⟨known, rfl⟩), within⟩
  | none =>
    have hasClass : settings.schema.HasClass name := ⟨t, type, Or.inl ⟨values, body⟩⟩
    obtain ⟨className, named⟩ := can.names.named reached hasClass
    have free : className ∉ p.registry.names := by
      refine within.free can.names linked recorded reached hasClass named ?_ ?_
      · rintro c listed rfl
        rw [(recorded.classes _ listed).1] at known
        cases known
      · rintro c listed rfl
        obtain ⟨-, t', fields, type', body', -⟩ := linked.classes _ listed
        rw [type] at type'
        cases type'
        rw [body] at body'
        cases body'
    obtain ⟨registry, added⟩ := Registry.exists_add (c := .enum ⟨className, name, values.map (·.name)⟩) free
    exact ⟨className, _, yields_enumClass_iff.2 (Or.inr ⟨known, named, registry, added, rfl⟩),
      within.add (c := .enum ⟨className, name, _⟩) reached added⟩

mutual

/-- A type of variables that fields lead to can be read. -/
theorem exists_coreInput (available : List String) (name : String) {t : TypeDefinition}
    (type : settings.schema.find? name = some t) (isInput : t.body.isInput)
    (reached : settings.schema.LeadsTo start name) {pending : List String} {p : Progress}
    (linked : Linked settings.schema pending p) (noted : Noted settings.schema available p)
    (recorded : p.Recorded settings) (within : p.Within settings.schema start) :
    ∃ core q, Yields (coreInput settings available name) p core q ∧ q.Within settings.schema start := by
  unfold coreInput
  obtain ⟨_, _, body⟩ := t
  rw [type]
  cases body with
  | scalar =>
    obtain ⟨binding, binds⟩ := exists_binds can name
    refine ⟨⟨binding.signature, binding.serialize, none⟩, { p with imports := p.imports ∪ binding.imports }, ?_, within⟩
    exact yields_bind_iff.2 ⟨binding, _, yields_scalarBinding_iff.2 ⟨binds, rfl⟩, yields_pure_iff.2 ⟨rfl, rfl⟩⟩
  | enum values =>
    obtain ⟨className, q, read, within⟩ := exists_enumClass can type rfl reached linked recorded within
    exact ⟨_, q, yields_bind_iff.2 ⟨className, q, read, yields_pure_iff.2 ⟨rfl, rfl⟩⟩, within⟩
  | input fields =>
    obtain ⟨className, q, read, within⟩ :=
      exists_inputClassOf available name fields type rfl reached linked noted recorded within
    exact ⟨_, q, yields_bind_iff.2 ⟨className, q, read, yields_pure_iff.2 ⟨rfl, rfl⟩⟩, within⟩
  | object | interface | union => cases isInput
termination_by (available.length, 2, 0)

/-- An input object type that fields lead to can be read. -/
theorem exists_inputClassOf (available : List String) (name : String) (fields : List InputDefinition)
    {t : TypeDefinition} (type : settings.schema.find? name = some t) (body : t.body = .input fields)
    (reached : settings.schema.LeadsTo start name) {pending : List String} {p : Progress}
    (linked : Linked settings.schema pending p) (noted : Noted settings.schema available p)
    (recorded : p.Recorded settings) (within : p.Within settings.schema start) :
    ∃ className q, Yields (inputClassOf settings available name fields) p className q
      ∧ q.Within settings.schema start := by
  cases known : p.inputClasses.lookup name with
  | some className => exact ⟨className, p, yields_inputClassOf_iff.2 (Or.inl ⟨known, rfl⟩), within⟩
  | none =>
    have listed : name ∈ available := (noted name (Schema.mem_inputNames type body)).resolve_right <| by
      rintro ⟨_, there⟩
      rw [known] at there
      cases there
    have smaller := length_erase_lt listed
    have hasClass : settings.schema.HasClass name := ⟨t, type, Or.inr ⟨fields, body⟩⟩
    obtain ⟨className, named⟩ := can.names.named reached hasClass
    obtain ⟨keeps, open_, got⟩ := linked.note known named
    have steps : ∀ f ∈ fields, settings.schema.LeadsTo start f.type.core := fun f hf =>
      .tail reached ⟨t, fields, f, type, body, hf, rfl⟩
    have typed : ∀ f ∈ fields, ∃ u, settings.schema.find? f.type.core = some u ∧ u.body.isInput := fun f hf =>
      can.valid.input (Schema.mem_types_of_find? type) (by rwa [TypeDefinition.inputFields, body])
    have spelling : ∀ f ∈ fields, ∃ out,
        Naming.safeIdentifier inputFieldReserved (Naming.underscore f.name) = .ok out := fun f hf =>
      Naming.exists_safeIdentifier_underscore _
        (.of_isName (can.spelled.fields t (Schema.mem_types_of_find? type) fields body f hf))
        (can.names.fields reached type body f hf)
    obtain ⟨xs, r, read, inside⟩ := exists_inputFields (available.erase name) fields steps typed spelling open_
      (noted.erase keeps got) (recorded.note named keeps) within
    obtain ⟨recorded, -⟩ := inputFields_recorded (available.erase name) fields open_ (noted.erase keeps got)
      (recorded.note named keeps) read
    obtain ⟨adds, -⟩ := inputFields_adds (available.erase name) fields open_ (noted.erase keeps got) read
    -- the type stays without a class while its fields are read
    have left := (inputFields_aftermath (available.erase name) fields open_ (noted.erase keeps got)).yields _ _ read
    have unbacked := left.1.unbacked name (linked.unbacked known)
    have free : className ∉ r.registry.names := by
      refine inside.free can.names adds.linked recorded reached hasClass named ?_ unbacked.absent
      rintro c hc rfl
      obtain ⟨-, t', values, type', body', -⟩ := recorded.classes _ hc
      rw [type] at type'
      cases type'
      rw [body] at body'
      cases body'
    obtain ⟨registry, added⟩ := Registry.exists_add (c := .input ⟨className, name, xs⟩) free
    exact ⟨className, _, yields_inputClassOf_iff.2
      (Or.inr ⟨known, named, Or.inr ⟨listed, xs, r, registry, read, added, rfl⟩⟩),
      inside.add (c := .input ⟨className, name, xs⟩) reached added⟩
termination_by (available.length, 1, 0)
decreasing_by exact Prod.Lex.left _ _ smaller

/-- Fields whose types fields lead to can be read. -/
theorem exists_inputFields (available : List String) (fields : List InputDefinition)
    (steps : ∀ f ∈ fields, settings.schema.LeadsTo start f.type.core)
    (typed : ∀ f ∈ fields, ∃ u, settings.schema.find? f.type.core = some u ∧ u.body.isInput)
    (spelling : ∀ f ∈ fields, ∃ out,
      Naming.safeIdentifier inputFieldReserved (Naming.underscore f.name) = .ok out)
    {pending : List String} {p : Progress} (linked : Linked settings.schema pending p)
    (noted : Noted settings.schema available p) (recorded : p.Recorded settings)
    (within : p.Within settings.schema start) :
    ∃ xs q, Yields (inputFields settings available fields) p xs q ∧ q.Within settings.schema start := by
  match fields with
  | [] =>
    rw [inputFields]
    exact ⟨[], p, yields_pure_iff.2 ⟨rfl, rfl⟩, within⟩
  | field :: rest =>
    obtain ⟨step, steps⟩ := List.forall_mem_cons.1 steps
    obtain ⟨⟨t, type, isInput⟩, typed⟩ := List.forall_mem_cons.1 typed
    obtain ⟨⟨name, named⟩, spelling⟩ := List.forall_mem_cons.1 spelling
    obtain ⟨core, r, read, within⟩ :=
      exists_coreInput available field.type.core type isInput step linked noted recorded within
    obtain ⟨recorded, reads⟩ := coreInput_recorded available field.type.core linked noted recorded read
    obtain ⟨adds, -⟩ := coreInput_adds available field.type.core linked noted read
    obtain ⟨wrapped, wraps⟩ := reads.exists_wraps can.sends field.type name
    obtain ⟨others, q, later, within⟩ := exists_inputFields available rest steps typed spelling adds.linked
      (noted.mono adds.keeps) recorded within
    exact ⟨_, q, yields_inputFields_cons_iff.2 ⟨name, core, wrapped, others, r, named, read, wraps, later, rfl⟩,
      within⟩
termination_by (available.length, 3, fields.length)

end

end Reading

/-! ### The classes of a whole run -/

/-- What an argument of a named type depends on: the class of an enum or input object type, and nothing for a
    scalar. -/
inductive Registry.Needs (r : Registry) (s : Schema) (name : String) : Option String → Prop where
  | scalar {t : TypeDefinition} (type : s.find? name = some t) (body : t.body = .scalar) : Registry.Needs r s name none
  | enum {c : EnumClass} (listed : .enum c ∈ r.classes) (of : c.graphqlName = name) :
      Registry.Needs r s name (some c.name)
  | input {c : InputClass} (listed : .input c ∈ r.classes) (of : c.graphqlName = name) :
      Registry.Needs r s name (some c.name)

/-- An argument is for a field: it has the name of the field, and depends on the class of the field's type. -/
structure Registry.ArgumentFor (r : Registry) (s : Schema) (f : InputDefinition) (x : Variable) : Prop where
  name : x.graphqlName = f.name
  needs : r.Needs s f.type.core x.dependency

/-- A run has the classes of the types that fields lead to, and no other: one for each enum with its values, and one
    for each input object type with an argument for each of its fields. When one of the types is asked for again, at
    any time later, its class is named and nothing changes. -/
structure Progress.Closes (settings : Settings) (start : String) (q : Progress) : Prop where
  enums : ∀ {name t values}, settings.schema.LeadsTo start name → settings.schema.find? name = some t →
    t.body = .enum values → ∃ c, .enum c ∈ q.registry.classes ∧ c.graphqlName = name
      ∧ (∀ c', .enum c' ∈ q.registry.classes → c'.graphqlName = name → c' = c)
      ∧ c.values = values.map (·.name)
      ∧ ∀ later, q.Keeps later → Yields (enumClass name values) later c.name later
  inputs : ∀ {name t fields}, settings.schema.LeadsTo start name → settings.schema.find? name = some t →
    t.body = .input fields → ∃ c, .input c ∈ q.registry.classes ∧ c.graphqlName = name
      ∧ (∀ c', .input c' ∈ q.registry.classes → c'.graphqlName = name → c' = c)
      ∧ List.Forall₂ (q.registry.ArgumentFor settings.schema) fields c.arguments
      ∧ ∀ later, q.Keeps later → Yields (inputClass settings name fields) later c.name later
  only : ∀ c ∈ q.registry.classes, ∃ name t, settings.schema.LeadsTo start name ∧ settings.schema.find? name = some t
    ∧ ((∃ own values, c = .enum own ∧ own.graphqlName = name ∧ t.body = .enum values)
      ∨ ∃ own fields, c = .input own ∧ own.graphqlName = name ∧ t.body = .input fields)

/-- Members of a list that are related to those of another one have one each that they are related to. -/
theorem exists_of_forall₂ {α β : Type} {R : α → β → Prop} {xs : List α} {ys : List β} {x : α}
    (related : List.Forall₂ R xs ys) (mem : x ∈ xs) : ∃ y, R x y := by
  induction related with
  | nil => cases mem
  | cons first _ ih =>
    rcases List.mem_cons.1 mem with rfl | mem
    · exact ⟨_, first⟩
    · exact ih mem

section Whole

variable (linked : Linked settings.schema [] q) (recorded : q.Recorded settings)
include linked recorded

/-- The class under the class name of an enum is the one for it. -/
theorem enum_of_lookup (got : q.enumClasses.lookup name = some className) :
    ∃ c, .enum c ∈ q.registry.classes ∧ c.graphqlName = name ∧ c.name = className
      ∧ ∀ c', .enum c' ∈ q.registry.classes → c'.graphqlName = name → c' = c := by
  obtain ⟨-, c, found, of⟩ := linked.enums _ _ got
  refine ⟨c, Registry.mem_classes_of_find? found, of, Registry.name_of_find? found, fun c' listed of' => ?_⟩
  have named := (recorded.classes _ listed).1
  rw [of', got] at named
  have here := Registry.find?_of_mem listed
  rw [show (ClassDefinition.enum c').name = className from (Option.some.inj named).symm, found] at here
  cases here
  rfl

omit recorded in
/-- The class under the class name of an input object type is the one for it. -/
theorem input_of_lookup (got : q.inputClasses.lookup name = some className) :
    ∃ c, .input c ∈ q.registry.classes ∧ c.graphqlName = name ∧ c.name = className
      ∧ ∀ c', .input c' ∈ q.registry.classes → c'.graphqlName = name → c' = c := by
  obtain ⟨-, pending_ | ⟨c, found, of⟩⟩ := linked.inputs _ _ got
  · exact absurd pending_ List.not_mem_nil
  refine ⟨c, Registry.mem_classes_of_find? found, of, Registry.name_of_find? found, fun c' listed of' => ?_⟩
  have named := (linked.classes _ listed).1
  rw [of', got] at named
  have here := Registry.find?_of_mem listed
  rw [show (ClassDefinition.input c').name = className from (Option.some.inj named).symm, found] at here
  cases here
  rfl

/-- What a type of variables is read as depends on its class. -/
theorem ReadAs.needs {core : TypedInput} (reads : ReadAs settings q name core) :
    q.registry.Needs settings.schema name core.dependency := by
  cases reads with
  | scalar type body => exact .scalar type body
  | enum _ _ got =>
    obtain ⟨c, listed, of, rfl, -⟩ := enum_of_lookup linked recorded got
    exact .enum listed of
  | input _ _ got =>
    obtain ⟨c, listed, of, rfl, -⟩ := input_of_lookup linked got
    exact .input listed of

omit linked in
/-- The class of an input object type was made from what its fields are read as. -/
theorem fields_of_input {c : InputClass} {t : TypeDefinition} {fields : List InputDefinition}
    (listed : .input c ∈ q.registry.classes) (type : settings.schema.find? c.graphqlName = some t)
    (body : t.body = .input fields) : List.Forall₂ (FieldReadAs settings q) fields c.arguments := by
  obtain ⟨t', fields', type', body', reads⟩ := recorded.classes _ listed
  rw [type] at type'
  cases type'
  rw [body] at body'
  cases body'
  exact reads

/-- Every type that fields lead to from one that was read was read as well. -/
theorem readAs_of_leadsTo {core : TypedInput} (reads : ReadAs settings q start core)
    (leads : settings.schema.LeadsTo start name) : ∃ core, ReadAs settings q name core := by
  induction leads with
  | refl => exact ⟨core, reads⟩
  | tail _ step ih =>
    obtain ⟨t, fields, f, type, body, hf, rfl⟩ := step
    obtain ⟨core, reads⟩ := ih
    cases reads with
    | scalar type' body' | enum type' body' =>
      rw [type] at type'
      cases type'
      rw [body] at body'
      cases body'
    | input _ _ got =>
      obtain ⟨c, listed, rfl, -, -⟩ := input_of_lookup linked got
      obtain ⟨x, _, core, _, -, reads, -⟩ := exists_of_forall₂ (fields_of_input recorded listed type body) hf
      exact ⟨core, reads⟩

/-- A run in which a type was read, and no type that fields do not lead to, has the classes of the closure. -/
theorem Progress.Within.closes {core : TypedInput} (within : q.Within settings.schema start)
    (reads : ReadAs settings q start core) : q.Closes settings start where
  enums {name t values} leads type body := by
    obtain ⟨core, reads⟩ := readAs_of_leadsTo linked recorded reads leads
    cases reads with
    | scalar type' body' | input type' body' =>
      rw [type] at type'
      cases type'
      rw [body] at body'
      cases body'
    | @enum _ _ className _ _ got =>
      obtain ⟨c, listed, of, rfl, once⟩ := enum_of_lookup linked recorded got
      refine ⟨c, listed, of, once, ?_, fun later keeps => ?_⟩
      · obtain ⟨-, t', values', type', body', holds⟩ := recorded.classes _ listed
        rw [of, type] at type'
        cases type'
        rw [body] at body'
        cases body'
        exact holds
      · exact yields_enumClass_iff.2 (Or.inl ⟨keeps.enums _ _ got, rfl⟩)
  inputs {name t fields} leads type body := by
    obtain ⟨core, reads⟩ := readAs_of_leadsTo linked recorded reads leads
    cases reads with
    | scalar type' body' | enum type' body' =>
      rw [type] at type'
      cases type'
      rw [body] at body'
      cases body'
    | @input _ _ className _ _ got =>
      obtain ⟨c, listed, of, rfl, once⟩ := input_of_lookup linked got
      refine ⟨c, listed, of, once, ?_, fun later keeps => ?_⟩
      · refine (fields_of_input recorded listed (of ▸ type) body).imp fun f x read => ?_
        obtain ⟨_, core, typed, -, reads, wraps, rfl⟩ := read
        refine ⟨rfl, ?_⟩
        rw [TypedInput.variable, wraps.dependency]
        exact reads.needs linked recorded
      · exact yields_inputClassOf_iff.2 (Or.inl ⟨keeps.inputs _ _ got, rfl⟩)
  only c listed := by
    have leads := within c listed
    cases c with
    | enum c =>
      obtain ⟨-, t, values, type, body, -⟩ := recorded.classes _ listed
      exact ⟨_, t, leads, type, Or.inl ⟨c, values, rfl, rfl, body⟩⟩
    | input c =>
      obtain ⟨t, fields, type, body, -⟩ := recorded.classes _ listed
      exact ⟨_, t, leads, type, Or.inr ⟨c, fields, rfl, rfl, body⟩⟩
    | leaf | root => exact leads.elim

end Whole

/-- **Input closure.** In a valid schema, let the enum and input object types that fields lead to from an input object
    type give different class names, and their fields have names with another character than underscores. Let the
    templates of the registered scalars have no hole but the one for the value, and let no scalar need a binding. Then
    the type can be read in a fresh run, also where types lead back to themselves, and that makes one class for each
    of these types and no other. -/
theorem inputClass_closes {t : TypeDefinition} {fields : List InputDefinition} (valid : settings.schema.Valid)
    (spelled : settings.schema.Spelled) (lenient : ¬ settings.strict) (sends : settings.SendsValues)
    (names : settings.schema.NamesClosure start) (type : settings.schema.find? start = some t)
    (body : t.body = .input fields) :
    ∃ className q, Yields (inputClass settings start fields) Progress.start className q
      ∧ q.Closes settings start ∧ ∃ c, .input c ∈ q.registry.classes ∧ c.graphqlName = start ∧ c.name = className := by
  have noted : Noted settings.schema settings.schema.inputNames Progress.start := fun _ isInput => Or.inl isInput
  obtain ⟨className, q, read, within⟩ := exists_inputClassOf ⟨valid, spelled, lenient, sends, names⟩ _ start fields
    type body .refl Linked.start noted .start fun _ absent => absurd absent List.not_mem_nil
  obtain ⟨adds, got⟩ := inputClassOf_adds _ start fields type body Linked.start noted read
  have recorded := inputClassOf_recorded _ start fields type body Linked.start noted .start read
  obtain ⟨c, listed, of, named, -⟩ := input_of_lookup adds.linked got
  exact ⟨className, q, read, within.closes adds.linked recorded (.input type body got), c, listed, of, named⟩

/-! ### Types that contain each other -/

namespace ContainEachOther

def filterFields : List InputDefinition := [⟨"allOf", .list (.named "Filter" true) false, none, []⟩,
  ⟨"range", .named "Range" true, none, []⟩, ⟨"until", .named "Moment" false, none, []⟩]

/-- The type of a field of the other one, which has a field of the first one. -/
def rangeFields : List InputDefinition := [⟨"outside", .named "Filter" false, none, []⟩,
  ⟨"unit", .named "Unit" true, none, []⟩, ⟨"low", .named "Int" false, none, []⟩]

def filter : TypeDefinition := ⟨"Filter", [], .input filterFields⟩

def schema : Schema := ⟨[filter, ⟨"Range", [], .input rangeFields⟩, ⟨"Unit", [], .enum [⟨"METRE", []⟩]⟩,
  ⟨"Unused", [], .input [⟨"low", .named "Int" false, none, []⟩]⟩, ⟨"Moment", [], .scalar⟩, ⟨"Int", [], .scalar⟩,
  ⟨"String", [], .scalar⟩, ⟨"__Schema", [], .object [] []⟩, ⟨"__Type", [], .object [] []⟩], [], none, none, none⟩

/-- Moments are sent as texts. -/
def scalars : ScalarTable := ⟨none, [("Moment", ⟨"datetime", "parse($raw_value)", "text(${value}, '$$')", ∅⟩)]⟩

def setup : Settings := ⟨schema, scalars, false⟩

theorem spelled : schema.Spelled := by
  constructor
  · intro t ht
    fin_cases ht <;> cbv
  · intro t ht fields body
    fin_cases ht <;> cases body <;> (intro f hf; fin_cases hf <;> cbv)
  · intro t ht values body
    fin_cases ht <;> cases body
    intro v hv
    fin_cases hv
    cbv

theorem sends : setup.SendsValues := by
  intro name binding found
  obtain ⟨before, after, split, -⟩ := List.lookup_eq_some_iff.1 found
  have mem : (name, binding) ∈ scalars.bindings := split ▸ List.mem_append_right _ List.mem_cons_self
  obtain ⟨rfl, rfl⟩ := Prod.mk.inj (List.mem_singleton.1 mem)
  exact List.all_eq_true.1 (by cbv)

/-- Every type of the schema gives its own name as a class name. -/
theorem typeClassName_eq {name : String} (hasClass : schema.HasClass name) : Naming.typeClassName name = .ok name := by
  obtain ⟨t, type, body⟩ := hasClass
  obtain rfl := Schema.name_of_find? type
  have mem := Schema.mem_types_of_find? type
  fin_cases mem <;> first | (exfalso; simp at body; done) | cbv

theorem names : schema.NamesClosure "Filter" where
  named _ hasClass := ⟨_, typeClassName_eq hasClass⟩
  apart _ hasClass _ hasClass' named named' := by
    rw [typeClassName_eq hasClass] at named
    rw [typeClassName_eq hasClass'] at named'
    exact Except.ok.inj (named.trans named'.symm)
  fields _ type body f hf := by
    have some_ : ∀ t ∈ schema.types, ∀ f ∈ t.inputFields, f.name.toList.any (· != '_') := by decide
    simpa using some_ _ (Schema.mem_types_of_find? type) f (by rwa [TypeDefinition.inputFields, body])

end ContainEachOther

open ContainEachOther in
/-- Two input object types that contain each other, one with an enum and the other with a scalar of its own. -/
theorem inputClass_closes_contain_each_other :
    schema.Valid ∧ schema.Spelled ∧ ¬ setup.strict ∧ setup.SendsValues ∧ schema.NamesClosure "Filter"
      ∧ ∃ className q, Yields (inputClass setup "Filter" filterFields) Progress.start className q
        ∧ q.Closes setup "Filter"
        ∧ ∃ c, .input c ∈ q.registry.classes ∧ c.graphqlName = "Filter" ∧ c.name = className := by
  have valid : schema.Valid := by decide
  have lenient : ¬ setup.strict := nofun
  exact ⟨valid, spelled, lenient, sends, names, inputClass_closes valid spelled lenient sends names (t := filter) rfl rfl⟩

end OperationClasses
