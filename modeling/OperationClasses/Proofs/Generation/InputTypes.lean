/-
Module: OperationClasses.Proofs.Generation.InputTypes
Purpose: What the types of variables are read as and what their classes hold is determined by the schema and the
  scalars, whatever was read before. So what was read in one run can be read in another one that has come to a part
  of it.
Main exports: ReadAs, Progress.Recorded, coreInput_recorded, Progress.PartOf, coreInput_again,
  declaredVariables_again, generateOperation_recorded
-/
import OperationClasses.Proofs.Generation.Caches

namespace OperationClasses

open Generation

variable {settings : Settings} {p q r : Progress} {pending available : List String} {name className : String}

/-! ### What types are read as -/

/-- What a type of variables is read as, in a run that has its class: how its values are typed and sent. -/
inductive ReadAs (settings : Settings) (p : Progress) (name : String) : TypedInput → Prop where
  | scalar {t : TypeDefinition} {binding : Binding} (type : settings.schema.find? name = some t)
      (body : t.body = .scalar) (binds : settings.Binds name binding)
      (noted : ∀ line ∈ binding.imports, line ∈ p.imports) :
      ReadAs settings p name ⟨binding.signature, binding.serialize, none⟩
  | enum {t : TypeDefinition} {values : List EnumValueDefinition} {className : String}
      (type : settings.schema.find? name = some t) (body : t.body = .enum values)
      (got : p.enumClasses.lookup name = some className) :
      ReadAs settings p name ⟨className, "$value.value", some className⟩
  | input {t : TypeDefinition} {fields : List InputDefinition} {className : String}
      (type : settings.schema.find? name = some t) (body : t.body = .input fields)
      (got : p.inputClasses.lookup name = some className) :
      ReadAs settings p name ⟨className, "$value.serialize()", some className⟩

theorem ReadAs.mono {core : TypedInput} (keeps : p.Keeps q) (reads : ReadAs settings p name core) :
    ReadAs settings q name core := by
  cases reads with
  | scalar type body binds noted => exact .scalar type body binds fun line h => keeps.imports line (noted line h)
  | enum type body got => exact .enum type body (keeps.enums _ _ got)
  | input type body got => exact .input type body (keeps.inputs _ _ got)

/-- What a field of an input object type is read as. -/
def FieldReadAs (settings : Settings) (p : Progress) (field : InputDefinition) (x : Variable) : Prop :=
  ∃ name core typed, Naming.safeIdentifier inputFieldReserved (Naming.underscore field.name) = .ok name
    ∧ ReadAs settings p field.type.core core ∧ core.Wraps field.type name typed ∧ x = typed.variable name field.name

theorem FieldReadAs.mono {fields : List InputDefinition} {xs : List Variable} (keeps : p.Keeps q)
    (reads : List.Forall₂ (FieldReadAs settings p) fields xs) : List.Forall₂ (FieldReadAs settings q) fields xs := by
  refine reads.imp fun field x h => ?_
  obtain ⟨name, core, typed, named, reads, rest⟩ := h
  exact ⟨name, core, typed, named, reads.mono keeps, rest⟩

/-- What a class for an enum or input object type holds is what the type gives: its name, and its values or what its
    fields are read as. -/
def ClassDefinition.Holds (settings : Settings) (p : Progress) : ClassDefinition → Prop
  | .enum c => p.enumClasses.lookup c.graphqlName = some c.name ∧ ∃ t values,
    settings.schema.find? c.graphqlName = some t ∧ t.body = .enum values ∧ c.values = values.map (·.name)
  | .input c => ∃ t fields, settings.schema.find? c.graphqlName = some t ∧ t.body = .input fields
    ∧ List.Forall₂ (FieldReadAs settings p) fields c.arguments
  | _ => True

theorem ClassDefinition.Holds.mono {c : ClassDefinition} (keeps : p.Keeps q) (holds : c.Holds settings p) :
    c.Holds settings q := by
  cases c with
  | enum c => exact ⟨keeps.enums _ _ holds.1, holds.2⟩
  | input c =>
    obtain ⟨t, fields, type, body, reads⟩ := holds
    exact ⟨t, fields, type, body, FieldReadAs.mono keeps reads⟩
  | leaf | root => trivial

/-- The class names that types got are those that they give, and so is what their classes hold. -/
structure Progress.Recorded (settings : Settings) (p : Progress) : Prop where
  enums : ∀ name className, p.enumClasses.lookup name = some className → Naming.typeClassName name = .ok className
  inputs : ∀ name className, p.inputClasses.lookup name = some className → Naming.typeClassName name = .ok className
  classes : ∀ c ∈ p.registry.classes, c.Holds settings p

namespace Progress.Recorded

theorem start : Progress.start.Recorded settings where
  enums _ _ absent := by cases absent
  inputs _ _ absent := by cases absent
  classes _ absent := absurd absent List.not_mem_nil

/-- A step that adds classes and gives no type a class name. -/
theorem of_classes {registry : Registry} {imports : NameSet} (recorded : p.Recorded settings)
    (keeps : p.Keeps { p with registry := registry, imports := imports })
    (new : ∀ c ∈ registry.classes, c ∈ p.registry.classes
      ∨ c.Holds settings { p with registry := registry, imports := imports }) :
    Progress.Recorded settings { p with registry := registry, imports := imports } where
  enums := recorded.enums
  inputs := recorded.inputs
  classes c hc := (new c hc).elim (fun old => (recorded.classes c old).mono keeps) id

/-- The class of an enum is registered. -/
theorem addEnum {t : TypeDefinition} {values : List EnumValueDefinition} {registry : Registry}
    (recorded : p.Recorded settings) (type : settings.schema.find? name = some t) (body : t.body = .enum values)
    (named : Naming.typeClassName name = .ok className)
    (added : p.registry.add (.enum ⟨className, name, values.map (·.name)⟩) = .ok registry)
    (keeps : p.Keeps { p with registry := registry, enumClasses := setKey name className p.enumClasses }) :
    Progress.Recorded settings
      { p with registry := registry, enumClasses := setKey name className p.enumClasses } where
  enums other otherClass got := by
    rw [lookup_setKey] at got
    split at got
    · rename_i same
      cases got
      rw [same, named]
    · exact recorded.enums other otherClass got
  inputs := recorded.inputs
  classes c hc := by
    rcases Registry.mem_classes_of_add added hc with old | rfl
    · exact (recorded.classes c old).mono keeps
    · exact ⟨by simp [lookup_setKey], t, values, type, body, rfl⟩

/-- An input object type gets its class name. -/
theorem note (recorded : p.Recorded settings) (named : Naming.typeClassName name = .ok className)
    (keeps : p.Keeps { p with inputClasses := setKey name className p.inputClasses }) :
    Progress.Recorded settings { p with inputClasses := setKey name className p.inputClasses } where
  enums := recorded.enums
  inputs other otherClass got := by
    rw [lookup_setKey] at got
    split at got
    · rename_i same
      cases got
      rw [same, named]
    · exact recorded.inputs other otherClass got
  classes c hc := (recorded.classes c hc).mono keeps

end Progress.Recorded

theorem scalarBinding_recorded {binding : Binding} (recorded : p.Recorded settings)
    (h : Yields (scalarBinding settings name) p binding q) : q.Recorded settings := by
  have keeps := scalarBinding_keeps h
  obtain ⟨-, rfl⟩ := yields_scalarBinding_iff.1 h
  exact recorded.of_classes keeps fun c hc => Or.inl hc

theorem enumClass_recorded {t : TypeDefinition} {values : List EnumValueDefinition}
    (type : settings.schema.find? name = some t) (body : t.body = .enum values) (recorded : p.Recorded settings)
    (h : Yields (enumClass name values) p className q) : q.Recorded settings := by
  have keeps := enumClass_keeps h
  rcases yields_enumClass_iff.1 h with ⟨-, rfl⟩ | ⟨-, named, registry, added, rfl⟩
  · exact recorded
  · exact recorded.addEnum type body named added keeps

mutual

/-- What a type of variables was read as is what it is read as from then on. -/
theorem coreInput_recorded (available : List String) (name : String) {pending : List String} {p q : Progress}
    {core : TypedInput} (linked : Linked settings.schema pending p) (noted : Noted settings.schema available p)
    (recorded : p.Recorded settings) (h : Yields (coreInput settings available name) p core q) :
    q.Recorded settings ∧ ReadAs settings q name core := by
  unfold coreInput at h
  split at h
  · rename_i type
    simp only [yields_bind_iff, yields_pure_iff] at h
    obtain ⟨binding, _, bound, rfl, rfl⟩ := h
    refine ⟨scalarBinding_recorded recorded bound, ?_⟩
    obtain ⟨binds, rfl⟩ := yields_scalarBinding_iff.1 bound
    exact .scalar type rfl binds fun line h => NameSet.mem_union.2 (Or.inr h)
  · rename_i type
    simp only [yields_bind_iff, yields_pure_iff] at h
    obtain ⟨_, _, read, rfl, rfl⟩ := h
    exact ⟨enumClass_recorded type rfl recorded read, .enum type rfl (enumClass_adds linked read).2⟩
  · rename_i type
    simp only [yields_bind_iff, yields_pure_iff] at h
    obtain ⟨_, _, read, rfl, rfl⟩ := h
    exact ⟨inputClassOf_recorded available name _ type rfl linked noted recorded read,
      .input type rfl (inputClassOf_adds available name _ type rfl linked noted read).2⟩
  · exact absurd h not_yields_throw
  · exact absurd h not_yields_throw
termination_by (available.length, 2, 0)

theorem inputClassOf_recorded (available : List String) (name : String) (fields : List InputDefinition)
    {t : TypeDefinition} (type : settings.schema.find? name = some t) (body : t.body = .input fields)
    {pending : List String} {p q : Progress} {className : String}
    (linked : Linked settings.schema pending p) (noted : Noted settings.schema available p)
    (recorded : p.Recorded settings) (h : Yields (inputClassOf settings available name fields) p className q) :
    q.Recorded settings := by
  rcases yields_inputClassOf_iff.1 h with ⟨-, rfl⟩ | ⟨unknown, named, ⟨-, rfl⟩ |
    ⟨listed, xs, between, registry, read, added, rfl⟩⟩
  · exact recorded
  · exact recorded.note named (linked.note unknown named).1
  · have smaller := length_erase_lt listed
    obtain ⟨keeps, open_, got⟩ := linked.note unknown named
    obtain ⟨inside, reads⟩ := inputFields_recorded (available.erase name) fields open_ (noted.erase keeps got)
      (recorded.note named keeps) read
    have kept : between.Keeps { between with registry := registry } := .of_registry (.of_add added)
    refine inside.of_classes kept fun c hc => ?_
    refine (Registry.mem_classes_of_add added hc).imp_right ?_
    rintro rfl
    exact ⟨t, fields, type, body, FieldReadAs.mono kept reads⟩
termination_by (available.length, 1, 0)
decreasing_by exact Prod.Lex.left _ _ smaller

theorem inputFields_recorded (available : List String) (fields : List InputDefinition) {pending : List String}
    {p q : Progress} {xs : List Variable} (linked : Linked settings.schema pending p)
    (noted : Noted settings.schema available p) (recorded : p.Recorded settings)
    (h : Yields (inputFields settings available fields) p xs q) :
    q.Recorded settings ∧ List.Forall₂ (FieldReadAs settings q) fields xs := by
  match fields with
  | [] =>
    rw [inputFields, yields_pure_iff] at h
    obtain ⟨rfl, rfl⟩ := h
    exact ⟨recorded, .nil⟩
  | field :: rest =>
    obtain ⟨name, core, typed, others, between, named, read, wraps, later, rfl⟩ := yields_inputFields_cons_iff.1 h
    obtain ⟨first, -⟩ := coreInput_adds available field.type.core linked noted read
    obtain ⟨recorded, reads⟩ := coreInput_recorded available field.type.core linked noted recorded read
    obtain ⟨after, -⟩ := inputFields_adds available rest first.linked (noted.mono first.keeps) later
    obtain ⟨recorded, others⟩ := inputFields_recorded available rest first.linked (noted.mono first.keeps) recorded
      later
    exact ⟨recorded, .cons ⟨name, core, typed, named, reads.mono after.keeps, wraps, rfl⟩ others⟩
termination_by (available.length, 3, fields.length)

end

/-! ### Reading again -/

/-- What a run has come to is part of what another one has: its classes for enums and input object types are those
    of the other run, its other classes are other classes there, and its imports are imports there. -/
structure Progress.PartOf (p whole : Progress) : Prop where
  classes : ∀ name c, p.registry.find? name = some c → ∃ c', whole.registry.find? name = some c'
    ∧ (c.role = .support ∨ c'.role = .support → c = c')
  imports : ∀ line ∈ p.imports, line ∈ whole.imports

/-- A class that is found after one was added was there before, or is that one. -/
theorem Registry.find?_of_add_eq {r r' : Registry} {c x : ClassDefinition} (added : r.add c = .ok r')
    (found : r'.find? name = some x) : r.find? name = some x ∨ x = c := by
  obtain rfl := name_of_find? found
  exact (mem_classes_of_add added (mem_classes_of_find? found)).imp_left find?_of_mem

namespace Progress.PartOf

variable {whole : Progress}

theorem start : Progress.start.PartOf whole where
  classes _ _ absent := by cases absent
  imports _ absent := absurd absent NameSet.not_mem_empty

/-- The classes under some names change to some that the whole run may have there. -/
theorem of_registry {registry : Registry} (part : p.PartOf whole)
    (new : ∀ name c, registry.find? name = some c → p.registry.find? name = some c
      ∨ ∃ c', whole.registry.find? name = some c' ∧ (c.role = .support ∨ c'.role = .support → c = c')) :
    Progress.PartOf { p with registry := registry } whole where
  classes name c found := (new name c found).elim (part.classes name c) id
  imports := part.imports

/-- A class that the whole run has is added. -/
theorem add {c c' : ClassDefinition} {registry : Registry} (part : p.PartOf whole)
    (added : p.registry.add c = .ok registry) (there : whole.registry.find? c.name = some c')
    (same : c.role = .support ∨ c'.role = .support → c = c') :
    Progress.PartOf { p with registry := registry } whole := by
  refine part.of_registry fun name x found => ?_
  refine (Registry.find?_of_add_eq added found).imp_right ?_
  rintro rfl
  obtain rfl := Registry.name_of_find? found
  exact ⟨c', there, same⟩

/-- A class for an enum or input object type has a free name, if the type has no class yet. -/
theorem free {c : ClassDefinition} (part : p.PartOf whole) (there : whole.registry.find? className = some c)
    (support : c.role = .support) (absent : c ∉ p.registry.classes) : className ∉ p.registry.names := by
  intro taken
  obtain ⟨x, found⟩ := Registry.mem_names_iff.1 taken
  obtain ⟨c', there', same⟩ := part.classes className x found
  rw [there] at there'
  cases there'
  exact absent (same (Or.inr support) ▸ Registry.mem_classes_of_find? found)

end Progress.PartOf

/-- An enum that was read in one run can be read in another one. -/
theorem enumClass_again {whole : Progress} (final : Linked settings.schema [] whole)
    (full : whole.Recorded settings) {t : TypeDefinition} {values : List EnumValueDefinition}
    (type : settings.schema.find? name = some t) (body : t.body = .enum values)
    (got : whole.enumClasses.lookup name = some className) (recorded : p.Recorded settings)
    (part : p.PartOf whole) :
    ∃ q, Yields (enumClass name values) p className q ∧ q.PartOf whole := by
  have named := full.enums _ _ got
  cases known : p.enumClasses.lookup name with
  | some other =>
    obtain rfl : other = className := by
      have := recorded.enums _ _ known
      rw [named] at this
      exact (Except.ok.inj this).symm
    exact ⟨p, yields_enumClass_iff.2 (Or.inl ⟨known, rfl⟩), part⟩
  | none =>
    obtain ⟨-, c, found, rfl⟩ := final.enums _ _ got
    obtain ⟨-, t', values', type', body', holds⟩ := full.classes _ (Registry.mem_classes_of_find? found)
    rw [type] at type'
    cases type'
    rw [body] at body'
    cases body'
    have sameName : c.name = className := Registry.name_of_find? found
    have same : c = ⟨className, c.graphqlName, values.map (·.name)⟩ := by rw [← sameName, ← holds]
    have absent : .enum c ∉ p.registry.classes := by
      intro listed
      rw [(recorded.classes _ listed).1] at known
      cases known
    rw [same] at found absent
    obtain ⟨registry, added⟩ := Registry.exists_add
      (c := .enum ⟨className, c.graphqlName, values.map (·.name)⟩) (part.free found rfl absent)
    exact ⟨_, yields_enumClass_iff.2 (Or.inr ⟨known, named, registry, added, rfl⟩),
      (part.add added found fun _ => rfl).classes, part.imports⟩

mutual

/-- A type of variables that was read in one run can be read as the same in another one. -/
theorem coreInput_again {whole : Progress} (final : Linked settings.schema [] whole)
    (full : whole.Recorded settings) (available : List String) (name : String) {pending : List String}
    {p : Progress} {core : TypedInput} (reads : ReadAs settings whole name core)
    (linked : Linked settings.schema pending p) (noted : Noted settings.schema available p)
    (recorded : p.Recorded settings) (part : p.PartOf whole) :
    ∃ q, Yields (coreInput settings available name) p core q ∧ q.PartOf whole := by
  unfold coreInput
  cases reads with
  | @scalar t binding type body binds lines =>
    obtain ⟨_, _, _⟩ := t
    subst body
    rw [type]
    refine ⟨{ p with imports := p.imports ∪ binding.imports }, ?_, part.classes, fun line h => ?_⟩
    · exact yields_bind_iff.2 ⟨binding, _, yields_scalarBinding_iff.2 ⟨binds, rfl⟩, yields_pure_iff.2 ⟨rfl, rfl⟩⟩
    · exact (NameSet.mem_union.1 h).elim (part.imports line) (lines line)
  | @enum t values className type body got =>
    obtain ⟨q, read, part⟩ := enumClass_again final full type body got recorded part
    obtain ⟨_, _, _⟩ := t
    subst body
    rw [type]
    exact ⟨q, yields_bind_iff.2 ⟨className, q, read, yields_pure_iff.2 ⟨rfl, rfl⟩⟩, part⟩
  | @input t fields className type body got =>
    obtain ⟨q, read, part⟩ :=
      inputClassOf_again final full available name fields type body got linked noted recorded part
    obtain ⟨_, _, _⟩ := t
    subst body
    rw [type]
    exact ⟨q, yields_bind_iff.2 ⟨className, q, read, yields_pure_iff.2 ⟨rfl, rfl⟩⟩, part⟩
termination_by (available.length, 2, 0)

theorem inputClassOf_again {whole : Progress} (final : Linked settings.schema [] whole)
    (full : whole.Recorded settings) (available : List String) (name : String) (fields : List InputDefinition)
    {t : TypeDefinition} (type : settings.schema.find? name = some t) (body : t.body = .input fields)
    {pending : List String} {p : Progress} {className : String}
    (got : whole.inputClasses.lookup name = some className) (linked : Linked settings.schema pending p)
    (noted : Noted settings.schema available p) (recorded : p.Recorded settings) (part : p.PartOf whole) :
    ∃ q, Yields (inputClassOf settings available name fields) p className q ∧ q.PartOf whole := by
  have named := full.inputs _ _ got
  cases known : p.inputClasses.lookup name with
  | some other =>
    obtain rfl : other = className := by
      have := recorded.inputs _ _ known
      rw [named] at this
      exact (Except.ok.inj this).symm
    exact ⟨p, yields_inputClassOf_iff.2 (Or.inl ⟨known, rfl⟩), part⟩
  | none =>
    have listed : name ∈ available := (noted name (Schema.mem_inputNames type body)).resolve_right <| by
      rintro ⟨_, there⟩
      rw [known] at there
      cases there
    have smaller := length_erase_lt listed
    obtain ⟨-, pending_ | ⟨c, found, of⟩⟩ := final.inputs _ _ got
    · exact absurd pending_ List.not_mem_nil
    obtain ⟨t', fields', type', body', reads⟩ := full.classes _ (Registry.mem_classes_of_find? found)
    rw [of, type] at type'
    cases type'
    rw [body] at body'
    cases body'
    obtain ⟨keeps, open_, got'⟩ := linked.note known named
    obtain ⟨q, read, inside⟩ := inputFields_again final full (available.erase name) fields reads open_
      (noted.erase keeps got') (recorded.note named keeps) ⟨part.classes, part.imports⟩
    -- the type stays without a class while its fields are read
    have left := (inputFields_aftermath (available.erase name) fields open_ (noted.erase keeps got')).yields _ _ read
    have unbacked := left.1.unbacked name (linked.unbacked known)
    have same : c = ⟨className, name, c.arguments⟩ := by
      rw [← of, ← Registry.name_of_find? found]
      rfl
    rw [same] at found
    obtain ⟨registry, added⟩ := Registry.exists_add (c := .input ⟨className, name, c.arguments⟩)
      (inside.free found rfl fun listed => unbacked.absent _ listed rfl)
    exact ⟨_, yields_inputClassOf_iff.2 (Or.inr ⟨known, named, Or.inr ⟨listed, _, q, registry, read, added, rfl⟩⟩),
      inside.add added found fun _ => rfl⟩
termination_by (available.length, 1, 0)
decreasing_by exact Prod.Lex.left _ _ smaller

theorem inputFields_again {whole : Progress} (final : Linked settings.schema [] whole)
    (full : whole.Recorded settings) (available : List String) (fields : List InputDefinition)
    {pending : List String} {p : Progress} {xs : List Variable}
    (reads : List.Forall₂ (FieldReadAs settings whole) fields xs) (linked : Linked settings.schema pending p)
    (noted : Noted settings.schema available p)
    (recorded : p.Recorded settings) (part : p.PartOf whole) :
    ∃ q, Yields (inputFields settings available fields) p xs q ∧ q.PartOf whole := by
  match fields, xs, reads with
  | [], [], _ =>
    rw [inputFields]
    exact ⟨p, yields_pure_iff.2 ⟨rfl, rfl⟩, part⟩
  | field :: rest, _ :: others, .cons ⟨name, core, typed, named, reads, wraps, rfl⟩ later =>
    obtain ⟨r, read, part⟩ :=
      coreInput_again final full available field.type.core reads linked noted recorded part
    obtain ⟨first, -⟩ := coreInput_adds available field.type.core linked noted read
    obtain ⟨recorded, -⟩ := coreInput_recorded available field.type.core linked noted recorded read
    obtain ⟨q, after, part⟩ :=
      inputFields_again final full available rest later first.linked (noted.mono first.keeps) recorded part
    exact ⟨q, yields_inputFields_cons_iff.2 ⟨name, core, typed, others, r, named, read, wraps, after, rfl⟩, part⟩
termination_by (available.length, 3, fields.length)

end

/-! ### Variables -/

/-- What a variable that an operation declares is read as. -/
def DeclaredAs (settings : Settings) (p : Progress) (v : VariableDeclaration) (x : Variable) : Prop :=
  ∃ t name core typed, settings.schema.core? v.type = some t
    ∧ Naming.safeIdentifier variableReserved (Naming.underscore v.name) = .ok name
    ∧ ReadAs settings p v.type.core core ∧ core.Wraps v.type name typed ∧ x = typed.variable name v.name

theorem DeclaredAs.mono {v : VariableDeclaration} {x : Variable} (keeps : p.Keeps q)
    (reads : DeclaredAs settings p v x) : DeclaredAs settings q v x := by
  obtain ⟨t, name, core, typed, type, named, reads, rest⟩ := reads
  exact ⟨t, name, core, typed, type, named, reads.mono keeps, rest⟩

/-- What the variables of an operation were read as is what they are read as from then on. -/
theorem declaredVariables_recorded {vs : List VariableDeclaration} {xs : List Variable}
    (linked : Linked settings.schema pending p) (recorded : p.Recorded settings)
    (h : Yields (vs.mapM (declaredVariable settings)) p xs q) :
    q.Recorded settings ∧ List.Forall₂ (DeclaredAs settings q) vs xs := by
  induction vs generalizing p xs with
  | nil =>
    obtain ⟨rfl, rfl⟩ := yields_pure_iff.1 h
    exact ⟨recorded, .nil⟩
  | cons v rest ih =>
    obtain ⟨x, r, others, first, later, rfl⟩ := yields_mapM_cons_iff.1 h
    obtain ⟨t, type, first⟩ := yields_declaredVariable_iff.1 first
    obtain ⟨adds, -⟩ := variableDefinition_adds linked first
    obtain ⟨after, -⟩ := declaredVariables_adds adds.linked later
    obtain ⟨name, core, typed, named, read, wraps, rfl⟩ := yields_variableDefinition_iff.1 first
    obtain ⟨recorded, reads⟩ := coreInput_recorded _ _ linked (fun _ isInput => Or.inl isInput) recorded read
    obtain ⟨recorded, others⟩ := ih adds.linked recorded later
    exact ⟨recorded, .cons ⟨t, name, core, typed, type, named, reads.mono after.keeps, wraps, rfl⟩ others⟩

/-- The variables of an operation that were read in one run can be read as the same in another one. -/
theorem declaredVariables_again {whole : Progress} (final : Linked settings.schema [] whole)
    (full : whole.Recorded settings) {vs : List VariableDeclaration} {xs : List Variable}
    (reads : List.Forall₂ (DeclaredAs settings whole) vs xs) (linked : Linked settings.schema pending p)
    (recorded : p.Recorded settings) (part : p.PartOf whole) :
    ∃ q, Yields (vs.mapM (declaredVariable settings)) p xs q ∧ q.PartOf whole := by
  induction reads generalizing p with
  | nil => exact ⟨p, yields_pure_iff.2 ⟨rfl, rfl⟩, part⟩
  | @cons v x vs xs first _ ih =>
    obtain ⟨t, name, core, typed, type, named, reads, wraps, rfl⟩ := first
    have noted : Noted settings.schema settings.schema.inputNames p := fun _ isInput => Or.inl isInput
    obtain ⟨r, read, part⟩ := coreInput_again final full _ _ reads linked noted recorded part
    obtain ⟨adds, -⟩ := coreInput_adds _ _ linked noted read
    obtain ⟨recorded, -⟩ := coreInput_recorded _ _ linked noted recorded read
    obtain ⟨q, later, part⟩ := ih adds.linked recorded part
    refine ⟨q, yields_mapM_cons_iff.2 ⟨_, r, xs, ?_, later, rfl⟩, part⟩
    refine yields_declaredVariable_iff.2 ⟨t, type, ?_⟩
    exact yields_variableDefinition_iff.2 ⟨name, core, typed, named, read, wraps, rfl⟩

/-! ### Results -/

theorem coreOutput_recorded {wanted : String} {o : Occurrence} {t : TypeDefinition} {core : TypedOutput}
    (type : settings.schema.core? o.type = some t) (simple : ¬ t.body.isComposite) (recorded : p.Recorded settings)
    (h : Yields (coreOutput settings wanted o) p core q) : q.Recorded settings := by
  rcases (yields_coreOutput_iff type simple).1 h with ⟨-, binding, bound, -⟩ | ⟨values, className, body, read, -⟩
  · exact scalarBinding_recorded recorded bound
  · exact enumClass_recorded (Schema.find?_name type) body recorded read

theorem registerLeaf_recorded {name : String} {type : TypeDefinition} {existing : Option ClassDefinition}
    {methods : List Method} {dependencies : List String} {u : Unit} (recorded : p.Recorded settings)
    (h : Yields (registerLeaf settings name type existing methods dependencies) p u q) : q.Recorded settings := by
  have keeps := registerLeaf_keeps h
  have new : ∀ x ∈ q.registry.classes, x ∈ p.registry.classes ∨ x.Holds settings q := by
    intro x hx
    refine (mem_classes_of_registerLeaf h hx).imp_right ?_
    rintro (⟨c, all, -, -, -, rfl⟩ | ⟨types, rfl⟩)
    · trivial
    · trivial
  rcases yields_registerLeaf_iff.1 h with ⟨_, _, _, _, _, rfl⟩ | ⟨_, _, _, _, _, rfl⟩ <;>
    exact recorded.of_classes keeps new

/-- Reading occurrences changes nothing about what classes of types hold. -/
theorem Builds.recorded {found all : Accessors} {os : List Occurrence}
    (h : Builds settings className found os p all q) (recorded : p.Recorded settings) : q.Recorded settings := by
  induction h with
  | nil => exact recorded
  | typename _ _ _ _ _ ih => exact ih recorded
  | value _ _ _ type simple reads _ _ _ _ ih => exact ih (coreOutput_recorded type simple recorded reads)
  | object _ _ _ _ _ _ _ _ _ registers _ _ _ inside others =>
    exact others (registerLeaf_recorded (inside recorded) registers)

/-- Nor does generating an operation. -/
theorem generateOperation_recorded {table : List Fragment} {o : Operation} {x : ClassDefinition}
    (linked : Linked settings.schema [] p) (recorded : p.Recorded settings)
    (h : Yields (generateOperation settings table o) p x q) : q.Recorded settings := by
  obtain ⟨c, details, all, os, owner, between, last, registry, generates, -, rfl⟩ := generateOperation_generates h
  obtain ⟨recorded, -⟩ := declaredVariables_recorded linked recorded generates.declares
  refine (generates.builds.recorded recorded).of_classes (.of_registry (.of_add generates.added)) fun x hx => ?_
  refine (Registry.mem_classes_of_add generates.added hx).imp_right ?_
  rintro rfl
  trivial

end OperationClasses
