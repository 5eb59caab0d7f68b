/-
Module: OperationClasses.Proofs.Generation.Linking
Purpose: Classes refer to classes that are there or being generated, and every class that a step adds is reached from
  what the step gives.
Main exports: Progress.Keeps, Registry.Reaches, Links, Linked, Adds, coreInput_adds, Builds.adds, Generates.adds,
  Generates.rooted
-/
import Mathlib.Logic.Relation
import OperationClasses.Proofs.Generation.Retention
import OperationClasses.Proofs.Validation.ValidSchema

namespace OperationClasses

open Generation

variable {settings : Settings} {s : Schema} {p q r : Progress} {pending : List String} {name className : String}

/-! ### What stays -/

/-- Classes stay with all that they have, types keep the class names that they have got, and imports stay. -/
structure Progress.Keeps (p q : Progress) : Prop where
  registry : p.registry.Keeps q.registry
  imports : ∀ line ∈ p.imports, line ∈ q.imports
  enums : ∀ name className, p.enumClasses.lookup name = some className →
    q.enumClasses.lookup name = some className
  inputs : ∀ name className, p.inputClasses.lookup name = some className →
    q.inputClasses.lookup name = some className

namespace Progress.Keeps

theorem refl : p.Keeps p := ⟨.refl, fun _ h => h, fun _ _ h => h, fun _ _ h => h⟩

theorem trans (h : p.Keeps q) (h' : q.Keeps r) : p.Keeps r where
  registry := h.registry.trans h'.registry
  imports line noted := h'.imports line (h.imports line noted)
  enums name className found := h'.enums name className (h.enums name className found)
  inputs name className found := h'.inputs name className (h.inputs name className found)

/-- A step that only changes the classes. -/
theorem of_registry {registry : Registry} (h : p.registry.Keeps registry) :
    p.Keeps { p with registry := registry } := ⟨h, fun _ h => h, fun _ _ h => h, fun _ _ h => h⟩

end Progress.Keeps

namespace Registry

/-- A class lists a name among those that it depends on. -/
def DependsOn (r : Registry) (owner dependency : String) : Prop :=
  ∃ c, r.find? owner = some c ∧ dependency ∈ c.dependencies

/-- A name is reached from another one through dependencies. -/
def Reaches (r : Registry) (a b : String) : Prop := Relation.ReflTransGen r.DependsOn a b

theorem Keeps.reaches {r r' : Registry} {a b : String} (h : r.Keeps r') (reaches : r.Reaches a b) :
    r'.Reaches a b := by
  refine Relation.ReflTransGen.mono (fun a b depends => ?_) a b reaches
  obtain ⟨c, found, mem⟩ := depends
  obtain ⟨c', found', extends_⟩ := h a c found
  exact ⟨c', found', extends_.dependencies b mem⟩

/-- A name is that of a class that values of a result class may have: an enum, or a result class with a longer
    name. -/
def ValueClass (r : Registry) (owner d : String) : Prop :=
  (∃ c, r.find? d = some (.enum c)) ∨ ∃ c, r.find? d = some (.leaf c) ∧ owner.length < d.length

theorem Keeps.enum {r r' : Registry} {c : EnumClass} (h : r.Keeps r') (found : r.find? name = some (.enum c)) :
    r'.find? name = some (.enum c) := by
  obtain ⟨c', found', extends_⟩ := h _ _ found
  cases extends_
  exact found'

theorem Keeps.input {r r' : Registry} {c : InputClass} (h : r.Keeps r')
    (found : r.find? name = some (.input c)) : r'.find? name = some (.input c) := by
  obtain ⟨c', found', extends_⟩ := h _ _ found
  cases extends_
  exact found'

theorem Keeps.valueClass {r r' : Registry} {owner d : String} (h : r.Keeps r') (value : r.ValueClass owner d) :
    r'.ValueClass owner d := by
  rcases value with ⟨c, found⟩ | ⟨c, found, longer⟩
  · exact Or.inl ⟨c, h.enum found⟩
  · obtain ⟨c', found', extends_⟩ := h _ _ found
    cases extends_ with
    | refl => exact Or.inr ⟨c, found', longer⟩
    | @leaf _ c' => exact Or.inr ⟨c', found', longer⟩

end Registry

/-! ### Links -/

/-- The class that the values of a type of variables refer to: none for a scalar, and the one that an enum or
    an input object type got. -/
inductive Links (s : Schema) (p : Progress) (name : String) : Option String → Prop where
  | scalar {t : TypeDefinition} (type : s.find? name = some t) (body : t.body = .scalar) : Links s p name none
  | enum {t : TypeDefinition} {values : List EnumValueDefinition} {className : String}
      (type : s.find? name = some t) (body : t.body = .enum values)
      (got : p.enumClasses.lookup name = some className) : Links s p name (some className)
  | input {t : TypeDefinition} {fields : List InputDefinition} {className : String}
      (type : s.find? name = some t) (body : t.body = .input fields)
      (got : p.inputClasses.lookup name = some className) : Links s p name (some className)

theorem Links.mono {dependency : Option String} (h : p.Keeps q) (links : Links s p name dependency) :
    Links s q name dependency := by
  cases links with
  | scalar type body => exact .scalar type body
  | enum type body got => exact .enum type body (h.enums _ _ got)
  | input type body got => exact .input type body (h.inputs _ _ got)

/-- The variables of an input class link to the classes of the types of its fields. -/
structure FieldLinks (s : Schema) (p : Progress) (fields : List InputDefinition) (xs : List Variable) :
    Prop where
  ofField : ∀ f ∈ fields, ∃ x ∈ xs, Links s p f.type.core x.dependency
  ofVariable : ∀ x ∈ xs, ∃ f ∈ fields, Links s p f.type.core x.dependency

namespace FieldLinks

variable {fields : List InputDefinition} {xs : List Variable}

theorem mono (h : p.Keeps q) (links : FieldLinks s p fields xs) : FieldLinks s q fields xs where
  ofField f hf := by
    obtain ⟨x, hx, link⟩ := links.ofField f hf
    exact ⟨x, hx, link.mono h⟩
  ofVariable x hx := by
    obtain ⟨f, hf, link⟩ := links.ofVariable x hx
    exact ⟨f, hf, link.mono h⟩

theorem nil : FieldLinks s p [] [] :=
  ⟨fun _ absent => absurd absent List.not_mem_nil, fun _ absent => absurd absent List.not_mem_nil⟩

theorem cons {f : InputDefinition} {x : Variable} (link : Links s p f.type.core x.dependency)
    (links : FieldLinks s p fields xs) : FieldLinks s p (f :: fields) (x :: xs) where
  ofField f' hf := by
    rcases List.mem_cons.1 hf with rfl | hf
    · exact ⟨x, List.mem_cons_self, link⟩
    · obtain ⟨x', hx, link⟩ := links.ofField f' hf
      exact ⟨x', List.mem_cons_of_mem _ hx, link⟩
  ofVariable x' hx := by
    rcases List.mem_cons.1 hx with rfl | hx
    · exact ⟨f, List.mem_cons_self, link⟩
    · obtain ⟨f', hf, link⟩ := links.ofVariable x' hx
      exact ⟨f', List.mem_cons_of_mem _ hf, link⟩

end FieldLinks

/-- What a class refers to: an input class to the classes of the types of its fields, a result class to
    classes of values, and the class of an operation to both kinds. -/
def ClassLinked (s : Schema) (p : Progress) : ClassDefinition → Prop
  | .enum _ => True
  | .input c => p.inputClasses.lookup c.graphqlName = some c.name ∧ ∃ t fields,
    s.find? c.graphqlName = some t ∧ t.body = .input fields
      ∧ FieldLinks s p fields c.arguments
  | .leaf c => ∀ d ∈ c.dependencies, p.registry.ValueClass c.name d
  | .root c details => (∀ d ∈ c.dependencies, p.registry.ValueClass c.name d)
    ∧ ∀ x ∈ details.parameters, ∃ name, Links s p name x.dependency

theorem ClassLinked.mono {c : ClassDefinition} (h : p.Keeps q) (linked : ClassLinked s p c) :
    ClassLinked s q c := by
  cases c with
  | enum => trivial
  | input c =>
    obtain ⟨got, t, fields, type, body, links⟩ := linked
    exact ⟨h.inputs _ _ got, t, fields, type, body, links.mono h⟩
  | leaf c => exact fun d hd => h.registry.valueClass (linked d hd)
  | root c details =>
    obtain ⟨values, parameters⟩ := linked
    refine ⟨fun d hd => h.registry.valueClass (values d hd), fun x hx => ?_⟩
    obtain ⟨name, links⟩ := parameters x hx
    exact ⟨name, links.mono h⟩

/-- Class names are those of classes, except for input object types that are being read, and classes refer to
    classes. -/
structure Linked (s : Schema) (pending : List String) (p : Progress) : Prop where
  enums : ∀ name className, p.enumClasses.lookup name = some className →
    className ≠ "" ∧ ∃ c, p.registry.find? className = some (.enum c) ∧ c.graphqlName = name
  inputs : ∀ name className, p.inputClasses.lookup name = some className →
    className ≠ "" ∧ (name ∈ pending ∨ ∃ c, p.registry.find? className = some (.input c) ∧ c.graphqlName = name)
  classes : ∀ c ∈ p.registry.classes, ClassLinked s p c

namespace Linked

theorem start : Linked s [] Progress.start where
  enums _ _ absent := by cases absent
  inputs _ _ absent := by cases absent
  classes _ absent := absurd absent List.not_mem_nil

/-- A step that adds classes and gives no type a class name. -/
theorem of_classes {registry : Registry} (linked : Linked s pending p) (keeps : p.registry.Keeps registry)
    (new : ∀ c ∈ registry.classes, c ∈ p.registry.classes
      ∨ ClassLinked s { p with registry := registry } c) :
    Linked s pending { p with registry := registry } where
  enums name className got := by
    obtain ⟨some_, c, found, of⟩ := linked.enums name className got
    exact ⟨some_, c, keeps.enum found, of⟩
  inputs name className got := by
    obtain ⟨some_, open_ | ⟨c, found, of⟩⟩ := linked.inputs name className got
    · exact ⟨some_, Or.inl open_⟩
    · exact ⟨some_, Or.inr ⟨c, keeps.input found, of⟩⟩
  classes c hc := by
    rcases new c hc with old | new
    · exact (linked.classes c old).mono (.of_registry keeps)
    · exact new

/-- The variables of an input class link to the classes of the types of its fields. -/
theorem fieldLinks {c : InputClass} {t : TypeDefinition} {fields : List InputDefinition}
    (linked : Linked s pending p) (listed : .input c ∈ p.registry.classes)
    (type : s.find? c.graphqlName = some t) (body : t.body = .input fields) :
    FieldLinks s p fields c.arguments := by
  obtain ⟨-, t', fields', type', body', links⟩ := linked.classes _ listed
  rw [type] at type'
  cases type'
  rw [body] at body'
  cases body'
  exact links

/-- The name of the class that a type links to is not empty. -/
theorem dependency_ne {d : String} (linked : Linked s pending p) (links : Links s p name (some d)) :
    d ≠ "" := by
  cases links with
  | enum _ _ got => exact (linked.enums _ _ got).1
  | input _ _ got => exact (linked.inputs _ _ got).1

end Linked

/-- A step keeps what there is, leaves classes linked, and reaches the classes that it adds from targets. -/
structure Adds (s : Schema) (pending targets : List String) (p q : Progress) : Prop where
  keeps : p.Keeps q
  linked : Linked s pending q
  reached : ∀ name ∈ q.registry.names, name ∈ p.registry.names ∨ ∃ d ∈ targets, q.registry.Reaches d name

namespace Adds

variable {targets targets' : List String}

theorem refl (linked : Linked s pending p) : Adds s pending targets p p :=
  ⟨.refl, linked, fun _ named => Or.inl named⟩

theorem trans (h : Adds s pending targets p q) (h' : Adds s pending targets' q r) :
    Adds s pending (targets ++ targets') p r where
  keeps := h.keeps.trans h'.keeps
  linked := h'.linked
  reached name named := by
    rcases h'.reached name named with old | ⟨d, hd, reaches⟩
    · rcases h.reached name old with old | ⟨d, hd, reaches⟩
      · exact Or.inl old
      · exact Or.inr ⟨d, List.mem_append_left _ hd, h'.keeps.registry.reaches reaches⟩
    · exact Or.inr ⟨d, List.mem_append_right _ hd, reaches⟩

theorem weaken (h : Adds s pending targets p q) (more : ∀ d ∈ targets, d ∈ targets') :
    Adds s pending targets' p q where
  keeps := h.keeps
  linked := h.linked
  reached name named := by
    rcases h.reached name named with old | ⟨d, hd, reaches⟩
    · exact Or.inl old
    · exact Or.inr ⟨d, more d hd, reaches⟩

end Adds

/-! ### Scalars and enums -/

theorem scalarBinding_keeps {binding : Binding} (h : Yields (scalarBinding settings name) p binding q) :
    p.Keeps q := by
  obtain ⟨-, rfl⟩ := yields_scalarBinding_iff.1 h
  exact ⟨.refl, fun _ h => NameSet.mem_union.2 (Or.inl h), fun _ _ h => h, fun _ _ h => h⟩

theorem scalarBinding_adds {binding : Binding} {targets : List String} (linked : Linked s pending p)
    (h : Yields (scalarBinding settings name) p binding q) : Adds s pending targets p q := by
  have keeps := scalarBinding_keeps h
  obtain ⟨-, rfl⟩ := yields_scalarBinding_iff.1 h
  exact ⟨keeps, ⟨linked.enums, linked.inputs, fun c hc => (linked.classes c hc).mono keeps⟩,
    fun _ named => Or.inl named⟩

/-- The class name of a type is not empty. -/
theorem typeClassName_ne {className : String} (h : Naming.typeClassName name = .ok className) :
    className ≠ "" := by
  unfold Naming.typeClassName at h
  split at h
  · cases h
  · rename_i rotated found
    cases h
    unfold Naming.rotateUnderscores at found
    split at found
    · cases found
    · rename_i some_
      cases found
      intro empty
      have none_ := congrArg String.toList empty
      rw [String.toList_ofList, String.toList_empty, List.append_eq_nil_iff] at none_
      exact some_ none_.1

theorem enumClass_keeps {values : List EnumValueDefinition}
    (h : Yields (enumClass name values) p className q) : p.Keeps q := by
  rcases yields_enumClass_iff.1 h with ⟨-, rfl⟩ | ⟨unknown, -, registry, added, rfl⟩
  · exact .refl
  · refine ⟨.of_add added, fun _ h => h, fun other otherClass got => ?_, fun _ _ got => got⟩
    rw [lookup_setKey]
    split
    · rename_i same
      rw [same, unknown] at got
      cases got
    · exact got

/-- An enum that was read has a class name. -/
theorem enumClass_got {values : List EnumValueDefinition} (h : Yields (enumClass name values) p className q) :
    q.enumClasses.lookup name = some className := by
  rcases yields_enumClass_iff.1 h with ⟨known, rfl⟩ | ⟨-, -, registry, -, rfl⟩
  · exact known
  · simp [lookup_setKey]

/-- The class of an enum is there once the enum was read. -/
theorem enumClass_adds {values : List EnumValueDefinition} (linked : Linked s pending p)
    (h : Yields (enumClass name values) p className q) :
    Adds s pending [className] p q ∧ q.enumClasses.lookup name = some className := by
  refine ⟨?_, enumClass_got h⟩
  have keeps := enumClass_keeps h
  rcases yields_enumClass_iff.1 h with ⟨-, rfl⟩ | ⟨-, named, registry, added, rfl⟩
  · exact .refl linked
  · have kept := keeps.registry
    refine ⟨keeps, ⟨fun other otherClass got => ?_, fun other otherClass got => ?_, fun c hc => ?_⟩,
      fun other found => ?_⟩
    · rw [lookup_setKey] at got
      split at got
      · rename_i same
        cases got
        exact ⟨typeClassName_ne named, _, Registry.find?_of_add added, same.symm⟩
      · obtain ⟨some_, c, found, of⟩ := linked.enums other otherClass got
        exact ⟨some_, c, kept.enum found, of⟩
    · obtain ⟨some_, open_ | ⟨c, found, of⟩⟩ := linked.inputs other otherClass got
      · exact ⟨some_, Or.inl open_⟩
      · exact ⟨some_, Or.inr ⟨c, kept.input found, of⟩⟩
    · rcases Registry.mem_classes_of_add added hc with old | rfl
      · exact (linked.classes c old).mono keeps
      · trivial
    · rcases (Registry.mem_names_of_add added).1 found with old | rfl
      · exact Or.inl old
      · exact Or.inr ⟨_, List.mem_cons_self, .refl⟩

/-! ### Variables -/

/-- Every input object type has a class name, or its class may still be generated. -/
def Noted (s : Schema) (available : List String) (p : Progress) : Prop :=
  ∀ name ∈ s.inputNames, name ∈ available ∨ ∃ className, p.inputClasses.lookup name = some className

theorem Noted.mono {available : List String} (noted : Noted s available p) (keeps : p.Keeps q) :
    Noted s available q := by
  intro name isInput
  rcases noted name isInput with listed | ⟨className, got⟩
  · exact Or.inl listed
  · exact Or.inr ⟨className, keeps.inputs _ _ got⟩

/-- Once a type has its class name, its class need not be generated any more. -/
theorem Noted.erase {available : List String} (noted : Noted s available p) (keeps : p.Keeps q)
    (got : q.inputClasses.lookup name = some className) : Noted s (available.erase name) q := by
  intro other isInput
  by_cases same : other = name
  · exact Or.inr ⟨className, same ▸ got⟩
  · exact (noted.mono keeps other isInput).imp_left (List.mem_erase_of_ne same).2

/-- An input object type is among the names of such types. -/
theorem Schema.mem_inputNames {t : TypeDefinition} {fields : List InputDefinition}
    (type : s.find? name = some t) (body : t.body = .input fields) : name ∈ s.inputNames := by
  refine List.mem_filterMap.2 ⟨t, Schema.mem_types_of_find? type, ?_⟩
  rw [body, ← Schema.name_of_find? type]

/-- A type gets its class name before its fields are read. -/
theorem Linked.note (linked : Linked s pending p) (unknown : p.inputClasses.lookup name = none)
    (named : Naming.typeClassName name = .ok className) :
    let noted := { p with inputClasses := setKey name className p.inputClasses }
    p.Keeps noted ∧ Linked s (name :: pending) noted ∧ noted.inputClasses.lookup name = some className := by
  intro noted
  have keeps : p.Keeps noted := by
    refine ⟨.refl, fun _ h => h, fun _ _ got => got, fun other otherClass got => ?_⟩
    show (setKey name className p.inputClasses).lookup other = some otherClass
    rw [lookup_setKey]
    split
    · rename_i same
      rw [same, unknown] at got
      cases got
    · exact got
  refine ⟨keeps, ⟨linked.enums, fun other otherClass got => ?_, fun c hc => (linked.classes c hc).mono keeps⟩,
    by simp [noted, lookup_setKey]⟩
  rw [show noted.inputClasses = setKey name className p.inputClasses from rfl, lookup_setKey] at got
  split at got
  · rename_i same
    cases got
    exact ⟨typeClassName_ne named, Or.inl (same ▸ List.mem_cons_self)⟩
  · obtain ⟨some_, open_ | registered⟩ := linked.inputs other otherClass got
    · exact ⟨some_, Or.inl (List.mem_cons_of_mem _ open_)⟩
    · exact ⟨some_, Or.inr registered⟩

/-- The class of a type is registered after its fields were read. -/
theorem Linked.close {t : TypeDefinition} {fields : List InputDefinition} {xs : List Variable}
    {registry : Registry} (linked : Linked s (name :: pending) p)
    (got : p.inputClasses.lookup name = some className) (type : s.find? name = some t)
    (body : t.body = .input fields)
    (links : FieldLinks s p fields xs)
    (added : p.registry.add (.input ⟨className, name, xs⟩) = .ok registry) :
    Linked s pending { p with registry := registry } := by
  have kept := Registry.Keeps.of_add added
  have keeps : p.Keeps { p with registry := registry } := .of_registry kept
  refine ⟨fun other otherClass known => ?_, fun other otherClass known => ?_, fun c hc => ?_⟩
  · obtain ⟨some_, c, found, of⟩ := linked.enums other otherClass known
    exact ⟨some_, c, kept.enum found, of⟩
  · obtain ⟨some_, open_ | ⟨c, found, of⟩⟩ := linked.inputs other otherClass known
    · rcases List.mem_cons.1 open_ with rfl | open_
      · have same : className = otherClass := Option.some.inj (got.symm.trans known)
        subst same
        exact ⟨some_, Or.inr ⟨_, Registry.find?_of_add added, rfl⟩⟩
      · exact ⟨some_, Or.inl open_⟩
    · exact ⟨some_, Or.inr ⟨c, kept.input found, of⟩⟩
  · rcases Registry.mem_classes_of_add added hc with old | rfl
    · exact (linked.classes c old).mono keeps
    · exact ⟨got, t, fields, type, body, links.mono keeps⟩

/-- A class depends on what its variables link to. -/
theorem mem_variableDependencies {xs : List Variable} {d : String} :
    d ∈ variableDependencies xs ↔ d ∈ xs.filterMap (·.dependency) ∧ d ≠ "" := by
  simp [variableDependencies]

mutual

/-- Reading a type of variables adds classes that are reached from the class that it links to. -/
theorem coreInput_adds (available : List String) (name : String) {pending : List String} {p q : Progress}
    {core : TypedInput} (linked : Linked settings.schema pending p)
    (noted : Noted settings.schema available p)
    (h : Yields (coreInput settings available name) p core q) :
    Adds settings.schema pending core.dependency.toList p q
      ∧ Links settings.schema q name core.dependency := by
  unfold coreInput at h
  split at h
  · rename_i type
    simp only [yields_bind_iff, yields_pure_iff] at h
    obtain ⟨_, _, bound, rfl, rfl⟩ := h
    exact ⟨scalarBinding_adds linked bound, .scalar type rfl⟩
  · rename_i type
    simp only [yields_bind_iff, yields_pure_iff] at h
    obtain ⟨_, _, read, rfl, rfl⟩ := h
    obtain ⟨adds, got⟩ := enumClass_adds linked read
    exact ⟨adds, .enum type rfl got⟩
  · rename_i type
    simp only [yields_bind_iff, yields_pure_iff] at h
    obtain ⟨_, _, read, rfl, rfl⟩ := h
    obtain ⟨adds, got⟩ := inputClassOf_adds available name _ type rfl linked noted read
    exact ⟨adds, .input type rfl got⟩
  · exact absurd h not_yields_throw
  · exact absurd h not_yields_throw
termination_by (available.length, 2, 0)

/-- Reading an input object type adds classes that are reached from its class. -/
theorem inputClassOf_adds (available : List String) (name : String) (fields : List InputDefinition)
    {t : TypeDefinition} (type : settings.schema.find? name = some t) (body : t.body = .input fields)
    {pending : List String} {p q : Progress} {className : String}
    (linked : Linked settings.schema pending p) (noted : Noted settings.schema available p)
    (h : Yields (inputClassOf settings available name fields) p className q) :
    Adds settings.schema pending [className] p q ∧ q.inputClasses.lookup name = some className := by
  rcases yields_inputClassOf_iff.1 h with ⟨known, rfl⟩ | ⟨unknown, named, ⟨unlisted, -⟩ |
    ⟨listed, xs, between, registry, read, added, rfl⟩⟩
  · exact ⟨.refl linked, known⟩
  · rcases noted name (Schema.mem_inputNames type body) with listed | ⟨known, got⟩
    · exact absurd listed unlisted
    · rw [unknown] at got
      cases got
  · have smaller := length_erase_lt listed
    obtain ⟨keeps, open_, got⟩ := linked.note unknown named
    obtain ⟨inside, links⟩ :=
      inputFields_adds (available.erase name) fields open_ (noted.erase keeps got) read
    have got := inside.keeps.inputs _ _ got
    have closed := inside.linked.close got type body links added
    have kept := Registry.Keeps.of_add added
    refine ⟨⟨(keeps.trans inside.keeps).trans (.of_registry kept), closed, fun other found => ?_⟩, got⟩
    rcases (Registry.mem_names_of_add added).1 found with old | rfl
    · rcases inside.reached other old with old | ⟨d, hd, reaches⟩
      · exact Or.inl old
      · refine Or.inr ⟨className, List.mem_cons_self, .head ⟨_, Registry.find?_of_add added, ?_⟩
          (kept.reaches reaches)⟩
        obtain ⟨x, hx, depends⟩ := List.mem_filterMap.1 hd
        obtain ⟨f, -, link⟩ := links.ofVariable x hx
        exact NameSet.mem_ofList.2 (mem_variableDependencies.2
          ⟨hd, inside.linked.dependency_ne (depends ▸ link)⟩)
    · exact Or.inr ⟨_, List.mem_cons_self, .refl⟩
termination_by (available.length, 1, 0)
decreasing_by exact Prod.Lex.left _ _ smaller

/-- Reading the fields of an input object type adds classes that are reached from those that they link to. -/
theorem inputFields_adds (available : List String) (fields : List InputDefinition) {pending : List String}
    {p q : Progress} {xs : List Variable} (linked : Linked settings.schema pending p)
    (noted : Noted settings.schema available p)
    (h : Yields (inputFields settings available fields) p xs q) :
    Adds settings.schema pending (xs.filterMap (·.dependency)) p q
      ∧ FieldLinks settings.schema q fields xs := by
  match fields with
  | [] =>
    rw [inputFields, yields_pure_iff] at h
    obtain ⟨rfl, rfl⟩ := h
    exact ⟨.refl linked, .nil⟩
  | field :: rest =>
    obtain ⟨name, core, typed, others, between, -, read, wraps, later, rfl⟩ := yields_inputFields_cons_iff.1 h
    obtain ⟨first, link⟩ := coreInput_adds available field.type.core linked noted read
    obtain ⟨after, links⟩ := inputFields_adds available rest first.linked (noted.mono first.keeps) later
    rw [← wraps.dependency] at first link
    refine ⟨?_, .cons (link.mono after.keeps) links⟩
    have all := first.trans after
    cases dependency : typed.dependency with
    | none =>
      rw [dependency] at all
      simp only [List.filterMap_cons, TypedInput.variable, dependency]
      exact all
    | some d =>
      rw [dependency] at all
      simp only [List.filterMap_cons, TypedInput.variable, dependency]
      exact all
termination_by (available.length, 3, fields.length)

end

/-- Reading a variable adds classes that are reached from the class that it links to. -/
theorem variableDefinition_adds {name : String} {type : TypeRef} {x : Variable}
    (linked : Linked settings.schema pending p) (h : Yields (variableDefinition settings name type) p x q) :
    Adds settings.schema pending x.dependency.toList p q ∧ Links settings.schema q type.core x.dependency := by
  obtain ⟨_, core, typed, -, read, wraps, rfl⟩ := yields_variableDefinition_iff.1 h
  obtain ⟨adds, link⟩ := coreInput_adds _ _ linked (fun _ isInput => Or.inl isInput) read
  rw [← wraps.dependency] at adds link
  exact ⟨adds, link⟩

/-- Reading the variables of an operation adds classes that are reached from those that they link to. -/
theorem declaredVariables_adds {vs : List VariableDeclaration} {xs : List Variable}
    (linked : Linked settings.schema pending p) (h : Yields (vs.mapM (declaredVariable settings)) p xs q) :
    Adds settings.schema pending (xs.filterMap (·.dependency)) p q
      ∧ ∀ x ∈ xs, ∃ name, Links settings.schema q name x.dependency := by
  induction vs generalizing p xs with
  | nil =>
    obtain ⟨rfl, rfl⟩ := yields_pure_iff.1 h
    exact ⟨.refl linked, fun _ absent => absurd absent List.not_mem_nil⟩
  | cons v rest ih =>
    obtain ⟨x, r, others, first, later, rfl⟩ := yields_mapM_cons_iff.1 h
    obtain ⟨_, -, first⟩ := yields_declaredVariable_iff.1 first
    obtain ⟨adds, link⟩ := variableDefinition_adds linked first
    obtain ⟨after, links⟩ := ih adds.linked later
    refine ⟨?_, List.forall_mem_cons.2 ⟨⟨_, link.mono after.keeps⟩, links⟩⟩
    have all := adds.trans after
    cases dependency : x.dependency with
    | none =>
      rw [dependency] at all
      rwa [List.filterMap_cons_none dependency]
    | some d =>
      rw [dependency] at all
      rwa [List.filterMap_cons_some dependency]

/-! ### Result classes -/

theorem coreOutput_keeps {wanted : String} {o : Occurrence} {t : TypeDefinition} {core : TypedOutput}
    (type : settings.schema.core? o.type = some t) (simple : ¬ t.body.isComposite)
    (h : Yields (coreOutput settings wanted o) p core q) : p.Keeps q := by
  rcases (yields_coreOutput_iff type simple).1 h with ⟨-, binding, bound, -⟩ | ⟨values, className, -, read, -⟩
  · exact scalarBinding_keeps bound
  · exact enumClass_keeps read

theorem registerLeaf_keeps {name : String} {type : TypeDefinition} {existing : Option ClassDefinition}
    {methods : List Method} {dependencies : List String} {u : Unit}
    (h : Yields (registerLeaf settings name type existing methods dependencies) p u q) : p.Keeps q := by
  have kept := (registerLeaf_takes h).1
  rcases yields_registerLeaf_iff.1 h with ⟨_, _, _, _, _, rfl⟩ | ⟨_, _, _, _, _, rfl⟩ <;> exact .of_registry kept

/-- Reading occurrences keeps what there is. -/
theorem Builds.keeps_progress {found all : Accessors} {os : List Occurrence}
    (h : Builds settings className found os p all q) : p.Keeps q := by
  induction h with
  | nil => exact .refl
  | typename _ _ _ _ _ ih => exact ih
  | value _ _ _ type simple reads _ _ _ _ ih => exact (coreOutput_keeps type simple reads).trans ih
  | object _ _ _ _ _ _ _ _ _ registers _ _ _ inside others =>
    exact (inside.trans (registerLeaf_keeps registers)).trans others

/-- Reading a type without selections adds at most the class that its values refer to. -/
theorem coreOutput_adds {wanted : String} {o : Occurrence} {t : TypeDefinition} {core : TypedOutput}
    (linked : Linked settings.schema pending p) (type : settings.schema.core? o.type = some t)
    (simple : ¬ t.body.isComposite) (h : Yields (coreOutput settings wanted o) p core q) :
    Adds settings.schema pending core.dependency.toList p q
      ∧ ∀ d ∈ core.dependency.toList, ∀ owner, q.registry.ValueClass owner d := by
  rcases (yields_coreOutput_iff type simple).1 h with ⟨-, binding, bound, rfl⟩ | ⟨values, className, -, read, rfl⟩
  · exact ⟨scalarBinding_adds linked bound, fun _ absent => absurd absent List.not_mem_nil⟩
  · obtain ⟨adds, got⟩ := enumClass_adds linked read
    refine ⟨adds, fun d hd owner => ?_⟩
    cases List.mem_singleton.1 hd
    obtain ⟨-, c, found, -⟩ := adds.linked.enums _ _ got
    exact Or.inl ⟨c, found⟩

/-- Classes stay linked as a result class takes further accessors and classes of its values, even if not all of the
    accessors fit. -/
theorem Linked.merge {c merged : ObjectClass} {methods : List Method} {dependencies : List String}
    {fault : Option InvariantFault} (linked : Linked s pending p)
    (found : p.registry.find? name = some (.leaf c))
    (merges : c.mergeMethods methods dependencies = (merged, fault))
    (values : ∀ d ∈ dependencies, p.registry.ValueClass name d) :
    p.Keeps { p with registry := p.registry.replace (.leaf merged) }
      ∧ Linked s pending { p with registry := p.registry.replace (.leaf merged) } := by
  have named : c.name = name := Registry.name_of_find? found
  obtain ⟨sameName, -⟩ := ObjectClass.mergeMethods_name merges
  obtain ⟨extends_, refers⟩ := ObjectClass.mergeMethods_extends merges
  have there : p.registry.find? (ClassDefinition.leaf merged).name = some (.leaf c) := by
    rw [ClassDefinition.name, sameName, named, found]
  have kept : p.registry.Keeps (p.registry.replace (.leaf merged)) := .replace there extends_
  refine ⟨.of_registry kept, linked.of_classes kept fun x hx => ?_⟩
  refine (Registry.mem_classes_of_replace hx).imp_right ?_
  rintro rfl d hd
  refine kept.valueClass ?_
  rw [sameName, named]
  rcases refers d hd with own | new
  · have := linked.classes _ (Registry.mem_classes_of_find? found) d own
    rwa [named] at this
  · exact values d new

/-- Classes stay linked as a result class is added that refers to classes of its values. -/
theorem Linked.addLeaf {c : ObjectClass} {registry : Registry} (linked : Linked s pending p)
    (added : p.registry.add (.leaf c) = .ok registry)
    (values : ∀ d ∈ c.dependencies, p.registry.ValueClass c.name d) :
    p.Keeps { p with registry := registry } ∧ Linked s pending { p with registry := registry } := by
  have kept := Registry.Keeps.of_add added
  refine ⟨.of_registry kept, linked.of_classes kept fun x hx => ?_⟩
  rcases Registry.mem_classes_of_add added hx with old | rfl
  · exact Or.inl old
  · exact Or.inr fun d hd => kept.valueClass (values d hd)

/-- Registering a result class leaves classes linked, if what it is to refer to may be a class of its
    values. -/
theorem registerLeaf_adds {type : TypeDefinition} {existing : Option ClassDefinition}
    {methods : List Method} {dependencies : List String} {u : Unit} (linked : Linked s pending p)
    (values : ∀ d ∈ dependencies, p.registry.ValueClass name d)
    (h : Yields (registerLeaf settings name type existing methods dependencies) p u q) :
    p.Keeps q ∧ Linked s pending q ∧ (∀ other ∈ q.registry.names, other ∈ p.registry.names ∨ other = name)
      ∧ ∃ c, q.registry.find? name = some (.leaf c) ∧ ∀ d ∈ dependencies, d ∈ c.dependencies := by
  obtain ⟨-, c, registered, -, depends⟩ := registerLeaf_takes h
  rcases yields_registerLeaf_iff.1 h with ⟨_, c, merged, found, merges, rfl⟩ |
    ⟨_, types, registry, _, added, rfl⟩
  · obtain ⟨keeps, linked⟩ := linked.merge found merges values
    refine ⟨keeps, linked, fun other hother => ?_, _, registered, depends⟩
    obtain ⟨x, hx, rfl⟩ := List.mem_map.1 hother
    obtain ⟨old, hold, rfl⟩ := List.mem_map.1 hx
    split
    · exact Or.inr ((ObjectClass.mergeMethods_name merges).1.trans (Registry.name_of_find? found))
    · exact Or.inl (List.mem_map_of_mem hold)
  · obtain ⟨keeps, linked⟩ := linked.addLeaf added values
    exact ⟨keeps, linked, fun other hother => (Registry.mem_names_of_add added).1 hother, _, registered, depends⟩

/-- The class that an occurrence wants has a longer name than the class that it is read for. -/
theorem length_lt_leafName (r : Registry) (o : Occurrence) (className type : String) :
    className.length < (r.leafName (o.wanted className) type).length := by
  have wanted : className.length < (o.wanted className).length := by
    have separator : "_".length = 1 := rfl
    rw [Occurrence.wanted, String.length_append, String.length_append]
    omega
  unfold Registry.leafName
  split
  · split
    · exact wanted
    · rw [String.length_append, String.length_append]
      omega
  · exact wanted

theorem Accessors.Claims.dependencies {a b : Accessors} {name key : String} (h : a.Claims name key b) :
    b.dependencies = a.dependencies := by
  rcases h with ⟨_, rfl⟩ | ⟨_, rfl⟩ <;> rfl

theorem Accessors.Adds.dependencies {a b : Accessors} {m : Method} (h : a.Adds m b) :
    b.dependencies = a.dependencies := by
  rcases h with ⟨_, rfl⟩ | ⟨_, _, _, _, rfl⟩ <;> rfl

/-- Registering the class of a selection set that was read adds classes that are reached from it. -/
theorem Adds.registerLeaf {type : TypeDefinition} {existing : Option ClassDefinition}
    {methods : List Method} {dependencies : List String} {u : Unit}
    (inside : Adds settings.schema pending dependencies p q)
    (values : ∀ d ∈ dependencies, q.registry.ValueClass name d)
    (registers : Yields (registerLeaf settings name type existing methods dependencies) q u r) :
    Adds settings.schema pending [name] p r ∧ ∃ c, r.registry.find? name = some (.leaf c) := by
  obtain ⟨keeps, linked, names, c, registered, depends⟩ := registerLeaf_adds inside.linked values registers
  refine ⟨⟨inside.keeps.trans keeps, linked, fun other named => ?_⟩, c, registered⟩
  rcases names other named with old | rfl
  · rcases inside.reached other old with old | ⟨d, hd, reaches⟩
    · exact Or.inl old
    · have first : r.registry.DependsOn name d := ⟨_, registered, NameSet.mem_ofList.2 (depends d hd)⟩
      exact Or.inr ⟨name, List.mem_cons_self, .head first (keeps.registry.reaches reaches)⟩
  · exact Or.inr ⟨_, List.mem_cons_self, .refl⟩

/-- Reading a selection set adds classes that are reached from what it refers to, all of which are classes of
    its values. -/
theorem Builds.adds {found all : Accessors} {os : List Occurrence}
    (h : Builds settings className found os p all q) (linked : Linked settings.schema pending p)
    (values : ∀ d ∈ found.dependencies, p.registry.ValueClass className d) :
    Adds settings.schema pending all.dependencies p q
      ∧ ∀ d ∈ all.dependencies, q.registry.ValueClass className d := by
  induction h with
  | nil => exact ⟨.refl linked, values⟩
  | typename _ claims _ adds _ ih =>
    rw [← claims.dependencies, ← adds.dependencies] at values
    exact ih linked values
  | @value className _ found claimed added all o _ _ core typed _ r _ _ claims _ type simple reads _ wraps adds
      others ih =>
    obtain ⟨first, new⟩ := coreOutput_adds linked type simple reads
    have dependencies : added.dependencies = found.dependencies ++ core.dependency.toList := by
      rw [adds.dependencies, ← claims.dependencies, ← wraps.dependency]
      rfl
    have sofar : ∀ d ∈ added.dependencies, r.registry.ValueClass className d := by
      intro d hd
      rw [dependencies] at hd
      rcases List.mem_append.1 hd with old | own
      · exact first.keeps.registry.valueClass (values d old)
      · exact new d own className
    obtain ⟨rest, final⟩ := ih first.linked sofar
    refine ⟨(first.trans rest).weaken fun d hd => ?_, final⟩
    rcases List.mem_append.1 hd with own | later
    · exact others.accessors_keeps.dependencies d (dependencies ▸ List.mem_append_right _ own)
    · exact later
  | @object className _ leaf found claimed inside added all o _ _ _ t typed _ r₁ r₂ _ _ claims _ type composite
      _ _ leafName reads registers wraps adds others ih ih' =>
    obtain ⟨below, belowValues⟩ := ih linked fun _ absent => absurd absent List.not_mem_nil
    obtain ⟨first, c, registered⟩ := below.registerLeaf belowValues registers
    have dependencies : added.dependencies = found.dependencies ++ [leaf] := by
      rw [adds.dependencies, ← claims.dependencies, Accessors.dependOn, wraps.dependency]
      rfl
    have sofar : ∀ d ∈ added.dependencies, r₂.registry.ValueClass className d := by
      intro d hd
      rw [dependencies] at hd
      rcases List.mem_append.1 hd with old | own
      · exact first.keeps.registry.valueClass (values d old)
      · cases List.mem_singleton.1 own
        refine Or.inr ⟨c, registered, ?_⟩
        rw [leafName]
        exact length_lt_leafName _ o className t.name
    obtain ⟨rest, final⟩ := ih' first.linked sofar
    refine ⟨(first.trans rest).weaken fun d hd => ?_, final⟩
    rcases List.mem_append.1 hd with own | later
    · exact others.accessors_keeps.dependencies d (dependencies ▸ List.mem_append_right _ own)
    · exact later

/-! ### Operations -/

/-- Generating an operation adds classes that are reached from its class. -/
theorem Generates.adds {table : List Fragment} {o : Operation} {c : ObjectClass}
    {details : OperationDetails} {all : Accessors} {os : List Occurrence} {owner : TypeDefinition}
    {between last : Progress} {registry : Registry} (linked : Linked settings.schema pending p)
    (h : Generates settings table o p c details all os owner between last registry) :
    Adds settings.schema pending [c.name] p { last with registry := registry } := by
  obtain ⟨variables_, links⟩ := declaredVariables_adds linked h.declares
  obtain ⟨selections, values⟩ := h.builds.adds variables_.linked fun _ absent =>
    absurd absent List.not_mem_nil
  have kept := Registry.Keeps.of_add h.added
  have keeps : last.Keeps { last with registry := registry } := .of_registry kept
  have inside := variables_.trans selections
  refine ⟨inside.keeps.trans keeps, inside.linked.of_classes kept fun x hx => ?_, fun name named => ?_⟩
  · rcases Registry.mem_classes_of_add h.added hx with old | rfl
    · exact Or.inl old
    · refine Or.inr ⟨fun d hd => kept.valueClass (values d (h.dependencies ▸ hd)), fun x hx => ?_⟩
      obtain ⟨name, link⟩ := links x hx
      exact ⟨name, (link.mono selections.keeps).mono keeps⟩
  · rcases (Registry.mem_names_of_add h.added).1 named with old | rfl
    · rcases inside.reached name old with old | ⟨d, hd, reaches⟩
      · exact Or.inl old
      · have depends : registry.DependsOn c.name d := by
          refine ⟨_, Registry.find?_of_add h.added, NameSet.mem_ofList.2 ?_⟩
          rcases List.mem_append.1 hd with parameter | selected
          · refine List.mem_append_right _ (mem_variableDependencies.2 ⟨parameter, ?_⟩)
            obtain ⟨x, hx, dependency⟩ := List.mem_filterMap.1 parameter
            obtain ⟨name, link⟩ := links x hx
            rw [dependency] at link
            exact variables_.linked.dependency_ne link
          · exact List.mem_append_left _ (h.dependencies ▸ selected)
        exact Or.inr ⟨c.name, List.mem_cons_self, .head depends (kept.reaches reaches)⟩
    · exact Or.inr ⟨c.name, List.mem_cons_self, .refl⟩

/-- Every class is reached from the class of an operation. -/
def Rooted (r : Registry) : Prop :=
  ∀ name ∈ r.names, ∃ c details, r.find? c.name = some (.root c details) ∧ r.Reaches c.name name

/-- Generating an operation leaves every class reached from that of an operation. -/
theorem Generates.rooted {table : List Fragment} {o : Operation} {c : ObjectClass}
    {details : OperationDetails} {all : Accessors} {os : List Occurrence} {owner : TypeDefinition}
    {between last : Progress} {registry : Registry} (linked : Linked settings.schema pending p)
    (h : Generates settings table o p c details all os owner between last registry) (rooted : Rooted p.registry) :
    Rooted registry := by
  have adds := h.adds linked
  intro name named
  rcases adds.reached name named with old | ⟨d, hd, reaches⟩
  · obtain ⟨root, operation, found, reaches⟩ := rooted name old
    obtain ⟨x, found', extends_⟩ := adds.keeps.registry _ _ found
    cases extends_
    exact ⟨root, operation, found', adds.keeps.registry.reaches reaches⟩
  · cases List.mem_singleton.1 hd
    exact ⟨c, details, Registry.find?_of_add h.added, reaches⟩

end OperationClasses
