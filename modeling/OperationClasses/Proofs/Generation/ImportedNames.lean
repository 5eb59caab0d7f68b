/-
Module: OperationClasses.Proofs.Generation.ImportedNames
Purpose: Which names that the header of a module imports are taken by a class as well, and so no longer denote what is
  imported where a later class names its base and where annotations are evaluated.
Main exports: TakesName, ClassDefinition.Caused, Generator.Ran.caused, Generator.Ran.exists_class_iff, headerNames,
  scopeAfter, imports_shadowed_iff
-/
import OperationClasses.Module.Rendering
import OperationClasses.Proofs.Generation.Imports
import OperationClasses.Proofs.Generation.ResultClasses

namespace OperationClasses

open Generation Naming

variable {settings : Settings} {s : Schema} {ds : List Document} {d : Document} {table : List Fragment}
  {p q : Progress} {r : Registry} {g : Generator} {name className wanted start : String}

/-! ### Names that documents take -/

/-- The operations of documents use a type, or fields of input object types lead to it from one that they use. -/
def UsesType (s : Schema) (ds : List Document) (name : String) : Prop :=
  ∃ d ∈ ds, ∃ o ∈ d.operations, ∃ start, o.Uses s d.fragmentTable start ∧ s.LeadsTo start name

/-- An operation of the documents selects a field with a composite type, itself or through fragments, that wants a class
    of some name for its values. -/
inductive WantsLeaf (s : Schema) (ds : List Document) : String → Prop where
  | field {d : Document} {o : Operation} {owner t : TypeDefinition} {os : List Occurrence} {f : Occurrence}
      {lead : String} (document : d ∈ ds) (operation : o ∈ d.operations) (named : operationClassName o.name = .ok lead)
      (root : s.rootType o.kind = some owner)
      (occurs : occurrences s owner (resolveAll d.fragmentTable d.fragmentTable o.selections) = .ok os) (mem : f ∈ os)
      (notTypename : ¬ f.isTypename) (type : s.core? f.type = some t) (composite : t.body.isComposite) :
      WantsLeaf s ds (f.wanted lead)

/-- Documents take a name for a class: an operation has it, an enum or input object type that they use, or it is the
    one that a field of an operation wants. -/
inductive TakesName (s : Schema) (ds : List Document) (name : String) : Prop where
  | operation {d : Document} {o : Operation} (document : d ∈ ds) (mem : o ∈ d.operations)
      (named : operationClassName o.name = .ok name)
  | type (uses : UsesType s ds name) (hasClass : s.HasClass name)
  | field (wants : WantsLeaf s ds name)

/-- A class is for an enum or input object type that the documents use, and named after it. -/
structure TypeCauses (s : Schema) (ds : List Document) (graphqlName className : String) : Prop where
  uses : UsesType s ds graphqlName
  hasClass : s.HasClass graphqlName
  named : typeClassName graphqlName = .ok className

/-- Why a class is there: for a type that the documents use, for an operation, or for a field, of an operation or
    somewhere below one. -/
def ClassDefinition.Caused (s : Schema) (ds : List Document) : ClassDefinition → Prop
  | .enum c => TypeCauses s ds c.graphqlName c.name
  | .input c => TypeCauses s ds c.graphqlName c.name
  | .leaf c => ∃ wanted, WantsLeaf s ds wanted ∧ Owns wanted c.name
  | .root c _ => ∃ d ∈ ds, ∃ o ∈ d.operations, operationClassName o.name = .ok c.name

/-! ### Every class has a cause -/

theorem holdsOfSupport_caused :
    HoldsOfSupport settings (UsesType settings.schema ds) (·.Caused settings.schema ds) where
  enum uses type body named := ⟨uses, ⟨_, type, Or.inl ⟨_, body⟩⟩, named⟩
  field uses type body mem := by
    obtain ⟨d, document, o, operation, start, uses, leads⟩ := uses
    exact ⟨d, document, o, operation, start, uses, leads.tail ⟨_, _, _, type, body, mem, rfl⟩⟩
  input uses type body named _ := ⟨uses, ⟨_, type, Or.inr ⟨_, body⟩⟩, named⟩

theorem registerLeaf_caused {type : TypeDefinition} {existing : Option ClassDefinition} {methods : List Method}
    {dependencies : List String} {u : Unit}
    (h : Yields (registerLeaf settings name type existing methods dependencies) p u q)
    (old : ∀ c ∈ p.registry.classes, c.Caused s ds) (wants : WantsLeaf s ds wanted) (owns : Owns wanted name) :
    ∀ c ∈ q.registry.classes, c.Caused s ds := by
  intro x hx
  rcases mem_classes_of_registerLeaf h hx with before | ⟨c, all, -, rfl, -, rfl⟩ | ⟨types, rfl⟩
  · exact old x before
  · exact ⟨wanted, wants, owns⟩
  · exact ⟨wanted, wants, owns⟩

/-- Occurrences bring no class without a cause, if the types that they lead to are used, and the names that they want
    belong to ones that fields of operations want. -/
theorem Builds.caused {found all : Accessors} {os : List Occurrence}
    (h : Builds settings className found os p all q)
    (uses : ∀ o ∈ os, ∀ type, o.LeadsTo settings.schema type → UsesType settings.schema ds type.core)
    (wants : ∀ o ∈ os, ∀ t, ¬ o.isTypename → settings.schema.core? o.type = some t → t.body.isComposite →
      ∃ wanted, WantsLeaf settings.schema ds wanted ∧ Owns wanted (o.wanted className))
    (old : ∀ c ∈ p.registry.classes, c.Caused settings.schema ds) :
    ∀ c ∈ q.registry.classes, c.Caused settings.schema ds := by
  induction h with
  | nil => exact old
  | typename _ _ _ _ _ ih =>
    exact ih (List.forall_mem_cons.1 uses).2 (List.forall_mem_cons.1 wants).2 old
  | value _ _ notTypename type simple reads _ _ _ _ ih =>
    obtain ⟨own, usesOthers⟩ := List.forall_mem_cons.1 uses
    have used := own _ (.own notTypename)
    rw [← Schema.name_of_find? type] at used
    exact ih usesOthers (List.forall_mem_cons.1 wants).2
      (coreOutput_all holdsOfSupport_caused used type simple reads old)
  | @object _ _ leaf _ _ _ _ _ _ _ _ _ _ _ _ _ _ _ _ _ notTypename type composite selected occurs leafName _ registers
      _ _ _ ih ih' =>
    obtain ⟨own, usesOthers⟩ := List.forall_mem_cons.1 uses
    obtain ⟨ownWants, wantsOthers⟩ := List.forall_mem_cons.1 wants
    obtain ⟨wanted, field, owns⟩ := ownWants _ notTypename type composite
    have ownsLeaf : Owns wanted leaf := leafName ▸ owns.trans (.of_wanted _ _ _)
    have below := ih
      (fun inner mem type' leads => own type' (.deeper notTypename type composite selected occurs mem leads))
      (fun inner _ _ _ _ _ => ⟨wanted, field, ownsLeaf.wanted inner⟩) old
    exact ih' usesOthers wantsOthers (registerLeaf_caused registers below field ownsLeaf)

/-- Nor does an operation of one of the documents. -/
theorem Generates.caused {o : Operation} {c : ObjectClass} {details : OperationDetails} {all : Accessors}
    {os : List Occurrence} {owner : TypeDefinition} {between last : Progress} {registry : Registry}
    (document : d ∈ ds) (operation : o ∈ d.operations)
    (h : Generates settings d.fragmentTable o p c details all os owner between last registry)
    (old : ∀ c ∈ p.registry.classes, c.Caused settings.schema ds) :
    ∀ c ∈ registry.classes, c.Caused settings.schema ds := by
  have used : ∀ name, o.Uses settings.schema d.fragmentTable name → UsesType settings.schema ds name :=
    fun name uses => ⟨d, document, o, operation, name, uses, .refl⟩
  have declared := declaredVariables_all holdsOfSupport_caused (fun v mem => used _ (.declared mem)) h.declares old
  have selected : ∀ c ∈ last.registry.classes, c.Caused settings.schema ds := by
    refine h.builds.caused (fun f mem type leads => ?_) (fun f mem t notTypename type composite => ?_) declared
    · exact used _ (.field h.type (leads.fetches (fun _ _ => id) h.occurs mem))
    · exact ⟨_, .field document operation h.named h.type h.occurs mem notTypename type composite, .refl⟩
  exact Registry.all_of_add h.added selected ⟨d, document, o, operation, h.named⟩

/-- After documents were generated, every class is there for something in them. -/
theorem Generator.Ran.caused (ran : g.Ran s ds) : ∀ c ∈ g.progress.registry.classes, c.Caused s ds := by
  refine ran.induction (I := fun p => ∀ c ∈ p.registry.classes, c.Caused s ds)
    (fun _ absent => absurd absent List.not_mem_nil) fun d document o operation => ?_
  rintro settings p c details all os owner between last registry rfl generates old
  exact generates.caused document operation old

/-! ### Every type that is used was read -/

/-- The types without selections that an operation uses were read in a run. -/
def Operation.TypesRead (s : Schema) (table : List Fragment) (p : Progress) (o : Operation) : Prop :=
  ∀ name t, o.Uses s table name → s.find? name = some t → ¬ t.body.isComposite →
    ∃ dependency, Links s p name dependency

theorem declaredVariables_links {vs : List VariableDeclaration} {xs : List Variable}
    (linked : Linked settings.schema [] p) (h : Yields (vs.mapM (declaredVariable settings)) p xs q) :
    ∀ v ∈ vs, ∃ dependency, Links settings.schema q v.type.core dependency := by
  induction vs generalizing p xs with
  | nil => exact fun _ absent => absurd absent List.not_mem_nil
  | cons v rest ih =>
    obtain ⟨x, between, others, first, later, -⟩ := yields_mapM_cons_iff.1 h
    obtain ⟨_, -, first⟩ := yields_declaredVariable_iff.1 first
    obtain ⟨adds, link⟩ := variableDefinition_adds linked first
    obtain ⟨after, -⟩ := declaredVariables_adds adds.linked later
    exact List.forall_mem_cons.2 ⟨⟨_, link.mono after.keeps⟩, ih adds.linked later⟩

theorem coreOutput_links {o : Occurrence} {t : TypeDefinition} {core : TypedOutput}
    (type : settings.schema.core? o.type = some t) (simple : ¬ t.body.isComposite)
    (h : Yields (coreOutput settings wanted o) p core q) :
    ∃ dependency, Links settings.schema q o.type.core dependency := by
  rcases (yields_coreOutput_iff type simple).1 h with ⟨scalar, -⟩ | ⟨values, className, enum, read, -⟩
  · exact ⟨_, .scalar type scalar⟩
  · rw [Schema.name_of_find? type] at read
    exact ⟨_, .enum type enum (enumClass_got read)⟩

/-- What occurrences lead to was read with them. -/
theorem Builds.links_of_leadsTo {found all : Accessors} {os : List Occurrence} {o : Occurrence} {type : TypeRef}
    {t : TypeDefinition} (h : Builds settings className found os p all q) (mem : o ∈ os)
    (leads : o.LeadsTo settings.schema type) (known : settings.schema.find? type.core = some t)
    (simple : ¬ t.body.isComposite) : ∃ dependency, Links settings.schema q type.core dependency := by
  induction h generalizing o with
  | nil => exact absurd mem List.not_mem_nil
  | typename _ _ isTypename _ _ ih =>
    rcases List.mem_cons.1 mem with rfl | mem
    · exact absurd leads (Occurrence.not_leadsTo_of_isTypename isTypename)
    · exact ih mem leads
  | value _ _ notTypename type' simple' reads _ _ _ others ih =>
    rcases List.mem_cons.1 mem with rfl | mem
    · obtain rfl := (Occurrence.leadsTo_iff_of_simple notTypename type' simple').1 leads
      obtain ⟨dependency, links⟩ := coreOutput_links type' simple' reads
      exact ⟨dependency, links.mono others.keeps_progress⟩
    · exact ih mem leads
  | object _ _ notTypename type' composite selected occurs _ _ registers _ _ others ih ih' =>
    rcases List.mem_cons.1 mem with rfl | mem
    · rcases (Occurrence.leadsTo_iff_of_composite notTypename type' composite selected occurs).1 leads with
        rfl | ⟨inner, memBelow, leads⟩
      · rw [Schema.core?, known] at type'
        cases type'
        exact absurd composite simple
      · obtain ⟨dependency, links⟩ := ih memBelow leads
        exact ⟨dependency, links.mono ((registerLeaf_keeps registers).trans others.keeps_progress)⟩
    · exact ih' mem leads

theorem Operation.TypesRead.mono {o : Operation} (h : o.TypesRead s table p) (keeps : p.Keeps q) :
    o.TypesRead s table q := by
  intro name t uses known simple
  obtain ⟨dependency, links⟩ := h name t uses known simple
  exact ⟨dependency, links.mono keeps⟩

theorem generateOperations_typesRead {os : List Operation} {cs : List ClassDefinition}
    (h : Yields (os.mapM (generateOperation settings table)) p cs q) (linked : Linked settings.schema [] p) :
    p.Keeps q ∧ ∀ o ∈ os, o.TypesRead settings.schema table q := by
  induction os generalizing p cs with
  | nil =>
    rw [(yields_pure_iff.1 h).2]
    exact ⟨.refl, fun _ absent => absurd absent List.not_mem_nil⟩
  | cons o rest ih =>
    obtain ⟨x, r, others, first, later, rfl⟩ := yields_mapM_cons_iff.1 h
    obtain ⟨c, details, all, os, owner, between, last, registry, generates, rfl, rfl⟩ :=
      generateOperation_generates first
    have adds := generates.adds linked
    obtain ⟨keeps, readLater⟩ := ih later adds.linked
    have registering : last.Keeps { last with registry := registry } := .of_registry (.of_add generates.added)
    refine ⟨adds.keeps.trans keeps, List.forall_mem_cons.2 ⟨fun name t uses known simple => ?_, readLater⟩⟩
    cases uses with
    | field root fetches =>
      rw [generates.type] at root
      cases root
      obtain ⟨f, mem, leads⟩ := fetches.exists_leadsTo rfl (fun _ _ => id) generates.occurs generates.builds
      obtain ⟨dependency, links⟩ := generates.builds.links_of_leadsTo mem leads known simple
      exact ⟨dependency, links.mono (registering.trans keeps)⟩
    | declared mem =>
      obtain ⟨dependency, links⟩ := declaredVariables_links linked generates.declares _ mem
      exact ⟨dependency, links.mono ((generates.builds.keeps_progress.trans registering).trans keeps)⟩

theorem Generator.Ran.typesRead (ran : g.Ran s ds) :
    ∀ d ∈ ds, ∀ o ∈ d.operations, o.TypesRead s d.fragmentTable g.progress := by
  induction ran with
  | start => exact fun _ absent => absurd absent List.not_mem_nil
  | bind _ ih => exact ih
  | generate before ends ih =>
    obtain ⟨linked, -⟩ := before.linked
    obtain ⟨-, reads⟩ := generate_yields ends
    rw [← before.schema] at linked ih ⊢
    obtain ⟨keeps, read⟩ := generateOperations_typesRead reads linked
    intro d' mem o operation
    rcases List.mem_append.1 mem with mem | last
    · exact (ih d' mem o operation).mono keeps
    · cases List.mem_singleton.1 last
      exact read o operation

/-- With a type, those that fields of input object types lead to from it were read. -/
theorem Linked.links_of_leadsTo (linked : Linked s [] p) {dependency : Option String}
    (links : Links s p start dependency) (leads : s.LeadsTo start name) : ∃ dependency, Links s p name dependency := by
  induction leads with
  | refl => exact ⟨dependency, links⟩
  | tail _ step ih =>
    obtain ⟨t, fields, f, type, body, hf, rfl⟩ := step
    obtain ⟨_, links⟩ := ih
    cases links with
    | scalar type' body' | enum type' body' =>
      rw [type] at type'
      cases type'
      rw [body] at body'
      cases body'
    | input _ _ got =>
      obtain ⟨-, pending | ⟨c, found, rfl⟩⟩ := linked.inputs _ _ got
      · exact absurd pending List.not_mem_nil
      obtain ⟨x, -, link⟩ := (linked.fieldLinks (Registry.mem_classes_of_find? found) type body).ofField f hf
      exact ⟨_, link⟩

/-- A type that has a class or leads to another one has no selections. -/
theorem Schema.LeadsTo.simple (leads : s.LeadsTo start name) (hasClass : s.HasClass name) :
    ∃ t, s.find? start = some t ∧ ¬ t.body.isComposite := by
  rcases Relation.ReflTransGen.cases_head leads with rfl | ⟨_, ⟨t, fields, f, type, body, -⟩, -⟩
  · obtain ⟨t, type, ⟨values, body⟩ | ⟨fields, body⟩⟩ := hasClass
    all_goals exact ⟨t, type, by rw [body]; exact Bool.false_ne_true⟩
  · exact ⟨t, type, by rw [body]; exact Bool.false_ne_true⟩

/-- An enum or input object type that the documents use has a class. -/
theorem Generator.Ran.exists_class_of_usesType (ran : g.Ran s ds) (uses : UsesType s ds name)
    (hasClass : s.HasClass name) : ∃ c ∈ g.progress.registry.classes, typeClassName name = .ok c.name := by
  obtain ⟨linked, -⟩ := ran.linked
  obtain ⟨d, document, o, operation, start, uses, leads⟩ := uses
  obtain ⟨t, known, simple⟩ := leads.simple hasClass
  obtain ⟨_, links⟩ := ran.typesRead d document o operation start t uses known simple
  obtain ⟨_, links⟩ := linked.links_of_leadsTo links leads
  cases links with
  | scalar type body =>
    obtain ⟨t, type', ⟨values, body'⟩ | ⟨fields, body'⟩⟩ := hasClass
    all_goals
      rw [type] at type'
      cases type'
      rw [body] at body'
      cases body'
  | enum _ _ got =>
    obtain ⟨-, c, found, rfl⟩ := linked.enums _ _ got
    have listed := Registry.mem_classes_of_find? found
    exact ⟨_, listed, (ran.caused _ listed).named⟩
  | input _ _ got =>
    obtain ⟨-, pending | ⟨c, found, rfl⟩⟩ := linked.inputs _ _ got
    · exact absurd pending List.not_mem_nil
    have listed := Registry.mem_classes_of_find? found
    exact ⟨_, listed, (ran.caused _ listed).named⟩

/-! ### Names of classes -/

/-- A name with at most one underscore, which is not at an end of it. -/
def Compact (name : String) : Prop :=
  name.toList.head? ≠ some '_' ∧ name.toList.getLast? ≠ some '_' ∧ name.toList.count '_' ≤ 1

instance (name : String) : Decidable (Compact name) := inferInstanceAs (Decidable (_ ∧ _))

/-- A type and its class have the same name, unless that of the type starts with an underscore and that of the class
    ends with one. -/
theorem typeClassName_cases (named : typeClassName name = .ok className) :
    name = className ∨ name.toList.head? = some '_' ∧ className.toList.getLast? = some '_' := by
  unfold typeClassName at named
  split at named
  · cases named
  rename_i rotated found
  cases named
  obtain ⟨c, rest, start, rfl⟩ := rotateUnderscores_eq_some found
  have parts := List.takeWhile_append_dropWhile (p := (· == '_')) (l := name.toList)
  have underscores : ∀ u ∈ name.toList.takeWhile (· == '_'), u = '_' := fun u mem =>
    beq_iff_eq.1 (List.mem_takeWhile_imp (p := (· == '_')) mem)
  rw [start] at parts
  rw [String.toList_ofList]
  cases lead : name.toList.takeWhile (· == '_') with
  | nil =>
    rw [lead, List.nil_append] at parts
    left
    rw [List.append_nil, parts, String.ofList_toList]
  | cons u us =>
    -- what the name starts with has moved to its end
    rw [lead] at parts underscores
    right
    obtain rfl := underscores u List.mem_cons_self
    rw [← parts, List.getLast?_append, List.getLast?_eq_some_getLast (List.cons_ne_nil _ us), Option.some_or]
    exact ⟨rfl, congrArg some (underscores _ (List.getLast_mem _))⟩

theorem Compact.eq_of_typeClassName (compact : Compact className) (named : typeClassName name = .ok className) :
    name = className := (typeClassName_cases named).resolve_right fun ends => compact.2.1 ends.2

theorem Compact.typeClassName_eq (compact : Compact name) (named : typeClassName name = .ok className) :
    name = className := (typeClassName_cases named).resolve_right fun ends => compact.1 ends.1

/-- A compact name does not go on from one that a field wants. -/
theorem WantsLeaf.eq_of_owns (wants : WantsLeaf s ds wanted) (owns : Owns wanted name) (compact : Compact name) :
    name = wanted := by
  refine owns.resolve_right fun longer => ?_
  obtain ⟨rest, rfl⟩ := longer
  obtain ⟨-, -, once⟩ := compact
  cases wants
  -- one underscore is before the suffix of the field, and another one behind it
  simp only [Occurrence.wanted, String.toList_append, List.count_append] at once
  have separator : "_".toList.count '_' = 1 := rfl
  omega

/-- If there is a class under the name that the values of a field get, then also under the one that the field wants. -/
theorem Registry.exists_find?_of_leafName {type : String} {c : ClassDefinition}
    (found : r.find? (r.leafName wanted type) = some c) : ∃ x, r.find? wanted = some x := by
  unfold leafName at found
  split at found
  · rename_i other taken
    exact ⟨other, taken⟩
  · exact ⟨c, found⟩

/-- The name that a field wants is taken: by the class of its values, or else by the class that this one gave way to. -/
theorem Generator.Ran.exists_class_of_wantsLeaf (ran : g.Ran s ds) (wants : WantsLeaf s ds wanted) :
    ∃ c ∈ g.progress.registry.classes, c.name = wanted := by
  obtain ⟨document, operation, named, root, occurs, mem, notTypename, type, composite⟩ := wants
  obtain ⟨className, owner, _, all, named', root', read⟩ := ran.operationsRead .refl document _ operation
  rw [named] at named'
  rw [root] at root'
  cases named'
  cases root'
  have read := read.of_occurs occurs
  obtain ⟨inner, selected⟩ := read.selected_of_mem mem notTypename type composite
  obtain ⟨c, registered, -⟩ := read.leaf mem notTypename type composite selected
  obtain ⟨x, found⟩ := Registry.exists_find?_of_leafName registered
  exact ⟨x, Registry.mem_classes_of_find? found, Registry.name_of_find? found⟩

/-- After documents were generated, a compact name is that of a class exactly if the documents take it. -/
theorem Generator.Ran.exists_class_iff (ran : g.Ran s ds) (compact : Compact name) :
    (∃ c ∈ g.progress.registry.classes, c.name = name) ↔ TakesName s ds name := by
  constructor
  · rintro ⟨c, listed, rfl⟩
    have caused := ran.caused c listed
    have ofType : ∀ graphqlName, TypeCauses s ds graphqlName c.name → TakesName s ds c.name := by
      intro graphqlName causes
      obtain rfl := compact.eq_of_typeClassName causes.named
      exact .type causes.uses causes.hasClass
    cases c with
    | enum c | input c => exact ofType _ caused
    | leaf c =>
      obtain ⟨wanted, wants, owns⟩ := caused
      obtain rfl := wants.eq_of_owns owns compact
      exact .field wants
    | root c details =>
      obtain ⟨d, document, o, operation, named⟩ := caused
      exact .operation document operation named
  · rintro (⟨document, mem, named⟩ | ⟨uses, hasClass⟩ | wants)
    · obtain ⟨className, owner, os, all, named', -, read⟩ := ran.operationsRead .refl document _ mem
      cases named.symm.trans named'
      obtain ⟨c, registered, -⟩ := read.kept
      exact ⟨c, Registry.mem_classes_of_find? registered, Registry.name_of_find? registered⟩
    · obtain ⟨c, listed, named⟩ := ran.exists_class_of_usesType uses hasClass
      exact ⟨c, listed, (compact.typeClassName_eq named).symm⟩
    · exact ran.exists_class_of_wantsLeaf wants

/-! ### The header -/

/-- An import statement of a header: of names from a module, or of a module itself. -/
structure ImportStatement where
  source : Option String
  names : List String

/-- An import statement as it is written. -/
def ImportStatement.line (i : ImportStatement) : String :=
  let imported := "import " ++ ", ".intercalate i.names
  match i.source with
  | none => imported
  | some source => "from " ++ source ++ " " ++ imported

/-- The import statements of the header for what the text of classes refers to. -/
def headerImports : List ImportStatement :=
  [⟨none, ["enum"]⟩,
    ⟨some "typing", ["Any", "ClassVar", "Dict", "List", "Optional", "Tuple", "Union", "cast"]⟩,
    ⟨some "pydantic", ["BaseModel", "ConfigDict"]⟩,
    ⟨some "gql_querygen.runtime", ["SCALAR_TYPE", "OnlyErrors", "Query", "QueryExecutor", "QueryResult"]⟩]

/-- The names that these statements bind. -/
def headerNames : List String := headerImports.flatMap (·.names)

/-- A line that starts like an import statement. -/
def startsImport (line : String) : Bool := ["import ", "from "].any fun word => word.toList.isPrefixOf line.toList

/-- The header has no other import statements, but for one that has annotations evaluated after the module has run. -/
theorem moduleHeader_imports : moduleHeader.filter startsImport
    = "from __future__ import annotations" :: headerImports.map ImportStatement.line := by decide +kernel

theorem compact_of_mem_headerNames : ∀ name ∈ headerNames, Compact name := by decide +kernel

namespace ClassDefinition

variable {c : ClassDefinition}

/-- The class that a class is derived from, as it is written. -/
def base : ClassDefinition → String
  | .enum _ => "enum.Enum"
  | .input _ => "BaseModel"
  | .leaf _ => "QueryResult"
  | .root .. => "Query"

/-- The name that the base of a class is looked up by: that of a module, if an attribute of it is meant. -/
def baseName (c : ClassDefinition) : String := String.ofList (c.base.toList.takeWhile (· != '.'))

/-- The text of a class starts with its name and its base. -/
theorem lines_head? {lines : List String} (written : c.lines s = .ok lines) :
    lines.head? = some (classLine c.name c.base) := by
  cases c with
  | input =>
    cases written
    rfl
  | enum | leaf | root =>
    obtain ⟨_, -, written⟩ := bind_ok written
    cases written
    rfl

theorem baseName_mem : c.baseName ∈ headerNames := by
  have all : ∀ base ∈ ["enum.Enum", "BaseModel", "QueryResult", "Query"],
      String.ofList (base.toList.takeWhile (· != '.')) ∈ headerNames := by decide +kernel
  cases c <;> exact all _ (by simp [base])

end ClassDefinition

/-! ### The scope of a module -/

/-- What a name of a module denotes. -/
inductive Denoted where
  /-- what the header imports under the name -/
  | imported
  | generated (c : ClassDefinition)

/-- What names denote while a module runs, as far as they are bound. -/
abbrev ModuleScope := String → Option Denoted

/-- What names denote behind the header. -/
def headerScope : ModuleScope := fun name => if name ∈ headerNames then some .imported else none

/-- The statement of a class binds its name, whatever the name was bound to. -/
def ModuleScope.define (scope : ModuleScope) (c : ClassDefinition) : ModuleScope :=
  fun name => if name = c.name then some (.generated c) else scope name

/-- What names denote behind the header and the statements of some classes. -/
def scopeAfter (cs : List ClassDefinition) : ModuleScope := cs.foldl .define headerScope

section Scope

variable {scope : ModuleScope} {cs : List ClassDefinition} {c : ClassDefinition}

namespace ModuleScope

@[simp] theorem define_self : scope.define c c.name = some (.generated c) := if_pos rfl

theorem define_of_ne (other : c.name ≠ name) : scope.define c name = scope name := if_neg other.symm

/-- What no class is called stays as it is. -/
theorem foldl_define_of_free (free : ∀ c ∈ cs, c.name ≠ name) : cs.foldl define scope name = scope name := by
  induction cs generalizing scope with
  | nil => rfl
  | cons first rest ih =>
    obtain ⟨other, free⟩ := List.forall_mem_cons.1 free
    rw [List.foldl_cons, ih free, define_of_ne other]

/-- Among classes of different names, each one is what its name denotes in the end. -/
theorem foldl_define_of_mem (distinct : (cs.map (·.name)).Nodup) (mem : c ∈ cs) :
    cs.foldl define scope c.name = some (.generated c) := by
  induction cs generalizing scope with
  | nil => exact absurd mem List.not_mem_nil
  | cons first rest ih =>
    rw [List.map_cons, List.nodup_cons] at distinct
    obtain ⟨apart, distinct⟩ := distinct
    rw [List.foldl_cons]
    rcases List.mem_cons.1 mem with rfl | mem
    · have free : ∀ x ∈ rest, x.name ≠ c.name := fun x hx same => apart (List.mem_map.2 ⟨x, hx, same⟩)
      rw [foldl_define_of_free free, define_self]
    · exact ih distinct mem

end ModuleScope

/-- A name that the header imports denotes what is imported as long as no class has it. -/
theorem scopeAfter_eq_imported_iff (distinct : (cs.map (·.name)).Nodup) (imported : name ∈ headerNames) :
    scopeAfter cs name = some .imported ↔ ∀ c ∈ cs, c.name ≠ name := by
  constructor
  · rintro kept c mem rfl
    rw [scopeAfter, ModuleScope.foldl_define_of_mem distinct mem] at kept
    cases kept
  · intro free
    rw [scopeAfter, ModuleScope.foldl_define_of_free free, headerScope, if_pos imported]

end Scope

/-- **Imported names**: after documents were generated, a class has the name of something that the header of a module
    imports exactly if the documents take this name: with an operation or an enum or input object type that has it, or
    with a field for whose values it is wanted. When the classes are written, such a name denotes the class once the
    module has run, which is when annotations are evaluated; the names of classes then denote these classes anyway.
    Where a class is derived from its base, the name of the base denotes what is imported exactly if it is not taken,
    or only by this class or a later one. -/
theorem imports_shadowed_iff (ran : g.Ran s ds) :
    (∀ name ∈ headerNames, (∃ c ∈ g.progress.registry.classes, c.name = name) ↔ TakesName s ds name)
      ∧ ∀ cs, g.sortedClasses = .ok cs →
        (∀ name ∈ headerNames, scopeAfter cs name = some .imported ↔ ¬ TakesName s ds name)
          ∧ (∀ c ∈ cs, scopeAfter cs c.name = some (.generated c))
          ∧ ∀ before c after, cs = before ++ c :: after →
            (∀ lines, c.lines s = .ok lines → lines.head? = some (classLine c.name c.base))
              ∧ (scopeAfter before c.baseName = some .imported
                ↔ (TakesName s ds c.baseName → ∃ x ∈ c :: after, x.name = c.baseName)) := by
  have taken : ∀ name ∈ headerNames, (∃ c ∈ g.progress.registry.classes, c.name = name) ↔ TakesName s ds name :=
    fun name mem => ran.exists_class_iff (compact_of_mem_headerNames name mem)
  refine ⟨taken, fun cs sorts => ?_⟩
  have perm := Registry.perm_of_sorted sorts
  have distinct : (cs.map (·.name)).Nodup := (perm.map _).nodup_iff.2 g.progress.registry.nodup
  have listed : ∀ name ∈ headerNames, (∃ c ∈ cs, c.name = name) ↔ TakesName s ds name := by
    intro name mem
    rw [← taken name mem]
    exact exists_congr fun c => and_congr_left' perm.mem_iff
  refine ⟨fun name mem => ?_, fun c mem => ModuleScope.foldl_define_of_mem distinct mem,
    fun before c after split => ⟨fun lines => ClassDefinition.lines_head?, ?_⟩⟩
  · rw [scopeAfter_eq_imported_iff distinct mem, ← listed name mem]
    simp
  · rw [split, List.map_append, List.nodup_append] at distinct
    obtain ⟨earlier, -, apart⟩ := distinct
    rw [scopeAfter_eq_imported_iff earlier ClassDefinition.baseName_mem, ← listed _ ClassDefinition.baseName_mem,
      split]
    constructor
    · rintro free ⟨x, mem, named⟩
      rcases List.mem_append.1 mem with mem | mem
      · exact absurd named (free x mem)
      · exact ⟨x, mem, named⟩
    · rintro later x mem named
      obtain ⟨y, mem', named'⟩ := later ⟨x, List.mem_append_left _ mem, named⟩
      exact apart _ (List.mem_map_of_mem mem) _ (List.mem_map_of_mem mem') (named.trans named'.symm)

/-! ### An operation called like its base -/

namespace QueryOperation

def schema : Schema := ⟨[⟨"Query", [], .object [] [⟨"n", [], .named "Int" true, []⟩]⟩, ⟨"Int", [], .scalar⟩,
  ⟨"String", [], .scalar⟩, ⟨"__Schema", [], .object [] []⟩, ⟨"__Type", [], .object [] []⟩],
  [], some "Query", none, none⟩

def operation (name : String) : Operation := ⟨none, .query, some name, [], [], [.leaf ⟨none, "n", [], []⟩]⟩

def document : Document := ⟨[.operation (operation "Query"), .operation (operation "R")]⟩

def root (name : String) : ClassDefinition :=
  .root ⟨name, "Query", ["Query"], [.field (.fresh "n"
      [⟨"n", "int", "return cast(int, self.raw_result[\"n\"])", "Query", []⟩])], []⟩
    ⟨name, "query",
      printDocument (operation name) (usedFragments document.fragmentTable (operation name).selections), []⟩

def registry : Registry := ⟨[root "Query", root "R"], by decide⟩

def generator : Generator := ⟨⟨schema, .empty none, false⟩, registry, [], [], ∅⟩

theorem ran : generator.Ran schema [document] := by
  have ends : (Generator.start ⟨schema, .empty none, false⟩).generate document
      = (.ok [root "Query", root "R"], generator) := by
    refine generate_eq_iff.2 ⟨rfl, ?_⟩
    have both : document.operations = [operation "Query", operation "R"] := rfl
    rw [generateDocument, both, List.mapM_cons, List.mapM_cons, List.mapM_nil, generateOperation, generateOperation]
    dsimp only [generator, registry, root]
    -- the classes are the same whatever texts are sent
    generalize printDocument (operation "Query") _ = sent
    generalize printDocument (operation "R") _ = sent'
    cbv
  exact .generate (.start rfl) ends

theorem accepted : Accepted schema document := by
  refine ⟨"query Query{n}query R{n}", "q.graphql", ⟨document, "query Query{n}query R{n}", "q.graphql"⟩, ?_, rfl⟩
  cbv

theorem sorted : generator.sortedClasses = .ok [root "Query", root "R"] := by
  have names : registry.names.mergeSort (fun a b => decide (a ≤ b)) = ["Query", "R"] :=
    List.mergeSort_of_pairwise (List.pairwise_pair.2 (by decide))
  rw [Generator.sortedClasses, generator, Registry.sorted, Registry.sortedNames, names]
  dsimp only [registry, root]
  generalize printDocument (operation "Query") _ = sent
  generalize printDocument (operation "R") _ = sent'
  cbv

end QueryOperation

open QueryOperation in
/-- An operation called `Query` hides the base that the class of the next operation is to be derived from. -/
theorem imports_shadowed_iff_query_operation :
    Accepted schema document ∧ generator.Ran schema [document]
      ∧ generator.sortedClasses = .ok [root "Query", root "R"]
      ∧ (root "R").baseName = "Query" ∧ TakesName schema [document] "Query"
      ∧ scopeAfter [root "Query"] "Query" ≠ some .imported := by
  have base : (root "R").baseName = "Query" := by decide +kernel
  obtain ⟨taken, order⟩ := imports_shadowed_iff QueryOperation.ran
  obtain ⟨-, -, bases⟩ := order _ sorted
  have takes : TakesName schema [document] "Query" :=
    (taken "Query" (by decide)).1 ⟨root "Query", List.mem_cons_self, rfl⟩
  obtain ⟨-, kept⟩ := bases [root "Query"] (root "R") [] rfl
  rw [base] at kept
  refine ⟨QueryOperation.accepted, QueryOperation.ran, sorted, base, takes, fun imported => ?_⟩
  obtain ⟨x, mem, named⟩ := kept.1 imported takes
  cases List.mem_singleton.1 mem
  exact absurd named (by decide)

end OperationClasses
