/-
Module: OperationClasses.Proofs.Generation.Reselection
Purpose: An operation that selects everything twice leads to the same classes as one that selects it once.
Main exports: Method.ReadsAs, ClassDefinition.ReadsAs, Generator.ReadsAs, generateOperation_reselected,
  reselection_idempotent
-/
import OperationClasses.Proofs.Generation.Rereading

namespace OperationClasses

open Generation

variable {settings : Settings} {s : Schema} {p q r : Progress} {lead : String} {table : List Fragment}
  {o : Operation} {x : ClassDefinition}

/-! ### Classes that are read alike -/

/-- Two accessors have one name, and whatever is read of one is read of the other, value or failure. -/
inductive Method.ReadsAs (s : Schema) : Method → Method → Prop where
  | fixed {name signature body : String} :
      Method.ReadsAs s (.fixed name signature body) (.fixed name signature body)
  | field {a b : FieldAccess} (name : b.name = a.name) (reads : ∀ what, b.read s what = a.read s what) :
      Method.ReadsAs s (.field a) (.field b)

/-- Two result classes are for the same values, and have accessors that are read alike. -/
structure ObjectClass.ReadsAs (s : Schema) (c c' : ObjectClass) : Prop where
  name : c'.name = c.name
  typeName : c'.typeName = c.typeName
  possibleTypes : c'.possibleTypes = c.possibleTypes
  methods : List.Forall₂ (Method.ReadsAs s) c.methods c'.methods

/-- Two classes are the same as far as they are read. Only that of the operation `lead` may send another text. -/
inductive ClassDefinition.ReadsAs (s : Schema) (lead : String) : ClassDefinition → ClassDefinition → Prop where
  | enum {c : EnumClass} : ClassDefinition.ReadsAs s lead (.enum c) (.enum c)
  | input {c : InputClass} : ClassDefinition.ReadsAs s lead (.input c) (.input c)
  | leaf {c c' : ObjectClass} (reads : c.ReadsAs s c') : ClassDefinition.ReadsAs s lead (.leaf c) (.leaf c')
  | root {c c' : ObjectClass} {operation : OperationDetails} {text : String} (reads : c.ReadsAs s c')
      (sends : c.name ≠ lead → text = operation.queryText) :
      ClassDefinition.ReadsAs s lead (.root c operation) (.root c' { operation with queryText := text })

/-- Two generators have come to the same imports and to the same classes as far as these are read, in the same
    order. -/
structure Generator.ReadsAs (lead : String) (g g' : Generator) : Prop where
  settings : g'.settings = g.settings
  imports : g'.imports = g.imports
  classes : List.Forall₂ (fun c c' => c.ReadsAs g.settings.schema lead c' ∧ c'.dependencies = c.dependencies)
    g.progress.registry.classes g'.progress.registry.classes

/-- Accessors that are the same up to repetitions are read alike. -/
theorem Method.readsAs_of_once {m m' : Method} (same : m.once = m'.once) : m.ReadsAs s m' := by
  cases m with
  | fixed =>
    cases m' with
    | fixed =>
      cases show Method.fixed _ _ _ = Method.fixed _ _ _ from same
      exact .fixed
    | field => cases same
  | field a =>
    cases m' with
    | fixed => cases same
    | field b =>
      have same := Method.field.inj same
      refine .field (congrArg FieldAccess.name same).symm fun what => ?_
      rw [← b.read_once, ← same, a.read_once]

theorem forall₂_of_map_eq {α β : Type} {f : α → β} {R : α → α → Prop} (imp : ∀ a b, f a = f b → R a b)
    {xs ys : List α} (same : xs.map f = ys.map f) : List.Forall₂ R xs ys := by
  have equal : List.Forall₂ Eq (xs.map f) (ys.map f) := by
    rw [List.forall₂_eq_eq_eq]
    exact same
  rw [List.forall₂_map_left_iff, List.forall₂_map_right_iff] at equal
  exact equal.imp imp

theorem ObjectClass.readsAs_of_condensed {c c' : ObjectClass} (same : c.condensed = c'.condensed) :
    c.ReadsAs s c' := by
  obtain ⟨name, typeName, possible, once, -⟩ := condensed_eq_iff.1 same
  exact ⟨name.symm, typeName.symm, possible.symm, forall₂_of_map_eq (fun _ _ => Method.readsAs_of_once) once⟩

/-- Classes that are the same up to repetitions are read alike. -/
theorem ClassDefinition.readsAs_of_condensed {c c' : ClassDefinition} (same : c.condensed lead = c'.condensed lead) :
    c.ReadsAs s lead c' := by
  cases c <;> cases c' <;> try cases same
  case enum.enum => exact .enum
  case input.input => exact .input
  case leaf.leaf c c' => exact .leaf (ObjectClass.readsAs_of_condensed (ClassDefinition.leaf.inj same))
  case root.root c operation c' operation' =>
    obtain ⟨classes, details⟩ := ClassDefinition.root.inj same
    have reads : c.ReadsAs s c' := ObjectClass.readsAs_of_condensed classes
    rw [reads.name] at details
    have others : operation' = { operation with queryText := operation'.queryText } := by
      cases operation
      cases operation'
      split at details <;> simp_all
    rw [others]
    refine .root reads fun other => ?_
    rw [if_neg other, if_neg other] at details
    rw [details]

/-- Repetitions make no difference to the classes that a class refers to. -/
theorem ClassDefinition.dependencies_condensed (lead : String) (c : ClassDefinition) :
    (c.condensed lead).dependencies = c.dependencies := by
  apply NameSet.ext
  intro d
  cases c with
  | enum | input => rfl
  | leaf c => simp [condensed, dependencies, ObjectClass.condensed, NameSet.mem_toList]
  | root c operation =>
    by_cases same : c.name = lead <;>
      simp [condensed, dependencies, ObjectClass.condensed, NameSet.mem_toList, same]

/-! ### Selecting twice -/

theorem resolveAll_append (table available : List Fragment) (xs ys : List Selection) :
    resolveAll table available (xs ++ ys) = resolveAll table available xs ++ resolveAll table available ys := by
  induction xs with
  | nil => simp [resolveAll]
  | cons x rest ih => rw [List.cons_append, resolveAll, resolveAll, ih, List.cons_append]

/-- What is selected in two parts occurs in two parts. -/
theorem collectAll_append {owner : String} {conditions : List String} {parent : TypeDefinition}
    {xs ys : List Resolved} {os os' : List Occurrence} (first : collectAll s owner conditions parent xs = .ok os)
    (second : collectAll s owner conditions parent ys = .ok os') :
    collectAll s owner conditions parent (xs ++ ys) = .ok (os ++ os') := by
  induction xs generalizing os with
  | nil =>
    rw [collectAll] at first
    cases first
    exact second
  | cons x rest ih =>
    rw [collectAll] at first
    obtain ⟨here, told, first⟩ := bind_ok first
    obtain ⟨there, later, first⟩ := bind_ok first
    cases first
    rw [List.cons_append, collectAll, told, ih later, List.append_assoc]
    rfl

/-- Occurrences are read in two parts, one after the other. -/
theorem Builds.append {className : String} {found between all : Accessors} {os os' : List Occurrence}
    (first : Builds settings className found os p between q) (second : Builds settings className between os' q all r) :
    Builds settings className found (os ++ os') p all r := by
  induction first with
  | nil => exact second
  | typename named claims isTypename adds _ ih => exact .typename named claims isTypename adds (ih second)
  | value named claims notTypename type simple reads supports wraps adds _ ih =>
    exact .value named claims notTypename type simple reads supports wraps adds (ih second)
  | object named claims notTypename type composite selected occurs leafName reads registers wraps adds _ _ ih =>
    exact .object named claims notTypename type composite selected occurs leafName reads registers wraps adds
      (ih second)

/-- An operation that can be generated can be generated as well if it selects everything twice, and classes are the
    same up to repetitions then. -/
theorem generateOperation_reselected (h : Yields (generateOperation settings table o) p x q) (unread : p.Unread)
    (named : Naming.operationClassName o.name = .ok lead) :
    ∃ x' q', Yields (generateOperation settings table { o with selections := o.selections ++ o.selections }) p x' q'
      ∧ (condensing lead).view x = (condensing lead).view x' ∧ (condensing lead).Same q q' := by
  obtain ⟨className, owner, parameters, between, os, all, last, types, registry, named', root, declared, occurs, builds,
    possible, rfl, added, rfl⟩ := yields_generateOperation_iff.1 h
  cases named.symm.trans named'
  have unread₁ : between.Unread := unread.supports (Supporting.declaredVariables.supports declared)
  obtain ⟨own, unread₂⟩ := builds.unread .nil unread₁
  -- the second half of the selections finds what the first half left
  obtain ⟨last', again, same⟩ := builds.reread lead .refl unread₂
  obtain ⟨all', resumed, repeats⟩ := again.resume .refl own
  have occurs' : occurrences settings.schema owner (resolveAll table table (o.selections ++ o.selections))
      = .ok (os ++ os) := by
    rw [resolveAll_append]
    exact collectAll_append occurs occurs
  have looks : ∀ text text', (condensing lead).view (.root
      ⟨lead, owner.name, types.toList, all.methods, all.dependencies⟩ ⟨lead, o.kind.text, text, parameters⟩)
        = (condensing lead).view (.root ⟨lead, owner.name, types.toList, all'.methods, all'.dependencies⟩
          ⟨lead, o.kind.text, text', parameters⟩) := by
    intro text text'
    simp [condensing, ClassDefinition.condensed, ObjectClass.condensed, repeats.methods, repeats.dependencies]
  have free : lead ∉ last'.registry.names := by
    have free := (Registry.add_eq_ok_iff.1 added).1
    rwa [same.classes.names_eq] at free
  obtain ⟨registry', added'⟩ := Registry.exists_add (c := .root
    ⟨lead, owner.name, types.toList, all'.methods, all'.dependencies⟩
    ⟨lead, o.kind.text, printDocument { o with selections := o.selections ++ o.selections }
      (usedFragments table (o.selections ++ o.selections)), parameters⟩) free
  exact ⟨_, _, yields_generateOperation_iff.2 ⟨lead, owner, parameters, between, os ++ os, all', last', types,
    registry', named, root, declared, occurs', builds.append resumed, possible, rfl, added', rfl⟩, looks _ _,
    same.of_classes (same.classes.of_add (looks _ _) added added')⟩

/-! ### Documents -/

/-- Accessors of classes stay unread when operations are generated. -/
theorem generateOperations_unread {os : List Operation} {cs : List ClassDefinition}
    (h : Yields (os.mapM (generateOperation settings table)) p cs q) (unread : p.Unread) : q.Unread := by
  refine generateOperations_induction h (fun _ _ => ?_) unread
  intro p c details all occurrences owner between last registry generates unread
  obtain ⟨own, inside⟩ := generates.builds.unread .nil (unread.supports generates.supports)
  rw [← generates.methods] at own
  exact ⟨inside.distinct.add generates.added own.distinct, inside.made.add generates.added own.made⟩

/-- Operations of which one selects everything twice are generated like those in which it does so once. -/
theorem generateOperations_reselected {before after : List Operation} {cs : List ClassDefinition}
    (h : Yields ((before ++ o :: after).mapM (generateOperation settings table)) p cs q) (unread : p.Unread) :
    ∃ lead cs' q', Naming.operationClassName o.name = .ok lead
      ∧ Yields ((before ++ { o with selections := o.selections ++ o.selections } :: after).mapM
        (generateOperation settings table)) p cs' q'
      ∧ cs.map (condensing lead).view = cs'.map (condensing lead).view ∧ (condensing lead).Same q q' := by
  rw [List.mapM_append] at h
  obtain ⟨xs, r, first, h⟩ := yields_bind_iff.1 h
  obtain ⟨ys, q, rest, last⟩ := yields_bind_iff.1 h
  obtain ⟨rfl, rfl⟩ := yields_pure_iff.1 last
  obtain ⟨x, r', others, second, later, rfl⟩ := yields_mapM_cons_iff.1 rest
  obtain ⟨lead, _, _, _, _, _, _, _, _, named, -⟩ := yields_generateOperation_iff.1 second
  obtain ⟨x', r'', again, looks, same⟩ :=
    generateOperation_reselected second (generateOperations_unread first unread) named
  -- the operations after it go on alike
  have alike : Alike (condensing lead) (fun ys ys' => ys.map (condensing lead).view = ys'.map (condensing lead).view)
      (after.mapM (generateOperation settings table)) ((after.map id).mapM (generateOperation settings table)) :=
    .mapM fun o _ => blind_generateOperation table o
  rw [List.map_id] at alike
  obtain ⟨others', q', later', looks', same'⟩ := alike.yields same later
  refine ⟨lead, xs ++ x' :: others', q', named, ?_, by simp [looks, looks'], same'⟩
  rw [List.mapM_append]
  refine yields_bind_iff.2 ⟨xs, r, first, yields_bind_iff.2 ⟨x' :: others', q', ?_, yields_pure_iff.2 ⟨rfl, rfl⟩⟩⟩
  exact yields_mapM_cons_iff.2 ⟨x', r'', others', again, later', rfl⟩

theorem Document.operations_append_cons (before after : List Definition) (o : Operation) :
    (Document.mk (before ++ .operation o :: after)).operations
      = (Document.mk before).operations ++ o :: (Document.mk after).operations := by
  simp [Document.operations]

/-- **Selecting twice**: a document whose classes a new generator generates is generated as well if one of its
    operations selects everything twice, one time after the other. The generator comes to the same imports, and to the
    same classes in the same order: they have the same names, possible types and dependencies, and accessors of the
    same names of which the same reduced paths, signatures and bodies are read, or which cannot be read for the same
    fault. Only the text that is sent for the operation itself may be another one. -/
theorem reselection_idempotent (before after : List Definition) (o : Operation) {cs : List ClassDefinition}
    {g : Generator} (ends : (Generator.start settings).generate ⟨before ++ .operation o :: after⟩ = (.ok cs, g)) :
    ∃ lead cs' g', Naming.operationClassName o.name = .ok lead
      ∧ (Generator.start settings).generate
        ⟨before ++ .operation { o with selections := o.selections ++ o.selections } :: after⟩ = (.ok cs', g')
      ∧ List.Forall₂ (ClassDefinition.ReadsAs settings.schema lead) cs cs' ∧ g.ReadsAs lead g' := by
  obtain ⟨settled, reads⟩ := generate_eq_iff.1 ends
  have unread : Progress.start.Unread := ⟨fun _ hc => absurd hc List.not_mem_nil, Progress.made_start⟩
  have table : Document.fragmentTable ⟨before ++ .operation o :: after⟩ = Document.fragmentTable
      ⟨before ++ .operation { o with selections := o.selections ++ o.selections } :: after⟩ := by
    simp [Document.fragmentTable, Document.fragments]
  change Yields (generateDocument settings _) Progress.start cs g.progress at reads
  rw [generateDocument, Document.operations_append_cons, table] at reads
  obtain ⟨lead, cs', q', named, again, looks, same⟩ := generateOperations_reselected reads unread
  rw [← Document.operations_append_cons] at again
  refine ⟨lead, cs', ⟨settings, q'⟩, named, generate_eq_iff.2 ⟨rfl, again⟩,
    forall₂_of_map_eq (fun _ _ => ClassDefinition.readsAs_of_condensed) looks, settled.symm,
    congrArg NameSet.toList same.imports.symm, ?_⟩
  apply forall₂_of_map_eq _ same.classes
  intro c c' same
  refine ⟨ClassDefinition.readsAs_of_condensed same, ?_⟩
  rw [← c'.dependencies_condensed lead, ← c.dependencies_condensed lead]
  exact congrArg ClassDefinition.dependencies same.symm

/-! ### A user selected twice -/

namespace SelectedAgain

def query : TypeDefinition := ⟨"Query", [], .object [] [⟨"user", [], .named "User" true, []⟩]⟩

def user : TypeDefinition := ⟨"User", [], .object [] [⟨"id", [], .named "Int" true, []⟩]⟩

def schema : Schema := ⟨[query, user, ⟨"Int", [], .scalar⟩], [], some "Query", none, none⟩

def operation : Operation :=
  ⟨none, .query, some "Q", [], [], [.nested ⟨none, "user", [], []⟩ [.leaf ⟨none, "id", [], []⟩]]⟩

def document : Document := ⟨[.operation operation]⟩

def leaf : ObjectClass := ⟨"Q_User", "User", ["User"], [.field (.fresh "id"
  [⟨"id", "int", "return cast(int, self.raw_result[\"id\"])", "User", []⟩])], []⟩

def root : ObjectClass := ⟨"Q", "Query", ["Query"], [.field (.fresh "user"
  [⟨"user", "Q_User", "return Q_User(self.raw_result[\"user\"])", "Query", []⟩])], ["Q_User"]⟩

def sent : ClassDefinition :=
  .root root ⟨"Q", "query", printDocument operation (usedFragments document.fragmentTable operation.selections), []⟩

def generator : Generator := ⟨⟨schema, .empty none, false⟩, ⟨[.leaf leaf, sent], by decide⟩, [], [], ∅⟩

theorem ends : (Generator.start generator.settings).generate document = (.ok [sent], generator) := by
  refine (generate_one_iff (o := operation) rfl).2 ⟨rfl, ?_⟩
  rw [generateOperation]
  dsimp only [generator, sent]
  -- the class is the same whatever text is sent
  generalize printDocument operation _ = text
  cbv

end SelectedAgain

open SelectedAgain in
/-- A user and its id are selected twice: the class of the user is there when it is selected again, and takes the
    accessor that it has. -/
theorem reselection_idempotent_of_nested :
    (Generator.start generator.settings).generate document = (.ok [sent], generator)
      ∧ ∃ lead cs' g', Naming.operationClassName operation.name = .ok lead
        ∧ (Generator.start generator.settings).generate
          ⟨[.operation { operation with selections := operation.selections ++ operation.selections }]⟩ = (.ok cs', g')
        ∧ List.Forall₂ (ClassDefinition.ReadsAs schema lead) [sent] cs' ∧ generator.ReadsAs lead g' :=
  ⟨ends, reselection_idempotent [] [] operation ends⟩

end OperationClasses
