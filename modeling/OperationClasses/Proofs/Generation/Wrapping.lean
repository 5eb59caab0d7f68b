/-
Module: OperationClasses.Proofs.Generation.Wrapping
Purpose: When an accessor that every runtime type has reads a key that a response object lacks.
Main exports: ConvertsAs, Wrapped, GuaranteedAccess, guaranteed_access
-/
import OperationClasses.Proofs.Generation.Breaches
import OperationClasses.Proofs.Validation.Places

namespace OperationClasses

variable {settings : Settings} {s : Schema} {d : Document} {r : Registry} {given : String → Bool}

/-! ### Wrapped objects -/

/-- For a runtime type, an accessor of a class converts the value as an occurrence of a field says, one
    that admits the type if any of its occurrences does. So it reads the response key of that occurrence. -/
def ConvertsAs (s : Schema) (d : Document) (r : Registry) (className : String) (a : FieldAccess)
    (t : String) (o : Occurrence) : Prop :=
  ∃ choice path, a.dispatch s = .ok choice ∧ choice.run t = .converts path.expression ∧ path ∈ a.paths
    ∧ ((∃ p ∈ a.paths, p.Compatible s t) → path.Compatible s t)
    ∧ Stems s d r className o ∧ ¬ o.isTypename ∧ PathOf s r className o path

/-- An object at a place in a response to an operation is wrapped in a class, with its runtime type and
    what is selected for it: the response itself in the class of the operation, and an object in the
    value of a field in the class that the accessor of the field wraps it in. -/
inductive Wrapped (s : Schema) (d : Document) (r : Registry) (given : String → Bool)
    (operation : Operation) :
    List (String × String) → String → TypeDefinition → List Selection → List (String × Json) → Prop where
  | root {className : String} {t : TypeDefinition} {members : List (String × Json)}
      (mem : operation ∈ d.operations) (named : Naming.operationClassName operation.name = .ok className)
      (type : s.rootType operation.kind = some t)
      (answers : Answers s d.fragmentTable given t operation.selections members) :
      Wrapped s d r given operation [] className t operation.selections members
  | under {way : List (String × String)} {className : String} {t inner composite : TypeDefinition}
      {selections : List Selection} {members below : List (String × Json)} {c : ClassDefinition}
      {a : FieldAccess} {o : Occurrence} {fields : List SelectedField} {f : SelectedField} {value : Json}
      {type : TypeRef} (outer : Wrapped s d r given operation way className t selections members)
      (registered : r.find? className = some c) (accessor : .field a ∈ c.methods)
      (converts : ConvertsAs s d r className a t.name o) (core : s.core? o.type = some composite)
      (isComposite : composite.body.isComposite)
      (group : (o.key, fields) ∈ collectFields s d.fragmentTable given t.name selections)
      (member : (o.key, value) ∈ members) (field : f ∈ fields)
      (typed : s.selectableType? t f.head.name = some type)
      (holds : Holds s d.fragmentTable given type (mergedBelow fields) value inner below) :
      Wrapped s d r given operation ((t.name, o.key) :: way)
        (r.leafName (o.wanted className) composite.name) inner (mergedBelow fields) below

section Wrapped

variable {operation : Operation} {way : List (String × String)} {className : String} {t : TypeDefinition}
  {selections : List Selection} {members : List (String × Json)}

/-- A wrapped object answers what is selected for it. -/
theorem Wrapped.answers (h : Wrapped s d r given operation way className t selections members) :
    Answers s d.fragmentTable given t selections members := by
  cases h with
  | root _ _ _ answers => exact answers
  | under _ _ _ _ _ _ _ _ _ _ holds => exact holds.answers

/-- What is selected for a wrapped object is what is asked for at its place. -/
theorem Wrapped.meets (faultless : Faultless s d) (valid : s.Valid) (undirected : d.Undirected)
    (h : Wrapped s d r given operation way className t selections members) :
    operation ∈ d.operations ∧ Meets s d given operation way t.name selections := by
  induction h with
  | root mem => exact ⟨mem, faultless.meets_root valid undirected mem⟩
  | under _ _ _ _ _ _ group _ _ _ _ ih =>
    exact ⟨ih.1, faultless.meets_below valid undirected ih.1 ih.2 group⟩

end Wrapped

/-! ### Guaranteed access -/

/-- A class is for values that can have a runtime type. -/
def ClassAdmits (s : Schema) (d : Document) (r : Registry) (className t : String) : Prop :=
  ∀ owner selections, Takes s d r className owner selections → Possible s owner.name t

/-- What an accessor that every runtime type has does for an object that is wrapped in its class, at a
    place in a response and with a runtime type. -/
structure GuaranteedAccess (s : Schema) (d : Document) (r : Registry) (operation : Operation)
    (way : List (String × String)) (className : String) (a : FieldAccess) (t : String)
    (members : List (String × Json)) : Prop where
  /-- for a type that is possible for the class it converts a value -/
  converts : ClassAdmits s d r className t → ∃ o, ConvertsAs s d r className a t o
  /-- the key that it then reads is selected for the type by a selection set that the class is for -/
  selected : ClassAdmits s d r className t → ∀ o, ConvertsAs s d r className a t o →
    ∃ owner selections, Takes s d r className owner selections ∧ SelectsKey s owner selections t o.key
  /-- the object has the key exactly if a selection set that is asked for at its place selects the key
      for the type -/
  present : ∀ o, ConvertsAs s d r className a t o →
    (o.key ∈ members.map Prod.fst
      ↔ ∃ owner selections, Asked s d operation way owner selections
        ∧ SelectsKey s owner selections t o.key)
  /-- so it has the key if the selection sets that the class is for are asked for at its place -/
  sound : ClassAdmits s d r className t →
    (∀ owner selections, Takes s d r className owner selections →
      Asked s d operation way owner selections) →
    ∀ o, ConvertsAs s d r className a t o → o.key ∈ members.map Prod.fst

/-- An occurrence applies to the types that its path admits. -/
theorem PathOf.applies {className t : String} {o : Occurrence} {path : Path}
    (h : PathOf s r className o path) (compatible : path.Compatible s t) : o.AppliesTo s t := by
  obtain ⟨types, hc, ht⟩ := compatible
  rw [Occurrence.AppliesTo, ← h.conditions]
  exact ((Path.mem_compatible hc).1 ht).2

/-- An accessor whose body can be written converts a value for each type that one of its paths admits, and
    only as occurrences that apply to the type. -/
theorem Traced.converts_of_compatible (faultless : Faultless s d) (valid : s.Valid)
    {className name body t : String} {paths : List Path}
    (traced : ∀ path ∈ paths, path.name = name ∧ Traced s d r className path)
    (written : (FieldAccess.fresh name paths).body s = .ok body)
    (admitted : ∃ path ∈ paths, path.Compatible s t) :
    (∃ o, ConvertsAs s d r className (.fresh name paths) t o)
      ∧ ∀ o, ConvertsAs s d r className (.fresh name paths) t o → o.AppliesTo s t := by
  have all := fun path h => (traced path h).2
  have some_ : paths ≠ [] := by
    obtain ⟨path, mem, -⟩ := admitted
    exact List.ne_nil_of_mem mem
  obtain ⟨owner, others, takes, rooted, surviving, reduced⟩ :=
    traced_reduced faultless valid name some_ all
  have kept : (FieldAccess.fresh name paths).RootKept s := fun types kept => by cases kept
  obtain ⟨guaranteed, hg, -⟩ := FieldAccess.guaranteed_iff kept rooted reduced
  obtain ⟨choice, dispatches, -, served, -⟩ := FieldAccess.written_runs reduced hg written
  obtain ⟨p, hp, ht⟩ := (FieldAccess.compatible_iff_mem_reduced reduced).1 admitted
  obtain ⟨mem, compatible, -⟩ := FieldAccess.mem_of_mem_reduced reduced hp
  constructor
  · obtain ⟨o, stems, notTypename, of⟩ := all p.path mem
    have runs := served p hp _ ht
    exact ⟨o, choice, p.path, dispatches, runs, mem, fun _ => ⟨p.types, compatible, ht⟩, stems, notTypename, of⟩
  · intro o converts
    obtain ⟨_, path, _, _, _, most, _, _, of⟩ := converts
    exact of.applies (most admitted)

/-- An accessor that every runtime type has, and whose body can be written, converts a value for each
    type that is possible for its class, as an occurrence that applies to the type. -/
theorem Traced.converts (faultless : Faultless s d) (valid : s.Valid) {className name body t : String}
    {paths : List Path} (some_ : paths ≠ [])
    (traced : ∀ path ∈ paths, path.name = name ∧ Traced s d r className path)
    (guaranteed : (FieldAccess.fresh name paths).guaranteed s = .ok true)
    (written : (FieldAccess.fresh name paths).body s = .ok body)
    (admits : ClassAdmits s d r className t) :
    (∃ o, ConvertsAs s d r className (.fresh name paths) t o)
      ∧ ∀ o, ConvertsAs s d r className (.fresh name paths) t o → o.AppliesTo s t := by
  obtain ⟨owner, others, takes, rooted, surviving, reduced⟩ :=
    traced_reduced faultless valid name some_ fun path h => (traced path h).2
  have kept : (FieldAccess.fresh name paths).RootKept s := fun types kept => by cases kept
  obtain ⟨guaranteed', hg, covers⟩ := FieldAccess.guaranteed_iff kept rooted reduced
  rw [guaranteed] at hg
  cases hg
  have admitted := (covers.1 rfl).2 t (admits owner others takes)
  exact Traced.converts_of_compatible faultless valid traced written
    ((FieldAccess.compatible_iff_mem_reduced reduced).2 admitted)

/-- An accessor of a class that every runtime type has, and whose body can be written, reads a key that an
    object in the class has exactly if the key is asked for at the place of the object. -/
theorem Wrapped.guaranteedAccess (faultless : Faultless s d) (valid : s.Valid)
    (undirected : d.Undirected) {operation : Operation} {way : List (String × String)}
    {className body : String} {t : TypeDefinition} {selections : List Selection}
    {members : List (String × Json)} {a : FieldAccess}
    (wrapped : Wrapped s d r given operation way className t selections members)
    (made : (Method.field a).Made (Traced s d r className)) (guaranteed : a.guaranteed s = .ok true)
    (written : a.body s = .ok body) :
    GuaranteedAccess s d r operation way className a t.name members := by
  have meets := (wrapped.meets faultless valid undirected).2
  have present : ∀ key, key ∈ members.map Prod.fst ↔ ∃ owner others,
      Asked s d operation way owner others ∧ SelectsKey s owner others t.name key :=
    fun key => meets.mem_keys_iff wrapped.answers
  cases made with
  | @field name paths some_ all =>
    have converts := fun admits =>
      Traced.converts faultless valid some_ all guaranteed written (t := t.name) admits
    have selected : ClassAdmits s d r className t.name →
        ∀ o, ConvertsAs s d r className (.fresh name paths) t.name o →
        ∃ owner others, Takes s d r className owner others ∧ SelectsKey s owner others t.name o.key := by
      intro admits o h
      have applies := (converts admits).2 o h
      obtain ⟨_, _, _, _, _, _, ⟨owner, others, os, takes, occurs, ho⟩, _, _⟩ := h
      exact ⟨owner, others, takes, os, o, occurs, ho, rfl, applies⟩
    constructor
    · exact fun admits => (converts admits).1
    · exact selected
    · exact fun o _ => present o.key
    · intro admits asked o h
      obtain ⟨owner, others, takes, selects⟩ := selected admits o h
      exact (present o.key).2 ⟨owner, others, asked owner others takes, selects⟩

/-- For a valid schema and an accepted document without directives that leave something out, an accessor
    of a generated class that every runtime type has, and whose body can be written, reads a key that an
    object in the class has exactly if it is asked for at the place of the object. Another selection set
    may be what the class has it from. -/
theorem guaranteed_access {text source className body : String} {declaration : Declaration}
    {operation : Operation} {classes : List ClassDefinition} {g : Generator}
    {way : List (String × String)} {t : TypeDefinition} {selections : List Selection}
    {members : List (String × Json)} {c : ClassDefinition} {a : FieldAccess}
    (valid : settings.schema.Valid) (declared : declare settings.schema text source = .ok declaration)
    (undirected : declaration.document.Undirected)
    (ends : (Generator.start settings).generate declaration.document = (.ok classes, g))
    (wrapped : Wrapped settings.schema declaration.document g.progress.registry given operation way
      className t selections members)
    (registered : g.progress.registry.find? className = some c) (accessor : .field a ∈ c.methods)
    (guaranteed : a.guaranteed settings.schema = .ok true)
    (written : a.body settings.schema = .ok body) :
    GuaranteedAccess settings.schema declaration.document g.progress.registry operation way className a
      t.name members := by
  have faultless := faultless_of_declare declared
  have traced := generateDocument_traced (generate_eq_iff.1 ends).2
  have named : c.name = className := Registry.name_of_find? registered
  have made := traced c (Registry.mem_classes_of_find? registered) _ accessor
  rw [named] at made
  exact wrapped.guaranteedAccess faultless valid undirected made guaranteed written

/-! ### Two fields that share a class -/

namespace SharedClass

/-- A type that leads to itself by two fields. -/
def query : TypeDefinition := ⟨"Query", [], .object [] [⟨"a_b", [], .named "Query" true, []⟩,
  ⟨"b", [], .named "Query" true, []⟩, ⟨"n", [], .named "Int" true, []⟩]⟩

def schema : Schema := ⟨[query, ⟨"Int", [], .scalar⟩, ⟨"String", [], .scalar⟩,
  ⟨"__Schema", [], .object [] []⟩, ⟨"__Type", [], .object [] []⟩], [], some "Query", none, none⟩

def setup : Settings := ⟨schema, .empty none, false⟩

/-- Under its alias, the second field wants the class that the first one wants. -/
def operation : Operation := ⟨none, .query, some "Q", [], [],
  [.nested ⟨none, "a_b", [], []⟩ [.leaf ⟨none, "n", [], []⟩],
    .nested ⟨some "a", "b", [], []⟩ [.leaf ⟨some "m", "n", [], []⟩]]⟩

def document : Document := ⟨[.operation operation]⟩

def declaration : Declaration := ⟨document, "query Q{a_b{n}a:b{m:n}}", "q.graphql"⟩

def accessorN : FieldAccess :=
  .fresh "n" [⟨"n", "int", "return cast(int, self.raw_result[\"n\"])", "Query", []⟩]

def accessorM : FieldAccess :=
  .fresh "m" [⟨"m", "int", "return cast(int, self.raw_result[\"m\"])", "Query", []⟩]

def accessorAB : FieldAccess :=
  .fresh "a_b" [⟨"a_b", "Q_AB", "return Q_AB(self.raw_result[\"a_b\"])", "Query", []⟩]

def accessorA : FieldAccess :=
  .fresh "a" [⟨"a", "Q_AB", "return Q_AB(self.raw_result[\"a\"])", "Query", []⟩]

def shared : ObjectClass := ⟨"Q_AB", "Query", ["Query"], [.field accessorN, .field accessorM], []⟩

def root : ObjectClass :=
  ⟨"Q", "Query", ["Query"], [.field accessorAB, .field accessorA], ["Q_AB", "Q_AB"]⟩

def details : OperationDetails :=
  ⟨"Q", "query", printDocument operation (usedFragments document.fragmentTable operation.selections), []⟩

def registry : Registry := ⟨[.leaf shared, .root root details], by decide⟩

def generator : Generator := ⟨setup, registry, [], [], ∅⟩

theorem declared : declare schema "query Q{a_b{n}a:b{m:n}}" "q.graphql" = .ok declaration := by cbv

theorem ends : (Generator.start setup).generate document = (.ok [.root root details], generator) := by
  refine (generate_one_iff (o := operation) rfl).2 ⟨rfl, ?_⟩
  rw [generateOperation]
  dsimp only [generator, registry, details]
  -- the classes are the same whatever text is sent
  generalize printDocument operation _ = sent
  cbv

/-- A field without selections is answered by a number. -/
theorem answers_leaf (other : Option String) :
    Answers schema [] (fun _ => false) query [.leaf ⟨other, "n", [], []⟩]
      [((⟨other, "n", [], []⟩ : FieldHead).responseKey, .int 1)] := by
  have collects : collectFields schema [] (fun _ => false) query.name [.leaf ⟨other, "n", [], []⟩]
      = [((⟨other, "n", [], []⟩ : FieldHead).responseKey, [⟨⟨other, "n", [], []⟩, none⟩])] := by
    simp [collectFields, gather, takesPart, groupField]
  apply Answers.object rfl rfl
  · intro key
    rw [responseKeys, collects]
    rfl
  · intro key fields value f type group member hf typed
    rw [collects] at group
    cases List.mem_singleton.1 group
    cases List.mem_singleton.1 member
    cases List.mem_singleton.1 hf
    cases typed
    exact .leaf rfl rfl (by simp)
  · intro key fields value f group member hf named
    rw [collects] at group
    cases List.mem_singleton.1 group
    cases List.mem_singleton.1 hf
    simp [typenameField] at named

theorem collects : collectFields schema [] (fun _ => false) query.name operation.selections
    = [("a_b", [⟨⟨none, "a_b", [], []⟩, some [.leaf ⟨none, "n", [], []⟩]⟩]),
      ("a", [⟨⟨some "a", "b", [], []⟩, some [.leaf ⟨some "m", "n", [], []⟩]⟩])] := by
  cbv

theorem possible : Possible schema "Query" "Query" := ⟨_, rfl, by decide⟩

theorem answers : Answers schema [] (fun _ => false) query operation.selections
    [("a_b", .obj [("n", .int 1)]), ("a", .obj [("m", .int 1)])] := by
  apply Answers.object rfl rfl
  · intro key
    rw [responseKeys, collects]
    rfl
  · intro key fields value f type group member hf typed
    rw [collects] at group
    simp only [List.mem_cons, Prod.mk.injEq, List.not_mem_nil, or_false] at group member
    rcases group with ⟨rfl, rfl⟩ | ⟨rfl, rfl⟩
    · obtain rfl : value = .obj [("n", .int 1)] := by simpa using member
      cases List.mem_singleton.1 hf
      cases typed
      exact .object possible (answers_leaf none)
    · obtain rfl : value = .obj [("m", .int 1)] := by simpa using member
      cases List.mem_singleton.1 hf
      cases typed
      exact .object possible (answers_leaf (some "m"))
  · intro key fields value f group member hf named
    rw [collects] at group
    simp only [List.mem_cons, Prod.mk.injEq, List.not_mem_nil, or_false] at group
    rcases group with ⟨rfl, rfl⟩ | ⟨rfl, rfl⟩
    · cases List.mem_singleton.1 hf
      exact absurd named (by decide)
    · cases List.mem_singleton.1 hf
      exact absurd named (by decide)

def occurrenceAB : Occurrence :=
  ⟨⟨none, "a_b", [], []⟩, .named "Query" true, "Query", [], some [.leaf ⟨none, "n", [], []⟩]⟩

def occurrenceA : Occurrence :=
  ⟨⟨some "a", "b", [], []⟩, .named "Query" true, "Query", [], some [.leaf ⟨some "m", "n", [], []⟩]⟩

def occurrenceN : Occurrence := ⟨⟨none, "n", [], []⟩, .named "Int" true, "Query", [], none⟩

/-- What the operation selects, with no fragment to spread. -/
def selections : List Resolved :=
  resolveAll document.fragmentTable document.fragmentTable operation.selections

theorem occurs : occurrences schema query selections = .ok [occurrenceAB, occurrenceA] := by cbv

/-- Both fields get the class. -/
theorem leafName : registry.leafName (occurrenceAB.wanted "Q") query.name = "Q_AB"
    ∧ registry.leafName (occurrenceA.wanted "Q") query.name = "Q_AB" := by
  have first : occurrenceAB.wanted "Q" = "Q_AB" := by cbv
  have second : occurrenceA.wanted "Q" = "Q_AB" := by cbv
  rw [first, second]
  exact ⟨rfl, rfl⟩

theorem takes_root : Takes schema document registry "Q" query selections :=
  .root (c := root) List.mem_cons_self rfl rfl rfl rfl

theorem takes_shared : Takes schema document registry "Q_AB" query [.leaf ⟨none, "n", [], []⟩] := by
  have registered : registry.find? (registry.leafName (occurrenceAB.wanted "Q") query.name)
      = some (.leaf shared) := by
    rw [leafName.1]
    rfl
  rw [← leafName.1]
  exact .under takes_root occurs List.mem_cons_self rfl rfl (by decide) rfl registered rfl

/-- An accessor with one path that every type has converts as the occurrence that it comes from. -/
theorem converts_single {className t name : String} {path : Path} {o : Occurrence}
    (always : (FieldAccess.fresh name [path]).dispatch schema = .ok (.always path.expression))
    (stems : Stems schema document registry className o) (notTypename : ¬ o.isTypename)
    (of : PathOf schema registry className o path) :
    ConvertsAs schema document registry className (.fresh name [path]) t o := by
  refine ⟨_, path, always, rfl, List.mem_singleton.2 rfl, ?_, stems, notTypename, of⟩
  intro compatible
  obtain ⟨p, hp, compatible⟩ := compatible
  rwa [← List.mem_singleton.1 hp]

theorem converts_a : ConvertsAs schema document registry "Q" accessorA "Query" occurrenceA := by
  have always : accessorA.dispatch schema = .ok (.always "return Q_AB(self.raw_result[\"a\"])") := by cbv
  have stems : Stems schema document registry "Q" occurrenceA :=
    ⟨query, _, _, takes_root, occurs, List.mem_cons_of_mem _ List.mem_cons_self⟩
  have wraps : occurrenceA.Wraps (classOutput "Q_AB")
      ⟨"Q_AB", "return Q_AB(self.raw_result[\"a\"])", some "Q_AB"⟩ := ⟨by cbv, by cbv, rfl⟩
  refine converts_single always stems (by decide) ⟨by cbv, rfl, rfl, _, _, wraps, rfl, rfl, ?_⟩
  intro t known composite
  cases known
  rw [leafName.2]

theorem converts_n : ConvertsAs schema document registry "Q_AB" accessorN "Query" occurrenceN := by
  have always : accessorN.dispatch schema
      = .ok (.always "return cast(int, self.raw_result[\"n\"])") := by cbv
  have stems : Stems schema document registry "Q_AB" occurrenceN :=
    ⟨query, _, [occurrenceN], takes_shared, by cbv, List.mem_cons_self⟩
  have wraps : occurrenceN.Wraps ⟨"int", "cast(int, $raw_value)", none⟩
      ⟨"int", "return cast(int, self.raw_result[\"n\"])", none⟩ := ⟨by cbv, by cbv, rfl⟩
  refine converts_single always stems (by decide) ⟨by cbv, rfl, rfl, _, _, wraps, rfl, rfl, ?_⟩
  intro t known composite
  cases known
  cases composite

/-- The field with the alias, which selects no `n`. -/
def aliased : List SelectedField :=
  [⟨⟨some "a", "b", [], []⟩, some [.leaf ⟨some "m", "n", [], []⟩]⟩]

theorem wrapped : Wrapped schema document registry (fun _ => false) operation [("Query", "a")] "Q_AB"
    query (mergedBelow aliased) [("m", .int 1)] := by
  have outer : Wrapped schema document registry (fun _ => false) operation [] "Q" query
      operation.selections _ := .root List.mem_cons_self rfl rfl answers
  have group : (occurrenceA.key, aliased) ∈ collectFields schema document.fragmentTable
      (fun _ => false) query.name operation.selections := by
    have none_ : document.fragmentTable = [] := rfl
    rw [none_, collects]
    exact List.mem_cons_of_mem _ List.mem_cons_self
  have holds : Holds schema document.fragmentTable (fun _ => false) (.named "Query" true)
      (mergedBelow aliased) (.obj [("m", .int 1)]) query [("m", .int 1)] :=
    .self possible (answers_leaf (some "m"))
  have accessor : .field accessorA ∈ root.methods := List.mem_cons_of_mem _ List.mem_cons_self
  rw [← leafName.2]
  exact .under (c := .root root details) outer rfl accessor converts_a rfl rfl group
    (List.mem_cons_of_mem _ List.mem_cons_self) List.mem_cons_self rfl holds

end SharedClass

section

open SharedClass

/-- An accessor that one field gives a class may read a key that an object of the other field lacks. -/
theorem guaranteed_access_shared_class :
    schema.Valid ∧ declare schema "query Q{a_b{n}a:b{m:n}}" "q.graphql" = .ok SharedClass.declaration
      ∧ accessorN.guaranteed schema = .ok true
      ∧ GuaranteedAccess schema document registry operation [("Query", "a")] "Q_AB" accessorN "Query"
        [("m", .int 1)]
      ∧ ConvertsAs schema document registry "Q_AB" accessorN "Query" occurrenceN
      ∧ occurrenceN.key ∉ [("m", Json.int 1)].map Prod.fst := by
  have valid : setup.schema.Valid := by decide
  have undirected : SharedClass.declaration.document.Undirected := ⟨by decide, by decide⟩
  have guaranteed : accessorN.guaranteed schema = .ok true := by cbv
  have written : accessorN.body schema = .ok "return cast(int, self.raw_result[\"n\"])" := by cbv
  have accessor : .field accessorN ∈ shared.methods := List.mem_cons_self
  have access := @guaranteed_access setup _ _ _ _ _ SharedClass.declaration _ _ generator _ _ _ _
    (.leaf shared) _ valid SharedClass.declared undirected SharedClass.ends SharedClass.wrapped rfl
    accessor guaranteed written
  exact ⟨valid, SharedClass.declared, guaranteed, access, SharedClass.converts_n, by decide⟩

end

end OperationClasses
