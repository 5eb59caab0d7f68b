/-
Module: OperationClasses.Proofs.Generation.Coverage
Purpose: An accessor is guaranteed by the object types that its occurrences apply to, whatever the directives on them
  leave out.
Main exports: Serves, Coverage, Generator.Ran.guaranteed_by_types
-/
import OperationClasses.Proofs.Generation.Directives
import OperationClasses.Proofs.Generation.Representation
import OperationClasses.Proofs.Generation.ResponseKeys
import OperationClasses.Proofs.Generation.Wrapping

namespace OperationClasses

variable {s : Schema} {ds : List Document} {g : Generator}

/-! ### Object types with a field -/

/-- An object type that is possible for a class has the field of an accessor: one of the occurrences that feed the
    accessor stands in fragments that all apply to the type. -/
def Serves (s : Schema) (ds : List Document) (r : Registry) (c : ObjectClass) (a : FieldAccess) (t : String) :
    Prop :=
  Possible s c.typeName t ∧ ∃ o, Feeds s ds r c.name a o ∧ o.AppliesTo s t

/-- What an accessor of a class comes to, by the object types that have its field. -/
structure Coverage (s : Schema) (ds : List Document) (r : Registry) (c : ObjectClass) (a : FieldAccess) :
    Prop where
  /-- it is guaranteed exactly if some type has the field and all possible types of the class do -/
  guaranteed : ∃ guaranteed, a.guaranteed s = .ok guaranteed
    ∧ (guaranteed = true ↔ (∃ t, Serves s ds r c a t) ∧ ∀ t, Possible s c.typeName t → Serves s ds r c a t)
  /-- if it is not guaranteed, its signature says that it may have no value -/
  signature : ∃ signature, a.signature s = .ok signature
    ∧ (a.guaranteed s = .ok false → signature = "None" ∨ ∃ value, signature = "Optional[" ++ value ++ "]")
  /-- its body reads the key of an occurrence that applies to the type and, if it is not guaranteed, nothing for
      types that do not have the field -/
  body : ∀ text, a.body s = .ok text → ∃ body, text = bodyText body
    ∧ (∀ t, Serves s ds r c a t → ∃ o path, Feeds s ds r c.name a o ∧ o.AppliesTo s t
      ∧ PathOf s r c.name o path ∧ Statement.runAll t false body = some (.converts path.expression))
    ∧ (a.guaranteed s = .ok false → ∀ t, ¬ Serves s ds r c a t →
      Statement.runAll t false body = some .nothing)

/-! ### Accessors of a run -/

/-- What an accessor has no value for is in its signature. -/
theorem FieldAccess.signatureOf_false (paths : List TypedPath) :
    signatureOf paths false = "None" ∨ ∃ value, signatureOf paths false = "Optional[" ++ value ++ "]" := by
  unfold signatureOf
  by_cases none_ : paths.isEmpty
  · exact Or.inl (if_pos none_)
  · exact Or.inr ⟨_, if_neg none_⟩

namespace Generator.Ran

variable {x : ClassDefinition} {c : ObjectClass} {a : FieldAccess} {t : String}

/-- The paths of an accessor of accepted documents lead through composite types. -/
theorem composites (ran : g.Ran s ds) (valid : s.Valid) (accepted : ∀ d ∈ ds, Accepted s d)
    (registered : x ∈ g.progress.registry.classes) (accessor : .field a ∈ x.methods) :
    ∀ path ∈ a.paths, ∀ condition ∈ path.chain, ∃ t, s.find? condition = some t ∧ t.body.isComposite := by
  intro path hpath
  have made := ran.made .refl x registered _ accessor
  cases made with
  | field some_ all =>
    obtain ⟨-, d, hd, traced⟩ := all path hpath
    obtain ⟨_, _, _, _, composites⟩ := traced.chain (accepted d hd).faultless valid
    exact composites

/-- A type has the field of an accessor exactly if one of the paths admits it. -/
theorem serves_iff (ran : g.Ran s ds) (valid : s.Valid) (accepted : ∀ d ∈ ds, Accepted s d)
    (registered : x ∈ g.progress.registry.classes) (is : x.object? = some c) (accessor : .field a ∈ c.methods) :
    Serves s ds g.progress.registry c a t ↔ ∃ path ∈ a.paths, path.Compatible s t := by
  obtain ⟨sameName, sameMethods⟩ := ClassDefinition.eq_of_object? is
  have rooted := (ran.reached.wellFormed.2 x registered c is).accessors.rooted _ accessor a rfl
  rw [← sameMethods] at accessor
  constructor
  · intro serves
    obtain ⟨possible, o, ⟨-, -, path, hpath, of⟩, applies⟩ := serves
    obtain ⟨types, compatible⟩ :=
      Path.compatible_of_composite (ran.composites valid accepted registered accessor path hpath)
    refine ⟨path, hpath, types, compatible, (Path.mem_compatible compatible).2 ⟨?_, ?_⟩⟩
    · rwa [rooted.rooted path hpath]
    · rwa [of.conditions]
  · intro admitted
    obtain ⟨path, hpath, compatible⟩ := admitted
    obtain ⟨-, o, feeds, of⟩ := ran.feeds_of_path registered accessor path hpath
    rw [sameName] at feeds
    refine ⟨?_, o, feeds, of.applies compatible⟩
    rw [← rooted.rooted path hpath]
    exact compatible.possible

/-- An accessor of a class of accepted documents is decided by the types that have its field. -/
theorem coverage (ran : g.Ran s ds) (valid : s.Valid) (accepted : ∀ d ∈ ds, Accepted s d)
    (registered : x ∈ g.progress.registry.classes) (is : x.object? = some c) (accessor : .field a ∈ c.methods) :
    Coverage s ds g.progress.registry c a := by
  have serves := fun t => ran.serves_iff (t := t) valid accepted registered is accessor
  obtain ⟨some_, -, rooted, kept⟩ :=
    (ran.reached.wellFormed.2 x registered c is).accessors.rooted _ accessor a rfl
  obtain ⟨sameName, sameMethods⟩ := ClassDefinition.eq_of_object? is
  rw [← sameMethods] at accessor
  obtain ⟨surviving, reduced⟩ :=
    FieldAccess.reduced_of_composite (ran.composites valid accepted registered accessor)
  have survives := fun t => (serves t).trans (FieldAccess.compatible_iff_mem_reduced reduced)
  obtain ⟨guaranteed, told, covers⟩ := FieldAccess.guaranteed_iff kept rooted reduced
  have some_iff : surviving ≠ [] ↔ ∃ t, Serves s ds g.progress.registry c a t := by
    constructor
    · intro some_path
      obtain ⟨p, hp⟩ := List.exists_mem_of_ne_nil _ some_path
      obtain ⟨-, -, t, ht⟩ := FieldAccess.mem_of_mem_reduced reduced hp
      exact ⟨t, (survives t).2 ⟨p, hp, ht⟩⟩
    · intro some_type
      obtain ⟨t, some_type⟩ := some_type
      obtain ⟨p, hp, -⟩ := (survives t).1 some_type
      exact List.ne_nil_of_mem hp
  constructor
  · refine ⟨guaranteed, told, ?_⟩
    simp only [covers, some_iff, survives]
  · refine ⟨FieldAccess.signatureOf surviving guaranteed, FieldAccess.signature_eq_ok reduced told, ?_⟩
    intro open_
    rw [told] at open_
    cases open_
    exact FieldAccess.signatureOf_false surviving
  · intro text written
    obtain ⟨choice, -, spelled, served, unserved⟩ := FieldAccess.written_runs reduced told written
    refine ⟨choice.statements a.name, ?_, ?_, ?_⟩
    · rw [spelled, Dispatch.bodyText_statements]
    · intro t type
      obtain ⟨p, hp, ht⟩ := (survives t).1 type
      obtain ⟨hpath, compatible, -⟩ := FieldAccess.mem_of_mem_reduced reduced hp
      obtain ⟨-, o, feeds, of⟩ := ran.feeds_of_path registered accessor p.path hpath
      rw [sameName] at feeds of
      refine ⟨o, p.path, feeds, of.applies ⟨p.types, compatible, ht⟩, of, ?_⟩
      rw [Dispatch.runAll_statements, served p hp t ht]
    · intro open_ t type
      rw [told] at open_
      rw [Dispatch.runAll_statements, unserved t (fun some_path => type ((survives t).2 some_path))
        (Or.inr (Except.ok.inj open_))]

/-- **Accessors are guaranteed by types.** For a valid schema and accepted documents, the directives of selections play
    no part: without them the documents lead to the same classes up to the texts that are sent. What an accessor
    comes to is decided by the object types that have its field. -/
theorem guaranteed_by_types (ran : g.Ran s ds) (valid : s.Valid) (accepted : ∀ d ∈ ds, Accepted s d) :
    (∃ g₀, Ran s (ds.map Document.bare) g₀ ∧ g₀.unsent = g.unsent)
      ∧ ∀ x ∈ g.progress.registry.classes, ∀ c, x.object? = some c → ∀ a, .field a ∈ c.methods →
        Coverage s ds g.progress.registry c a :=
  ⟨ran.bare, fun _ registered _ is _ accessor => ran.coverage valid accepted registered is accessor⟩

end Generator.Ran

/-! ### A field that is left out -/

namespace Included

def query : TypeDefinition := ⟨"Query", [], .object [] [⟨"n", [], .named "Int" true, []⟩]⟩

def schema : Schema := ⟨[query, ⟨"Int", [], .scalar⟩, ⟨"String", [], .scalar⟩, ⟨"Boolean", [], .scalar⟩,
  ⟨"__Schema", [], .object [] []⟩, ⟨"__Type", [], .object [] []⟩], standardDirectives, some "Query", none, none⟩

def setup : Settings := ⟨schema, .empty none, false⟩

/-- The field is selected only if the variable is true. -/
def operation : Operation := ⟨none, .query, some "Q", [⟨none, "c", .named "Boolean" true, none, []⟩], [],
  [.leaf ⟨none, "n", [], [⟨"include", [⟨"if", .variable "c"⟩]⟩]⟩]⟩

def document : Document := ⟨[.operation operation]⟩

def declaration : Declaration := ⟨document, "query Q($c:Boolean!){n@include(if:$c)}", "q.graphql"⟩

def accessor : FieldAccess :=
  .fresh "n" [⟨"n", "int", "return cast(int, self.raw_result[\"n\"])", "Query", []⟩]

def root : ObjectClass := ⟨"Q", "Query", ["Query"], [.field accessor], []⟩

def details : OperationDetails :=
  ⟨"Q", "query", printDocument operation (usedFragments document.fragmentTable operation.selections),
    [⟨"c", "c", "bool", "c", none⟩]⟩

def registry : Registry := ⟨[.root root details], by decide⟩

def generator : Generator := ⟨setup, registry, [], [], ∅⟩

theorem scanned : Token.scan "query Q($c:Boolean!){n@include(if:$c)}" = some [.name "query", .name "Q",
    .punctuation '(', .punctuation '$', .name "c", .punctuation ':', .name "Boolean", .punctuation '!',
    .punctuation ')', .punctuation '\x7b', .name "n", .punctuation '@', .name "include", .punctuation '(',
    .name "if", .punctuation ':', .punctuation '$', .name "c", .punctuation ')', .punctuation '\x7d'] := by
  decide +kernel

theorem declared : declare schema "query Q($c:Boolean!){n@include(if:$c)}" "q.graphql" = .ok declaration := by
  rw [declare, Document.read, scanned]
  cbv

theorem ends : (Generator.start setup).generate document = (.ok [.root root details], generator) := by
  refine (generate_one_iff (o := operation) rfl).2 ⟨rfl, ?_⟩
  rw [generateOperation]
  dsimp only [generator, registry, details]
  -- the classes are the same whatever text is sent
  generalize printDocument operation _ = sent
  cbv

theorem ran : generator.Ran schema [document] := .generate (.start rfl) ends

/-- Without the variable nothing is asked for. -/
theorem collects : collectFields schema [] (fun _ => false) query.name operation.selections = [] := by cbv

theorem answers : Answers schema [] (fun _ => false) query operation.selections [] := by
  apply Answers.object rfl rfl
  · intro key
    rw [responseKeys, collects]
    rfl
  · intro key fields value f type group
    rw [collects] at group
    exact absurd group List.not_mem_nil
  · intro key fields value f group
    rw [collects] at group
    exact absurd group List.not_mem_nil

end Included

/-- The field that is left out has an accessor that is guaranteed like the same field without a directive. -/
theorem guaranteed_by_types_included :
    Included.generator.Ran Included.schema [Included.document] ∧ Included.schema.Valid
      ∧ (∀ d ∈ [Included.document], Accepted Included.schema d)
      ∧ (∃ g₀ : Generator, g₀.Ran Included.schema [Included.document.bare] ∧ g₀.unsent = Included.generator.unsent)
      ∧ Coverage Included.schema [Included.document] Included.registry Included.root Included.accessor := by
  have valid : Included.schema.Valid := by decide
  have accepted : ∀ d ∈ [Included.document], Accepted Included.schema d := by
    intro d hd
    cases List.mem_singleton.1 hd
    exact ⟨_, _, Included.declaration, Included.declared, rfl⟩
  obtain ⟨bare, coverage⟩ := Included.ran.guaranteed_by_types valid accepted
  refine ⟨Included.ran, valid, accepted, bare, ?_⟩
  exact coverage _ List.mem_cons_self Included.root rfl Included.accessor List.mem_cons_self

/-- A response without a field that is left out is legal, but the accessor of the field is guaranteed and reads its
    key. -/
theorem included_field_guaranteed :
    Included.schema.Valid
      ∧ declare Included.schema "query Q($c:Boolean!){n@include(if:$c)}" "q.graphql" = .ok Included.declaration
      ∧ (Generator.start Included.setup).generate Included.document
        = (.ok [.root Included.root Included.details], Included.generator)
      ∧ .field Included.accessor ∈ Included.root.methods
      ∧ Answers Included.schema Included.document.fragmentTable (fun _ => false) Included.query
        Included.operation.selections []
      ∧ Included.accessor.guaranteed Included.schema = .ok true
      ∧ Included.accessor.signature Included.schema = .ok "int"
      ∧ Included.accessor.body Included.schema = .ok "return cast(int, self.raw_result[\"n\"])" := by
  refine ⟨by decide, Included.declared, Included.ends, List.mem_cons_self, Included.answers, ?_, ?_, ?_⟩
  · cbv
  · cbv
  · cbv

end OperationClasses
