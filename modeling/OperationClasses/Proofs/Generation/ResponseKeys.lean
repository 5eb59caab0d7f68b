/-
Module: OperationClasses.Proofs.Generation.ResponseKeys
Purpose: When an accessor of a class stands for more than one response key.
Main exports: Feeds, AccessorKeys, accessor_keys
-/
import OperationClasses.Proofs.Generation.SharedNames

namespace OperationClasses

variable {s : Schema} {ds : List Document} {r : Registry} {g : Generator}

/-- An occurrence of a field, in a selection set that a class is for in one of the documents, gives a path to
    an accessor of the class. -/
def Feeds (s : Schema) (ds : List Document) (r : Registry) (className : String) (a : FieldAccess)
    (o : Occurrence) : Prop :=
  (∃ d ∈ ds, Stems s d r className o) ∧ ¬ o.isTypename ∧ ∃ path ∈ a.paths, PathOf s r className o path

/-- A class is for a selection set of one of the documents, which has an occurrence of a field with an
    accessor name. -/
def Carries (s : Schema) (ds : List Document) (r : Registry) (className accessor : String)
    (set : TypeDefinition × List Resolved) (o : Occurrence) : Prop :=
  (∃ d ∈ ds, Takes s d r className set.1 set.2)
    ∧ (∃ os, occurrences s set.1 set.2 = .ok os ∧ o ∈ os) ∧ ¬ o.isTypename
    ∧ Naming.accessorName o.key = .ok accessor

/-- Which response keys an accessor of a class stands for. -/
structure AccessorKeys (s : Schema) (ds : List Document) (r : Registry) (className : String)
    (a : FieldAccess) : Prop where
  /-- its paths are those of occurrences with its name -/
  fed : ∀ path ∈ a.paths, ∃ o, Feeds s ds r className a o ∧ PathOf s r className o path
  /-- all occurrences with its name in the selection sets that the class is for feed it, and no others -/
  feeds_iff : ∀ o, Feeds s ds r className a o ↔ ∃ set, Carries s ds r className a.name set o
  /-- in one selection set, all that have its name have the same response key -/
  agree : ∀ set o o', Carries s ds r className a.name set o → Carries s ds r className a.name set o' →
    o.key = o'.key
  /-- so two response keys feed it exactly if two of the selection sets have its name for different ones -/
  clash_iff : (∃ o o', Feeds s ds r className a o ∧ Feeds s ds r className a o' ∧ o.key ≠ o'.key)
    ↔ ∃ set set' o o', set ≠ set' ∧ Carries s ds r className a.name set o
      ∧ Carries s ds r className a.name set' o' ∧ o.key ≠ o'.key

namespace Generator.Ran

variable {c : ClassDefinition} {a : FieldAccess} {o o' : Occurrence}

/-- An accessor that a run makes has a name, and its paths come from occurrences with that name. -/
theorem feeds_of_path (ran : g.Ran s ds) (registered : c ∈ g.progress.registry.classes)
    (accessor : .field a ∈ c.methods) :
    ∀ path ∈ a.paths, path.name = a.name
      ∧ ∃ o, Feeds s ds g.progress.registry c.name a o ∧ PathOf s g.progress.registry c.name o path := by
  intro path hpath
  have made := ran.made .refl c registered _ accessor
  cases made with
  | field some_ all =>
    obtain ⟨sameName, d, hd, o, stems, notTypename, of⟩ := all path hpath
    exact ⟨sameName, o, ⟨⟨d, hd, stems⟩, notTypename, path, hpath, of⟩, of⟩

/-- The occurrences that feed an accessor of a class are those with its name in the selection sets that the
    class is for. -/
theorem feeds_iff (ran : g.Ran s ds) (registered : c ∈ g.progress.registry.classes)
    (accessor : .field a ∈ c.methods) :
    Feeds s ds g.progress.registry c.name a o
      ↔ ∃ set, Carries s ds g.progress.registry c.name a.name set o := by
  constructor
  · intro feeds
    obtain ⟨⟨d, hd, owner, selections, os, takes, occurs, mem⟩, notTypename, path, hpath, of⟩ := feeds
    obtain ⟨sameName, -⟩ := ran.feeds_of_path registered accessor path hpath
    refine ⟨(owner, selections), ⟨d, hd, takes⟩, ⟨os, occurs, mem⟩, notTypename, ?_⟩
    rw [← sameName]
    exact of.name
  · intro carries
    obtain ⟨⟨owner, selections⟩, ⟨d, hd, takes⟩, ⟨os, occurs, mem⟩, notTypename, named⟩ := carries
    obtain ⟨all, read⟩ := takes.readFor (ran.operationsRead .refl hd) occurs
    obtain ⟨c', a', path, found, accessor', named', hpath, of⟩ := read.contributes mem notTypename
    rw [Registry.find?_of_mem registered] at found
    cases found
    rw [named] at named'
    have same : Method.field a = .field a' :=
      (ran.distinct c registered).eq_of_name accessor accessor' (Except.ok.inj named')
    cases same
    exact ⟨⟨d, hd, owner, selections, os, takes, occurs, mem⟩, notTypename, path, hpath, of⟩

/-- In one selection set, one accessor name stands for one response key. -/
theorem key_eq (ran : g.Ran s ds) {className accessor : String} {set : TypeDefinition × List Resolved}
    (carries : Carries s ds g.progress.registry className accessor set o)
    (carries' : Carries s ds g.progress.registry className accessor set o') : o.key = o'.key := by
  obtain ⟨⟨d, hd, takes⟩, ⟨os, occurs, mem⟩, -, named⟩ := carries
  obtain ⟨-, ⟨os', occurs', mem'⟩, -, named'⟩ := carries'
  rw [occurs] at occurs'
  cases occurs'
  obtain ⟨all, read⟩ := takes.readFor (ran.operationsRead .refl hd) occurs
  exact read.key_eq mem mem' (named.trans named'.symm)

/-- No two response keys of a selection set share an accessor name in a document that was generated. -/
theorem not_collides (ran : g.Ran s ds) {d : Document} (mem : d ∈ ds) {owner : TypeDefinition}
    {selections : List Resolved} {first second accessor : String}
    (selectionSet : SelectionSetOf s d owner selections) :
    ¬ Collides s owner selections first second accessor := by
  intro collides
  obtain ⟨differ, os, occurs, ⟨o, ho, rfl, named⟩, o', ho', rfl, named'⟩ := collides
  obtain ⟨className, all, read⟩ := selectionSet.readFor (ran.operationsRead .refl mem) occurs
  exact differ (read.key_eq ho ho' (named.trans named'.symm))

/-- What is refused for response keys that share an accessor name has them in one selection set. -/
theorem collides_of_refused (ran : g.Ran s ds) {d : Document} {g' : Generator}
    {first second className accessor : String}
    (refused : g.generate d = (.error (.naming (.sharedAccessor first second className accessor)), g')) :
    ∃ owner selections, SelectionSetOf s d owner selections
      ∧ Collides s owner selections first second accessor := by
  rw [Generator.generate, Generator.run] at refused
  rcases runs : (generateDocument g.settings d).run.run g.progress with ⟨result, progress⟩
  rw [runs] at refused
  cases refused
  rw [← ran.schema]
  exact generateDocument_blames _ _ _ runs first second className accessor rfl

end Generator.Ran

/-- After documents were generated, each of their selection sets has one response key for an accessor name,
    and a document that is refused for two of them has both in one selection set. Across the selection sets
    that a class is for nothing is compared: an accessor stands for all response keys with its name in
    them. -/
theorem accessor_keys (ran : g.Ran s ds) :
    (∀ d ∈ ds, ∀ owner selections, SelectionSetOf s d owner selections →
      ∀ first second accessor, ¬ Collides s owner selections first second accessor)
    ∧ (∀ d g' first second className accessor,
      g.generate d = (.error (.naming (.sharedAccessor first second className accessor)), g') →
        ∃ owner selections, SelectionSetOf s d owner selections
          ∧ Collides s owner selections first second accessor)
    ∧ ∀ c ∈ g.progress.registry.classes, ∀ a, .field a ∈ c.methods →
      AccessorKeys s ds g.progress.registry c.name a := by
  refine ⟨fun d mem owner selections selectionSet first second accessor => ran.not_collides mem selectionSet,
    fun d g' first second className accessor refused => ran.collides_of_refused refused,
    fun c registered a accessor => ?_⟩
  have feeds_iff := fun o => ran.feeds_iff (o := o) registered accessor
  constructor
  · exact fun path hpath => (ran.feeds_of_path registered accessor path hpath).2
  · exact feeds_iff
  · exact fun set o o' carries carries' => ran.key_eq carries carries'
  · constructor
    · intro clash
      obtain ⟨o, o', feeds, feeds', differ⟩ := clash
      obtain ⟨set, carries⟩ := (feeds_iff o).1 feeds
      obtain ⟨set', carries'⟩ := (feeds_iff o').1 feeds'
      refine ⟨set, set', o, o', fun same => ?_, carries, carries', differ⟩
      subst same
      exact differ (ran.key_eq carries carries')
    · intro clash
      obtain ⟨set, set', o, o', -, carries, carries', differ⟩ := clash
      exact ⟨o, o', (feeds_iff o).2 ⟨set, carries⟩, (feeds_iff o').2 ⟨set', carries'⟩, differ⟩

/-! ### A field that is selected twice -/

namespace TwoKeys

def query : TypeDefinition := ⟨"Query", [], .object []
  [⟨"viewer", [], .named "Query" true, []⟩, ⟨"n", [], .named "Int" true, []⟩]⟩

def schema : Schema := ⟨[query, ⟨"Int", [], .scalar⟩], [], some "Query", none, none⟩

/-- What the field selects with a key for its number. -/
def inner (key : String) : List Resolved := [.leaf ⟨some key, "n", [], []⟩]

def operation : Operation := ⟨none, .query, some "Q", [], [],
  [.nested ⟨none, "viewer", [], []⟩ [.leaf ⟨some "fooBar", "n", [], []⟩],
    .nested ⟨none, "viewer", [], []⟩ [.leaf ⟨some "foo_bar", "n", [], []⟩]]⟩

def document : Document := ⟨[.operation operation]⟩

def number (key : String) : Occurrence := ⟨⟨some key, "n", [], []⟩, .named "Int" true, "Query", [], none⟩

def viewer (key : String) : Occurrence :=
  ⟨⟨none, "viewer", [], []⟩, .named "Query" true, "Query", [], some (inner key)⟩

def accessor : FieldAccess := .fresh "foo_bar"
  [⟨"foo_bar", "int", "return cast(int, self.raw_result[\"fooBar\"])", "Query", []⟩,
    ⟨"foo_bar", "int", "return cast(int, self.raw_result[\"foo_bar\"])", "Query", []⟩]

def leaf : ObjectClass := ⟨"Q_Viewer", "Query", ["Query"], [.field accessor], []⟩

def root : ObjectClass := ⟨"Q", "Query", ["Query"], [.field (.fresh "viewer"
  [⟨"viewer", "Q_Viewer", "return Q_Viewer(self.raw_result[\"viewer\"])", "Query", []⟩,
    ⟨"viewer", "Q_Viewer", "return Q_Viewer(self.raw_result[\"viewer\"])", "Query", []⟩])],
  ["Q_Viewer", "Q_Viewer"]⟩

def details : OperationDetails :=
  ⟨"Q", "query", printDocument operation (usedFragments document.fragmentTable operation.selections), []⟩

def registry : Registry := ⟨[.leaf leaf, .root root details], by decide⟩

def generator : Generator := ⟨⟨schema, .empty none, false⟩, registry, [], [], ∅⟩

theorem ran : generator.Ran schema [document] := by
  have ends : (Generator.start ⟨schema, .empty none, false⟩).generate document
      = (.ok [.root root details], generator) := by
    refine (generate_one_iff (o := operation) rfl).2 ⟨rfl, ?_⟩
    rw [generateOperation]
    dsimp only [generator, registry, details]
    -- the classes are the same whatever text is sent
    generalize printDocument operation _ = sent
    cbv
  exact .generate (.start rfl) ends

/-- What the operation selects, with no fragment to spread. -/
def selections : List Resolved :=
  resolveAll document.fragmentTable document.fragmentTable operation.selections

theorem occurs : occurrences schema query selections = .ok [viewer "fooBar", viewer "foo_bar"] := by cbv

theorem takes (key : String) (mem : viewer key ∈ [viewer "fooBar", viewer "foo_bar"]) :
    Takes schema document registry "Q_Viewer" query (inner key) := by
  have outer : Takes schema document registry "Q" query selections :=
    .root (c := root) List.mem_cons_self rfl rfl rfl rfl
  have suffix : (viewer key).suffix = "Viewer" := by cbv
  have named : registry.leafName ((viewer key).wanted "Q") query.name = "Q_Viewer" := by
    rw [Occurrence.wanted, suffix]
    rfl
  have registered : registry.find? (registry.leafName ((viewer key).wanted "Q") query.name)
      = some (.leaf leaf) := by
    rw [named]
    rfl
  rw [← named]
  exact .under outer occurs mem rfl rfl (by simp [Occurrence.isTypename, viewer, typenameField]) rfl
    registered rfl

end TwoKeys

section

open TwoKeys

/-- The selection sets of a field that is selected twice may have different response keys for an accessor,
    which then reads only one of them. -/
theorem accessor_keys_field_selected_twice :
    generator.Ran schema [document] ∧ .field accessor ∈ leaf.methods
      ∧ Feeds schema [document] registry "Q_Viewer" accessor (number "fooBar")
      ∧ Feeds schema [document] registry "Q_Viewer" accessor (number "foo_bar")
      ∧ accessor.body schema = .ok "return cast(int, self.raw_result[\"fooBar\"])" := by
  have isAccessor : .field accessor ∈ leaf.methods := List.mem_cons_self
  have keys := (accessor_keys TwoKeys.ran).2.2 (.leaf leaf) List.mem_cons_self accessor isAccessor
  have feeds : ∀ key, viewer key ∈ [viewer "fooBar", viewer "foo_bar"] →
      Naming.accessorName key = .ok "foo_bar" →
      Feeds schema [document] registry "Q_Viewer" accessor (number key) := by
    intro key mem named
    have carries : Carries schema [document] registry "Q_Viewer" "foo_bar" (query, inner key) (number key) :=
      ⟨⟨document, List.mem_cons_self, TwoKeys.takes key mem⟩, ⟨_, rfl, List.mem_cons_self⟩,
        by simp [Occurrence.isTypename, number, typenameField], named⟩
    exact (keys.feeds_iff _).2 ⟨_, carries⟩
  refine ⟨TwoKeys.ran, isAccessor, feeds "fooBar" List.mem_cons_self (by cbv), ?_, by cbv⟩
  exact feeds "foo_bar" (List.mem_cons_of_mem _ List.mem_cons_self) (by cbv)

end

end OperationClasses
