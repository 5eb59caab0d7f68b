/-
Module: OperationClasses.Proofs.Generation.Contribution
Purpose: Every occurrence in a selection set that a class is for has its path in the accessor of the class.
Main exports: Generator.Ran, Generator.Ran.induction, Distinct, SelectionSetOf, ReadFor, Takes.readFor,
  SelectionSetOf.readFor, ReadFor.accessor, ReadFor.contributes, Generator.Ran.made, Generator.Ran.distinct
-/
import OperationClasses.Proofs.Generation.Breaches
import OperationClasses.Proofs.Generation.Retention

namespace OperationClasses

variable {settings : Settings} {s : Schema} {d : Document} {r : Registry} {p q : Progress}

/-! ### Runs -/

/-- A generator for a schema that has generated the classes of documents, one after the other, none of them
    failing. Its scalars may be bound anew between them. -/
inductive Generator.Ran (s : Schema) : List Document → Generator → Prop where
  | start {settings : Settings} (schema : settings.schema = s) : Generator.Ran s [] (.start settings)
  | bind {ds : List Document} {g : Generator} {scalars : ScalarTable} (before : Generator.Ran s ds g) :
      Generator.Ran s ds { g with settings := { g.settings with scalars := scalars } }
  | generate {ds : List Document} {d : Document} {g g' : Generator} {cs : List ClassDefinition}
      (before : Generator.Ran s ds g) (ends : g.generate d = (.ok cs, g')) : Generator.Ran s (ds ++ [d]) g'

namespace Generator

variable {g g' : Generator} {ds : List Document} {cs : List ClassDefinition}

theorem generate_yields (h : g.generate d = (.ok cs, g')) :
    g'.settings = g.settings ∧ Yields (generateDocument g.settings d) g.progress cs g'.progress := by
  rw [generate, run] at h
  rcases runs : (generateDocument g.settings d).run.run g.progress with ⟨result, progress⟩
  rw [runs] at h
  cases h
  exact ⟨rfl, runs⟩

theorem Ran.schema (h : g.Ran s ds) : g.settings.schema = s := by
  induction h with
  | start schema => exact schema
  | bind _ ih => exact ih
  | generate _ ends ih =>
    rw [(generate_yields ends).1]
    exact ih

/-- What holds at first, and after each operation of the documents if it held before it, holds in the end. -/
theorem Ran.induction {I : Progress → Prop} (h : g.Ran s ds) (start : I .start)
    (step : ∀ d ∈ ds, ∀ o ∈ d.operations,
      ∀ {settings : Settings} {p c details all occurrences owner between before registry}, settings.schema = s →
        Generates settings d.fragmentTable o p c details all occurrences owner between before registry →
          I p → I { before with registry := registry }) : I g.progress := by
  induction h with
  | start => exact start
  | bind _ ih => exact ih step
  | @generate ds d g g' cs before ends ih =>
    obtain ⟨-, reads⟩ := generate_yields ends
    have last := step d (List.mem_append_right _ List.mem_cons_self)
    exact generateOperations_induction reads (fun o ho => last o ho before.schema)
      (ih fun d' hd' => step d' (List.mem_append_left _ hd'))

end Generator

/-! ### Accessor names -/

/-- Accessors with different names. -/
def Distinct (methods : List Method) : Prop := (methods.map (·.name)).Nodup

namespace Distinct

variable {methods : List Method} {m m' : Method}

theorem eq_of_name (h : Distinct methods) (hm : m ∈ methods) (hm' : m' ∈ methods)
    (same : m.name = m'.name) : m = m' := List.inj_on_of_nodup_map h hm hm' same

/-- A new accessor under a free name. -/
theorem concat (h : Distinct methods) (free : Method.find? methods m.name = none) :
    Distinct (methods ++ [m]) := by
  rw [Distinct, List.map_append, List.nodup_append]
  refine ⟨h, by simp, fun name found other last => ?_⟩
  rintro rfl
  obtain ⟨x, hx, named⟩ := List.mem_map.1 found
  have differs := List.find?_eq_none.1 free x hx
  simp only [List.map_cons, List.map_nil, List.mem_singleton] at last
  exact differs (beq_iff_eq.2 (named.trans last))

/-- An accessor in the place of the one of its name. -/
theorem put {existing merged : Method} (h : Distinct methods)
    (found : Method.find? methods m.name = some existing)
    (merges : existing.merge m = .ok (some merged)) : Distinct (Method.put merged methods) := by
  have same := (Method.merge_covers merges (Method.mem_of_find? found).2).2.name
  have names : (Method.put merged methods).map (·.name) = methods.map (·.name) := by
    rw [← same] at found
    clear h merges same
    induction methods with
    | nil => exact absurd found (by rintro ⟨⟩)
    | cons first rest ih =>
      unfold Method.put
      by_cases here : first.name = merged.name
      · rw [if_pos here, List.map_cons, List.map_cons, here]
      · rw [if_neg here, List.map_cons, List.map_cons]
        rw [Method.find?, List.find?_cons_of_neg (by simpa using here)] at found
        rw [ih found]
  rwa [Distinct, names]

end Distinct

theorem Accessors.Adds.distinct {a b : Accessors} {m : Method} (h : a.Adds m b)
    (distinct : Distinct a.methods) : Distinct b.methods := by
  rcases h with ⟨free, rfl⟩ | ⟨existing, merged, found, merges, rfl⟩
  · exact distinct.concat free
  · exact distinct.put found merges

theorem ObjectClass.addMethods_distinct {owner : String} {extras methods added : List Method}
    {fault : Option InvariantFault} (h : addMethods owner methods extras = (added, fault))
    (distinct : Distinct methods) : Distinct added := by
  induction extras generalizing methods with
  | nil =>
    cases h
    exact distinct
  | cons extra rest ih =>
    unfold addMethods at h
    split at h
    · rename_i free
      exact ih h (distinct.concat free)
    · rename_i existing found
      split at h
      · rename_i merged merges
        exact ih h (distinct.put found merges)
      · cases h
        exact distinct
      · cases h
        exact distinct

/-- The accessors of every class have different names. -/
def Registry.Distinct (r : Registry) : Prop := ∀ c ∈ r.classes, OperationClasses.Distinct c.methods

namespace Registry.Distinct

variable {r r' : Registry}

theorem add {c : ClassDefinition} (h : r.Distinct) (added : r.add c = .ok r')
    (new : OperationClasses.Distinct c.methods) : r'.Distinct := all_of_add added h new

theorem supports (h : r.Distinct) (supports : r.Supports r') : r'.Distinct :=
  supports.all h fun c support => by
    cases c with
    | enum | input => exact List.nodup_nil
    | leaf | root => cases support

end Registry.Distinct

theorem registerLeaf_distinct {name : String} {type : TypeDefinition} {existing : Option ClassDefinition}
    {methods : List Method} {dependencies : List String} {u : Unit}
    (h : Yields (registerLeaf settings name type existing methods dependencies) p u q)
    (old : p.registry.Distinct) (new : Distinct methods) : q.registry.Distinct := by
  intro x hx
  rcases mem_classes_of_registerLeaf h hx with before | ⟨c, all, registered, -, added, rfl⟩ | ⟨types, rfl⟩
  · exact old x before
  · exact ObjectClass.addMethods_distinct added (old _ registered)
  · exact new

/-- Reading a selection set gives every accessor name once. -/
theorem Builds.distinct {className : String} {found all : Accessors} {os : List Occurrence}
    (h : Builds settings className found os p all q) (old : Distinct found.methods)
    (before : p.registry.Distinct) : Distinct all.methods ∧ q.registry.Distinct := by
  induction h with
  | nil => exact ⟨old, before⟩
  | typename _ claims _ adds _ ih =>
    rw [← claims.methods] at old
    exact ih (adds.distinct old) before
  | value _ claims _ _ _ _ supports _ adds _ ih =>
    rw [← claims.methods] at old
    exact ih (adds.distinct old) (before.supports supports)
  | object _ claims _ _ _ _ _ _ _ registers _ adds _ inside others =>
    rw [← claims.methods] at old
    obtain ⟨own, between⟩ := inside List.nodup_nil before
    exact others (adds.distinct old) (registerLeaf_distinct registers between own)

/-- So does generating an operation. -/
theorem Generates.distinct {table : List Fragment} {o : Operation} {c : ObjectClass} {details : OperationDetails}
    {all : Accessors} {os : List Occurrence} {owner : TypeDefinition} {between last : Progress}
    {registry : Registry} (h : Generates settings table o p c details all os owner between last registry)
    (before : p.registry.Distinct) : registry.Distinct := by
  obtain ⟨own, inside⟩ := h.builds.distinct List.nodup_nil (before.supports h.supports)
  refine inside.add h.added ?_
  rwa [ClassDefinition.methods, h.methods]

/-! ### Occurrences -/

/-- A selection set was read for a class, which has what this led to. -/
structure ReadFor (s : Schema) (r : Registry) (className : String) (owner : TypeDefinition)
    (selections : List Resolved) (os : List Occurrence) (all : Accessors) : Prop where
  occurs : occurrences s owner selections = .ok os
  builds : ∃ settings p q, settings.schema = s ∧ Builds settings className Accessors.empty os p all q
    ∧ q.registry.Keeps r
  kept : ∃ c, r.find? className = some c ∧ ∀ m ∈ all.methods, Covered c.methods m

/-- An occurrence that was read has the accessor name of its response key, and is there under it: the type
    name as what it is always read by, and an occurrence of a field with its path. -/
theorem Builds.method_of_mem {className : String} {found all : Accessors} {os : List Occurrence}
    {o : Occurrence} (h : Builds settings className found os p all q) (grows : q.registry.Grows r)
    (mem : o ∈ os) :
    ∃ name, Naming.accessorName o.key = .ok name ∧ all.keys.lookup name = some o.key
      ∧ (o.isTypename → Covered all.methods (.fixed name "str" typenameBody))
      ∧ (¬ o.isTypename → ∃ core typed, o.Wraps core typed ∧ Covered all.methods (o.method name typed)
        ∧ ∀ t, settings.schema.core? o.type = some t → t.body.isComposite →
          core = classOutput (r.leafName (o.wanted className) t.name)) := by
  induction h with
  | nil => exact absurd mem List.not_mem_nil
  | typename named claims isTypename adds others ih =>
    rcases List.mem_cons.1 mem with rfl | mem
    · have kept := (Accessors.Keeps.of_adds adds).trans others.accessors_keeps
      have covered := adds.covered.1.trans others.accessors_keeps.methods
      exact ⟨_, named, kept.keys _ _ claims.lookup, fun _ => covered, absurd isTypename⟩
    · exact ih grows mem
  | value named claims notTypename type simple _ _ wraps adds others ih =>
    rcases List.mem_cons.1 mem with rfl | mem
    · have kept := others.accessors_keeps
      refine ⟨_, named, ?_, fun isTypename => absurd isTypename notTypename,
        fun _ => ⟨_, _, wraps, adds.covered.1.trans kept.methods, ?_⟩⟩
      · exact ((Accessors.Keeps.of_dependOn.trans (.of_adds adds)).trans kept).keys _ _ claims.lookup
      · intro t known composite
        rw [type] at known
        cases known
        exact absurd composite simple
    · exact ih grows mem
  | object named claims notTypename type composite selected occurs leafName reads registers wraps adds
      others _ ih =>
    rcases List.mem_cons.1 mem with rfl | mem
    · have kept := others.accessors_keeps
      refine ⟨_, named, ?_, fun isTypename => absurd isTypename notTypename,
        fun _ => ⟨_, _, wraps, adds.covered.1.trans kept.methods, ?_⟩⟩
      · exact ((Accessors.Keeps.of_dependOn.trans (.of_adds adds)).trans kept).keys _ _ claims.lookup
      · intro t known _
        rw [type] at known
        cases known
        obtain ⟨_, _, _, final⟩ :=
          registerLeaf_stays leafName reads.grows registers (others.grows.trans grows)
        rw [final]
    · exact ih grows mem

/-- What an occurrence that was read selects below it was read for the class that it wants, which is for the
    type of the occurrence. -/
theorem Builds.readFor_of_mem {className : String} {found all : Accessors} {os : List Occurrence}
    {o : Occurrence} {t : TypeDefinition} {inner : List Resolved}
    (h : Builds settings className found os p all q) (keeps : q.registry.Keeps r) (mem : o ∈ os)
    (notTypename : ¬ o.isTypename) (type : settings.schema.core? o.type = some t)
    (composite : t.body.isComposite) (selected : o.below = some inner) :
    (∃ c, r.find? (r.leafName (o.wanted className) t.name) = some (.leaf c) ∧ c.typeName = t.name)
      ∧ ∃ below inside,
        ReadFor settings.schema r (r.leafName (o.wanted className) t.name) t inner below inside := by
  induction h with
  | nil => exact absurd mem List.not_mem_nil
  | typename _ _ isTypename _ _ ih =>
    rcases List.mem_cons.1 mem with rfl | mem
    · exact absurd isTypename notTypename
    · exact ih keeps mem
  | value _ _ _ type' simple _ _ _ _ _ ih =>
    rcases List.mem_cons.1 mem with rfl | mem
    · rw [type] at type'
      cases type'
      exact absurd composite simple
    · exact ih keeps mem
  | object _ _ _ type' _ selected' occurs leafName reads registers _ _ others _ ih =>
    rcases List.mem_cons.1 mem with rfl | mem
    · rw [type] at type'
      cases type'
      rw [selected] at selected'
      cases selected'
      have toEnd := others.keeps.trans keeps
      obtain ⟨kept, c, registered, new, -⟩ := registerLeaf_takes registers
      obtain ⟨c', atEnd, extends_⟩ := toEnd _ _ registered
      obtain ⟨x, found, typed, final⟩ := registerLeaf_stays leafName reads.grows registers toEnd.grows
      rw [final]
      refine ⟨⟨x, found, typed⟩, _, _, occurs, ⟨settings, _, _, rfl, reads, kept.trans toEnd⟩, c', atEnd, ?_⟩
      exact fun m hm => (new m hm).trans extends_.methods
    · exact ih keeps mem

/-- A selection set of a document that is read when its classes are generated: that of an operation, or that
    below a field. -/
inductive SelectionSetOf (s : Schema) (d : Document) : TypeDefinition → List Resolved → Prop where
  | root {o : Operation} {owner : TypeDefinition} (mem : o ∈ d.operations)
      (type : s.rootType o.kind = some owner) :
      SelectionSetOf s d owner (resolveAll d.fragmentTable d.fragmentTable o.selections)
  | under {owner t : TypeDefinition} {selections inner : List Resolved} {os : List Occurrence}
      {o : Occurrence} (outer : SelectionSetOf s d owner selections)
      (occurs : occurrences s owner selections = .ok os) (mem : o ∈ os) (notTypename : ¬ o.isTypename)
      (type : s.core? o.type = some t) (composite : t.body.isComposite) (selected : o.below = some inner) :
      SelectionSetOf s d t inner

/-- What every operation of a document selects was read for its class. -/
def OperationsRead (s : Schema) (d : Document) (r : Registry) : Prop :=
  ∀ o ∈ d.operations, ∃ className owner os all, Naming.operationClassName o.name = .ok className
    ∧ s.rootType o.kind = some owner
    ∧ ReadFor s r className owner (resolveAll d.fragmentTable d.fragmentTable o.selections) os all

/-- What an operation selects is read for its class as the operation is generated. -/
theorem Generates.readFor {table : List Fragment} {o : Operation} {c : ObjectClass} {details : OperationDetails}
    {all : Accessors} {os : List Occurrence} {owner : TypeDefinition} {between last : Progress}
    {registry : Registry} (h : Generates settings table o p c details all os owner between last registry)
    (keeps : registry.Keeps r) :
    ReadFor settings.schema r c.name owner (resolveAll table table o.selections) os all := by
  have registered : registry.find? c.name = some (.root c details) := Registry.find?_of_add h.added
  obtain ⟨c', atEnd, extends_⟩ := keeps _ _ registered
  refine ⟨h.occurs, ⟨settings, _, _, rfl, h.builds, (Registry.Keeps.of_add h.added).trans keeps⟩, c', atEnd,
    fun m hm => extends_.methods m ?_⟩
  rwa [ClassDefinition.methods, h.methods]

/-- What is selected below an occurrence of a field was read for the class that the occurrence wants. -/
theorem ReadFor.under {className : String} {owner t : TypeDefinition} {selections inner : List Resolved}
    {os : List Occurrence} {all : Accessors} {o : Occurrence}
    (h : ReadFor s r className owner selections os all) (mem : o ∈ os) (notTypename : ¬ o.isTypename)
    (type : s.core? o.type = some t) (composite : t.body.isComposite) (selected : o.below = some inner) :
    ∃ below inside, ReadFor s r (r.leafName (o.wanted className) t.name) t inner below inside := by
  obtain ⟨-, ⟨settings, p, q, rfl, builds, keeps⟩, -⟩ := h
  exact (builds.readFor_of_mem keeps mem notTypename type composite selected).2

/-- The class that an occurrence wants is for the type of the occurrence. -/
theorem ReadFor.leaf {className : String} {owner t : TypeDefinition} {selections inner : List Resolved}
    {os : List Occurrence} {all : Accessors} {o : Occurrence}
    (h : ReadFor s r className owner selections os all) (mem : o ∈ os) (notTypename : ¬ o.isTypename)
    (type : s.core? o.type = some t) (composite : t.body.isComposite) (selected : o.below = some inner) :
    ∃ c, r.find? (r.leafName (o.wanted className) t.name) = some (.leaf c) ∧ c.typeName = t.name := by
  obtain ⟨-, ⟨settings, p, q, rfl, builds, keeps⟩, -⟩ := h
  exact (builds.readFor_of_mem keeps mem notTypename type composite selected).1

/-- The occurrences that were read are those of the selection set. -/
theorem ReadFor.of_occurs {className : String} {owner : TypeDefinition} {selections : List Resolved}
    {os os' : List Occurrence} {all : Accessors} (h : ReadFor s r className owner selections os all)
    (occurs : occurrences s owner selections = .ok os') : ReadFor s r className owner selections os' all := by
  cases h.occurs.symm.trans occurs
  exact h

/-- What a class is for was read for it. -/
theorem Takes.readFor {className : String} {owner : TypeDefinition} {selections : List Resolved}
    {os : List Occurrence} (h : Takes s d r className owner selections) (roots : OperationsRead s d r)
    (occurs : occurrences s owner selections = .ok os) :
    ∃ all, ReadFor s r className owner selections os all := by
  induction h generalizing os with
  | root mem named type _ _ =>
    obtain ⟨className, owner, _, all, named', type', read⟩ := roots _ mem
    rw [named] at named'
    rw [type] at type'
    cases named'
    cases type'
    exact ⟨all, read.of_occurs occurs⟩
  | under _ around mem type composite notTypename selected _ _ ih =>
    obtain ⟨_, read⟩ := ih around
    obtain ⟨_, all, below⟩ := read.under mem notTypename type composite selected
    exact ⟨all, below.of_occurs occurs⟩

/-- The class that an occurrence wants is for what the occurrence selects below it. -/
theorem Takes.inside {className : String} {owner t : TypeDefinition} {selections inner : List Resolved}
    {os : List Occurrence} {o : Occurrence} (h : Takes s d r className owner selections)
    (roots : OperationsRead s d r) (occurs : occurrences s owner selections = .ok os) (mem : o ∈ os)
    (notTypename : ¬ o.isTypename) (type : s.core? o.type = some t) (composite : t.body.isComposite)
    (selected : o.below = some inner) : Takes s d r (r.leafName (o.wanted className) t.name) t inner := by
  obtain ⟨all, read⟩ := h.readFor roots occurs
  obtain ⟨c, registered, typed⟩ := read.leaf mem notTypename type composite selected
  exact .under h occurs mem type composite notTypename selected registered typed

/-- Every selection set of a document was read for a class. -/
theorem SelectionSetOf.readFor {owner : TypeDefinition} {selections : List Resolved} {os : List Occurrence}
    (h : SelectionSetOf s d owner selections) (roots : OperationsRead s d r)
    (occurs : occurrences s owner selections = .ok os) :
    ∃ className all, ReadFor s r className owner selections os all := by
  induction h generalizing os with
  | root mem type =>
    obtain ⟨className, owner, _, all, -, type', read⟩ := roots _ mem
    rw [type] at type'
    cases type'
    exact ⟨className, all, read.of_occurs occurs⟩
  | under _ around mem notTypename type composite selected ih =>
    obtain ⟨className, _, read⟩ := ih around
    obtain ⟨_, all, below⟩ := read.under mem notTypename type composite selected
    exact ⟨_, all, below.of_occurs occurs⟩

namespace ReadFor

variable {className : String} {owner : TypeDefinition} {selections : List Resolved}
  {os : List Occurrence} {all : Accessors} {o o' : Occurrence}

/-- Within a selection set one accessor name stands for one response key. -/
theorem key_eq (h : ReadFor s r className owner selections os all) (mem : o ∈ os) (mem' : o' ∈ os)
    (same : Naming.accessorName o.key = Naming.accessorName o'.key) : o.key = o'.key := by
  obtain ⟨-, ⟨settings, p, q, rfl, builds, keeps⟩, -⟩ := h
  obtain ⟨name, named, key, -⟩ := builds.method_of_mem keeps.grows mem
  obtain ⟨name', named', key', -⟩ := builds.method_of_mem keeps.grows mem'
  rw [named, named'] at same
  cases same
  exact Option.some.inj (key.symm.trans key')

/-- Every occurrence has an accessor of the class under the name of its response key: the type name what it
    is always read by. -/
theorem accessor (h : ReadFor s r className owner selections os all) (mem : o ∈ os) :
    ∃ c m, r.find? className = some c ∧ m ∈ c.methods ∧ Naming.accessorName o.key = .ok m.name
      ∧ (o.isTypename → m = .fixed m.name "str" typenameBody) := by
  obtain ⟨-, ⟨settings, p, q, rfl, builds, keeps⟩, c, registered, kept⟩ := h
  obtain ⟨name, named, -, typename, field⟩ := builds.method_of_mem keeps.grows mem
  by_cases isTypename : o.isTypename
  · obtain ⟨m, hm, covers⟩ := (typename isTypename).trans kept
    cases covers
    exact ⟨c, _, registered, hm, named, fun _ => rfl⟩
  · obtain ⟨core, typed, -, covered, -⟩ := field isTypename
    obtain ⟨m, hm, covers⟩ := covered.trans kept
    refine ⟨c, m, registered, hm, ?_, fun h => absurd h isTypename⟩
    rw [named, covers.name]
    rfl

/-- An occurrence of a field has its path in an accessor of the class. -/
theorem contributes (h : ReadFor s r className owner selections os all) (mem : o ∈ os)
    (notTypename : ¬ o.isTypename) :
    ∃ c a path, r.find? className = some c ∧ .field a ∈ c.methods
      ∧ Naming.accessorName o.key = .ok a.name ∧ path ∈ a.paths ∧ PathOf s r className o path := by
  obtain ⟨-, ⟨settings, p, q, rfl, builds, keeps⟩, c, registered, kept⟩ := h
  obtain ⟨name, named, -, -, field⟩ := builds.method_of_mem keeps.grows mem
  obtain ⟨core, typed, wraps, covered, leaf⟩ := field notTypename
  obtain ⟨m, hm, covers⟩ := covered.trans kept
  cases covers with
  | @field a _ sameName paths =>
    refine ⟨c, a, _, registered, hm, ?_, paths _ List.mem_cons_self, ?_⟩
    · rw [named, sameName]
      rfl
    · exact ⟨named, rfl, rfl, core, typed, wraps, rfl, rfl, leaf⟩

end ReadFor

/-- The classes of operations are for what the operations select. -/
theorem generateOperations_takes {os : List Operation} {cs : List ClassDefinition}
    (isOperation : ∀ o ∈ os, o ∈ d.operations)
    (h : Yields (os.mapM (generateOperation settings d.fragmentTable)) p cs q) (grows : q.registry.Grows r) :
    ∀ o ∈ os, ∃ className owner, Naming.operationClassName o.name = .ok className
      ∧ settings.schema.rootType o.kind = some owner
      ∧ Takes settings.schema d r className owner
        (resolveAll d.fragmentTable d.fragmentTable o.selections) := by
  intro o mem
  obtain ⟨_, c, _, _, _, owner, _, _, _, generates, kept⟩ := exists_generates h mem
  exact ⟨c.name, owner, generates.named, generates.type,
    generates.takes (isOperation o mem) (kept.grows.trans grows)⟩

/-! ### Sequences of documents -/

namespace Generator.Ran

variable {ds : List Document} {g : Generator}

/-- The accessors of the classes come from what the classes are for in one of the documents. -/
theorem made (h : g.Ran s ds) (grows : g.progress.registry.Grows r) :
    g.progress.Made fun name path => ∃ d ∈ ds, Traced s d r name path := by
  refine h.induction
    (I := fun p => p.registry.Grows r → p.Made fun name path => ∃ d ∈ ds, Traced s d r name path)
    (fun _ => Progress.made_start) (fun d mem o isOperation => ?_) grows
  rintro settings p c details all os owner between last registry rfl generates before toEnd
  exact generates.traced isOperation toEnd (fun _ _ traced => ⟨d, mem, traced⟩)
    (before (generates.grows.trans toEnd))

theorem distinct (h : g.Ran s ds) : g.progress.registry.Distinct :=
  h.induction (I := fun p => p.registry.Distinct) (fun _ hc => absurd hc List.not_mem_nil)
    fun _ _ _ _ => fun _ generates before => generates.distinct before

/-- What the operations of the documents select was read for their classes. -/
theorem operationsRead (h : g.Ran s ds) (keeps : g.progress.registry.Keeps r) {d : Document}
    (mem : d ∈ ds) : OperationsRead s d r := by
  induction h with
  | start => exact absurd mem List.not_mem_nil
  | bind _ ih => exact ih keeps mem
  | @generate ds d' g g' cs before ends ih =>
    obtain ⟨-, reads⟩ := generate_yields ends
    rcases List.mem_append.1 mem with mem | last
    · exact ih ((generateOperations_keeps reads).trans keeps) mem
    · cases List.mem_singleton.1 last
      rw [← before.schema]
      intro o isOperation
      obtain ⟨_, c, _, all, os, owner, _, _, _, generates, kept⟩ := exists_generates reads isOperation
      exact ⟨c.name, owner, os, all, generates.named, generates.type, generates.readFor (kept.trans keeps)⟩

end Generator.Ran

end OperationClasses
