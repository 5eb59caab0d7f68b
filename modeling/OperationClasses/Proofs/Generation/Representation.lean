/-
Module: OperationClasses.Proofs.Generation.Representation
Purpose: Whatever a generator was asked and however that ended, its classes are in order: each is stored under its
  name, and those of results have accessors of different names whose paths start from the type of the class.
Main exports: FieldAccess.RootedAt, ObjectClass.WellFormed, Leaves, Generator.Reached,
  Generator.Reached.representation
-/
import OperationClasses.Proofs.Generation.Contribution

namespace OperationClasses

open Generation

variable {α β : Type} {settings : Settings} {s : Schema} {p q : Progress}

/-! ### Classes in order -/

/-- The accessor of a field of a type has paths, all of which have its name and start from the type. -/
structure FieldAccess.RootedAt (s : Schema) (type : String) (a : FieldAccess) : Prop where
  some_ : a.paths ≠ []
  named : ∀ path ∈ a.paths, path.name = a.name
  rooted : ∀ path ∈ a.paths, path.owner = type
  kept : a.RootKept s

/-- An accessor is not of a field, or rooted at a type. -/
def Method.RootedAt (s : Schema) (type : String) (m : Method) : Prop :=
  ∀ a, m = .field a → a.RootedAt s type

/-- Accessors of a class for the values of a type. -/
structure AccessorsFor (s : Schema) (type : String) (methods : List Method) : Prop where
  distinct : Distinct methods
  rooted : ∀ m ∈ methods, m.RootedAt s type

/-- A class for the values of a type has accessors for it, and its possible types. -/
structure ObjectClass.WellFormed (s : Schema) (c : ObjectClass) : Prop where
  accessors : AccessorsFor s c.typeName c.methods
  possible : ∃ types, s.runtimeTypes c.typeName = .ok types ∧ c.possibleTypes = types.toList

/-- What a class has for the values of a composite type, if it is for such. -/
def ClassDefinition.object? : ClassDefinition → Option ObjectClass
  | .leaf c => some c
  | .root c _ => some c
  | _ => none

/-- A class for the values of a type has its name and its accessors. -/
theorem ClassDefinition.eq_of_object? {x : ClassDefinition} {c : ObjectClass} (is : x.object? = some c) :
    x.name = c.name ∧ x.methods = c.methods := by
  cases x with
  | leaf | root =>
    cases is
    exact ⟨rfl, rfl⟩
  | enum | input => cases is

/-- All classes for values of composite types are in order. -/
def Registry.WellFormed (s : Schema) (r : Registry) : Prop :=
  ∀ x ∈ r.classes, ∀ c, x.object? = some c → c.WellFormed s

/-! ### Adding accessors -/

/-- A merged accessor has the paths of both. -/
theorem mergeClosed_rootedAt {type : String} : MergeClosed (Method.RootedAt s type) := by
  intro m other merged h h' same merges a is
  subst is
  cases m with
  | fixed name signature body =>
    by_cases equal : Method.fixed name signature body = other
    · simp [Method.merge, equal, pure, Except.pure] at merges
      exact h' a merges
    · simp [Method.merge, equal, pure, Except.pure] at merges
  | field b =>
    cases other with
    | fixed => simp [Method.merge, pure, Except.pure] at merges
    | field more =>
      obtain ⟨some_, named, rooted, kept⟩ := h b rfl
      obtain ⟨-, named', rooted', -⟩ := h' more rfl
      have sameName : b.name = more.name := same
      simp only [Method.merge] at merges
      obtain ⟨c, success, last⟩ := bind_ok merges
      cases last
      obtain ⟨-, rfl⟩ := FieldAccess.merge_eq_ok success
      constructor
      · simp [some_]
      · intro path hpath
        rcases List.mem_append.1 hpath with hpath | hpath
        · exact named path hpath
        · exact (named' path hpath).trans sameName.symm
      · intro path hpath
        exact (List.mem_append.1 hpath).elim (rooted path) (rooted' path)
      · intro types read
        obtain ⟨path, hpath, possible⟩ := kept types read
        exact ⟨path, List.mem_append_left _ hpath, possible⟩

namespace AccessorsFor

variable {type : String} {methods extras : List Method}

theorem nil : AccessorsFor s type [] := ⟨List.nodup_nil, fun _ h => absurd h List.not_mem_nil⟩

theorem adds {a b : Accessors} {m : Method} (h : AccessorsFor s type a.methods) (adds : a.Adds m b)
    (new : m.RootedAt s type) : AccessorsFor s type b.methods :=
  ⟨adds.distinct h.distinct, adds.all mergeClosed_rootedAt h.rooted new⟩

end AccessorsFor

/-- A class that takes further accessors for its type stays in order, even if not all of them fit. -/
theorem ObjectClass.WellFormed.merge {c : ObjectClass} {methods : List Method} {dependencies : List String}
    (h : c.WellFormed s) (new : AccessorsFor s c.typeName methods) :
    (c.mergeMethods methods dependencies).1.WellFormed s := by
  unfold mergeMethods
  rcases added : addMethods c.name c.methods methods with ⟨all, fault⟩
  have accessors : AccessorsFor s c.typeName all :=
    ⟨addMethods_distinct added h.accessors.distinct,
      addMethods_all mergeClosed_rootedAt added h.accessors.rooted new.rooted⟩
  cases fault with
  | none => exact ⟨accessors, h.possible⟩
  | some fault => exact ⟨accessors, h.possible⟩

namespace Registry.WellFormed

variable {r r' : Registry}

theorem empty : Registry.empty.WellFormed s := fun _ hx => absurd hx List.not_mem_nil

theorem add {x : ClassDefinition} (h : r.WellFormed s) (added : r.add x = .ok r')
    (new : ∀ c, x.object? = some c → c.WellFormed s) : r'.WellFormed s := all_of_add added h new

theorem replace {x : ClassDefinition} (h : r.WellFormed s) (new : ∀ c, x.object? = some c → c.WellFormed s) :
    (r.replace x).WellFormed s := all_of_replace h new

/-- Classes that are not for results are always in order. -/
theorem supports (h : r.WellFormed s) (more : r.Supports r') : r'.WellFormed s :=
  more.all h fun x support c is => by
    cases x with
    | enum | input => cases is
    | leaf | root => cases support

end Registry.WellFormed

/-- A class that stands where one for values of a type stood is for them too. -/
theorem Registry.Grows.leaf_typeName {r r' : Registry} (grows : r.Grows r') {name type : String}
    {c : ObjectClass} (isLeaf : (r.find? name).any (·.isLeafOf type))
    (found : r'.find? name = some (.leaf c)) : c.typeName = type := by
  obtain ⟨old, there, oldLeaf⟩ := (Option.any_eq_true _ _).1 isLeaf
  obtain ⟨new, found', same⟩ := grows name old there
  rw [found] at found'
  cases found'
  rw [ClassDefinition.isLeafOf_iff, ← same] at oldLeaf
  exact ClassRole.leaf.inj oldLeaf

/-! ### What every step leaves behind -/

/-- The classes so far are in order. -/
def Progress.WellFormed (s : Schema) (p : Progress) : Prop := p.registry.WellFormed s

/-- Steps that add no result class leave classes in order. -/
theorem Supporting.leaves {m : Generation α} (h : Supporting m) (before : p.WellFormed s) :
    Leaves (Progress.WellFormed s) (fun _ => True) m p :=
  (h p).imp fun _ more => Registry.WellFormed.supports before more

theorem leaves_register {x : ClassDefinition} (before : p.WellFormed s)
    (new : ∀ c, x.object? = some c → c.WellFormed s) :
    Leaves (Progress.WellFormed s) (fun _ => True) (register x) p :=
  .register before fun _ added => Registry.WellFormed.add before added new

theorem leaves_claim {I : Progress → Prop} {a : Accessors} {owner name key : String} (before : I p) :
    Leaves I (fun b => a.Claims name key b) (a.claim owner name key) p := by
  constructor
  · intro b q yields
    obtain ⟨claims, rfl⟩ := yields_claim_iff.1 yields
    exact ⟨before, claims⟩
  · intro e q fails
    unfold Accessors.claim at fails
    split at fails
    · exact absurd fails not_fails_pure
    · split at fails
      · exact absurd fails not_fails_pure
      · rw [(fails_throw_iff.1 fails).2]
        exact before

theorem leaves_add {I : Progress → Prop} {a : Accessors} {owner : String} {m : Method} (before : I p) :
    Leaves I (fun b => a.Adds m b) (a.add owner m) p := by
  constructor
  · intro b q yields
    obtain ⟨adds, rfl⟩ := yields_add_iff.1 yields
    exact ⟨before, adds⟩
  · intro e q fails
    unfold Accessors.add at fails
    split at fails
    · exact absurd fails not_fails_pure
    · rcases fails_bind_iff.1 fails with fails | ⟨merged, between, reads, fails⟩
      · obtain ⟨_, _, _, rfl⟩ := fails_invariant_iff.1 fails
        exact before
      · obtain ⟨_, rfl⟩ := yields_invariant_iff.1 reads
        cases merged with
        | none =>
          rw [(fails_throw_iff.1 fails).2]
          exact before
        | some merged => exact absurd fails not_fails_pure

/-- A result class is registered in order, or takes accessors for its type, whether or not all of them fit. -/
theorem leaves_registerLeaf {name : String} {type : TypeDefinition} {existing : Option ClassDefinition}
    {methods : List Method} {dependencies : List String} (before : p.WellFormed settings.schema)
    (new : AccessorsFor settings.schema type.name methods)
    (there : existing.any (·.isLeafOf type.name) →
      ∀ c, p.registry.find? name = some (.leaf c) → c.typeName = type.name) :
    Leaves (Progress.WellFormed settings.schema) (fun _ => True)
      (registerLeaf settings name type existing methods dependencies) p := by
  unfold registerLeaf
  split
  · rename_i isLeaf
    apply Leaves.get_bind
    split
    · rename_i c found
      have wellFormed : c.WellFormed settings.schema := before _ (Registry.mem_classes_of_find? found) c rfl
      rw [← there isLeaf c found] at new
      have replaced : (p.registry.replace (.leaf (c.mergeMethods methods dependencies).1)).WellFormed
          settings.schema := by
        apply Registry.WellFormed.replace before
        intro x is
        cases is
        exact wellFormed.merge new
      refine Leaves.bind (.set replaced) fun _ q _ kept _ => ?_
      split
      · exact .throw kept
      · exact .pure kept trivial
    · exact .throw before
  · apply (Leaves.invariant before).bind
    intro types q _ kept possible
    refine leaves_register kept fun c is => ?_
    cases is
    exact ⟨new, types, possible, rfl⟩

/-! ### Selection sets -/

mutual

/-- Field selections are on the type of the selection set that they were collected from. -/
theorem owner_of_mem_collect {owner : String} {conditions : List String} {parent : TypeDefinition} :
    ∀ {r : Resolved} {os : List Occurrence}, collect s owner conditions parent r = .ok os →
      ∀ o ∈ os, o.owner = owner
  | .leaf head, os, h, o, ho => by
    obtain ⟨type, _, h⟩ := bind_ok (by simpa only [collect] using h)
    cases h
    rw [List.mem_singleton.1 ho]
  | .nested head below, os, h, o, ho => by
    obtain ⟨type, _, h⟩ := bind_ok (by simpa only [collect] using h)
    cases h
    rw [List.mem_singleton.1 ho]
  | .narrowed none below, os, h, o, ho => owner_of_mem_collectAll (by simpa only [collect] using h) o ho
  | .narrowed (some condition) below, os, h, o, ho => by
    obtain ⟨t, _, h⟩ := bind_ok (by simpa only [collect] using h)
    exact owner_of_mem_collectAll h o ho
  | .missing name, os, h, o, ho => by cases h
  | .cyclic name, os, h, o, ho => by cases h

theorem owner_of_mem_collectAll {owner : String} {conditions : List String} {parent : TypeDefinition} :
    ∀ {rs : List Resolved} {os : List Occurrence}, collectAll s owner conditions parent rs = .ok os →
      ∀ o ∈ os, o.owner = owner
  | [], os, h, o, ho => by
    cases h
    exact absurd ho List.not_mem_nil
  | r :: rest, os, h, o, ho => by
    obtain ⟨first, hf, h⟩ := bind_ok (by simpa only [collectAll] using h)
    obtain ⟨others, hr, h⟩ := bind_ok h
    cases h
    rcases List.mem_append.1 ho with ho | ho
    · exact owner_of_mem_collect hf o ho
    · exact owner_of_mem_collectAll hr o ho

end

/-- The accessor of an occurrence is rooted at the type that the occurrence is on. -/
theorem Occurrence.method_rootedAt {o : Occurrence} {name : String} {typed : TypedOutput} :
    (o.method name typed).RootedAt s o.owner := by
  rintro a ⟨⟩
  constructor
  · exact List.cons_ne_nil _ _
  · exact List.forall_mem_singleton.2 rfl
  · exact List.forall_mem_singleton.2 rfl
  · intro types read
    cases read

mutual

/-- Reading a selection set leaves classes in order, and gives accessors for its type. -/
theorem leaves_accessors (className : String) (owner : TypeDefinition) (selections : List Resolved)
    {p : Progress} (before : p.WellFormed settings.schema) :
    Leaves (Progress.WellFormed settings.schema) (fun out => AccessorsFor settings.schema owner.name out.1)
      (accessors settings className owner selections) p := by
  unfold accessors
  split
  · exact .throw before
  · rename_i os collected
    have smaller : ∀ o ∈ os, o.weightBelow < Resolved.weightAll selections := fun o ho =>
      weightBelow_lt collected ho
    apply (leaves_addOccurrences className owner.name Accessors.empty os _ smaller
      (owner_of_mem_collectAll collected) .nil before).bind
    exact fun all q _ kept new => .pure kept new
termination_by (Resolved.weightAll selections, 2, 0)

theorem leaves_addOccurrences (className type : String) (found : Accessors) (os : List Occurrence)
    (bound : Nat) (smaller : ∀ o ∈ os, o.weightBelow < bound) (owned : ∀ o ∈ os, o.owner = type)
    (old : AccessorsFor settings.schema type found.methods) {p : Progress}
    (before : p.WellFormed settings.schema) :
    Leaves (Progress.WellFormed settings.schema) (fun all => AccessorsFor settings.schema type all.methods)
      (addOccurrences settings className found os bound smaller) p := by
  match os with
  | [] =>
    rw [addOccurrences]
    exact .pure before old
  | o :: rest =>
    have shorter : o.weightBelow < bound := smaller o List.mem_cons_self
    obtain ⟨first, others⟩ := List.forall_mem_cons.1 owned
    unfold addOccurrences
    apply (leaves_addOccurrence className type found o first old before).bind
    intro added q _ kept new
    exact leaves_addOccurrences className type added rest bound _ others new kept
termination_by (bound, 1, os.length)
decreasing_by
  · exact Prod.Lex.left _ _ shorter
  · simp [Prod.lex_def]

theorem leaves_addOccurrence (className type : String) (found : Accessors) (o : Occurrence)
    (owned : o.owner = type) (old : AccessorsFor settings.schema type found.methods) {p : Progress}
    (before : p.WellFormed settings.schema) :
    Leaves (Progress.WellFormed settings.schema) (fun all => AccessorsFor settings.schema type all.methods)
      (addOccurrence settings className found o) p := by
  unfold addOccurrence
  apply (Leaves.named before).bind
  intro name q _ kept _
  apply (leaves_claim kept).bind
  intro claimed q' _ kept claims
  rw [← claims.methods] at old
  split
  · exact (leaves_add kept).weaken fun _ adds => old.adds adds fun a is => by cases is
  · apply (leaves_coreOutput (className ++ "_" ++ o.suffix) o kept).bind
    intro core q'' _ kept _
    have wrapped : Leaves (Progress.WellFormed settings.schema) (fun _ => True) (o.wrapOutput core) q'' :=
      (Leaves.converted kept).bind fun _ _ _ kept _ => .pure kept trivial
    apply wrapped.bind
    intro typed q''' _ kept _
    have new : (o.method name typed).RootedAt settings.schema type := owned ▸ Occurrence.method_rootedAt
    have old : AccessorsFor settings.schema type (claimed.dependOn typed).methods := old
    exact (leaves_add kept).weaken fun _ adds => old.adds adds new
termination_by (o.weightBelow, 4, 0)

theorem leaves_coreOutput (wanted : String) (o : Occurrence) {p : Progress}
    (before : p.WellFormed settings.schema) :
    Leaves (Progress.WellFormed settings.schema) (fun _ => True) (coreOutput settings wanted o) p := by
  unfold coreOutput
  split
  · exact .throw before
  · rename_i t type
    split
    · exact (Supporting.closed.scalarBinding.leaves before).bind fun _ _ _ kept _ => .pure kept trivial
    · exact (Supporting.closed.enumClass.leaves before).bind fun _ _ _ kept _ => .pure kept trivial
    · exact .throw before
    · split
      · exact .throw before
      · rename_i below selected
        have smaller : Resolved.weightAll below = o.weightBelow := by
          simp [Occurrence.weightBelow, selected]
        apply Leaves.get_bind
        apply (leaves_accessors _ t below before).bind
        intro out q reads kept new
        -- a class that was there for the type when the reading began is still for it
        have grows : p.registry.Grows q.registry := by
          obtain ⟨os, all, _, builds, _⟩ := accessors_builds _ t below reads
          exact builds.grows
        apply (leaves_registerLeaf kept new ?_).bind
        · exact fun _ _ _ kept _ => .pure kept trivial
        · intro isLeaf c found
          exact grows.leaf_typeName isLeaf found
termination_by (o.weightBelow, 3, 0)
decreasing_by
  rw [smaller]
  simp [Prod.lex_def]

end

/-! ### Operations -/

theorem leaves_generateOperation {table : List Fragment} {o : Operation}
    (before : p.WellFormed settings.schema) :
    Leaves (Progress.WellFormed settings.schema) (fun _ => True) (generateOperation settings table o) p := by
  unfold generateOperation
  apply (Leaves.named before).bind
  intro className q _ kept _
  have root : Leaves (Progress.WellFormed settings.schema) (fun _ => True)
      (rootTypeOf settings.schema o.kind) q := by
    unfold rootTypeOf
    split
    · exact .pure kept trivial
    · exact .throw kept
  apply root.bind
  intro owner q' _ kept _
  apply (Supporting.declaredVariables.leaves kept).bind
  intro parameters between _ kept _
  apply (leaves_accessors className owner _ kept).bind
  intro out last _ kept new
  apply (Leaves.invariant kept).bind
  intro types last' _ kept possible
  refine (leaves_register kept fun c is => ?_).bind fun _ _ _ kept _ => .pure kept trivial
  cases is
  exact ⟨new, types, possible, rfl⟩

/-- However the generation of a document ends, classes that were in order are left in order. -/
theorem generateDocument_wellFormed {d : Document} (before : p.WellFormed settings.schema) :
    ((generateDocument settings d).run.run p).2.WellFormed settings.schema := by
  have leaves : Leaves (Progress.WellFormed settings.schema) (fun _ => True) (generateDocument settings d) p :=
    Leaves.mapM (fun o _ _ => leaves_generateOperation) p before
  rcases runs : (generateDocument settings d).run.run p with ⟨e | cs, q⟩
  · exact leaves.fails e q runs
  · exact (leaves.yields cs q runs).1

/-! ### Generators in use -/

/-- A registry after readings of the accessors of its classes, which may differ from class to class. -/
def Registry.afterReading (r : Registry) (readings : String → Method → Method) : Registry :=
  r.map (fun x => x.mapMethods (List.map (readings x.name))) fun x => by cases x <;> rfl

/-- A generator after readings of the accessors of its classes. -/
def Generator.afterReading (g : Generator) (readings : String → Method → Method) : Generator :=
  { g with progress := { g.progress with registry := g.progress.registry.afterReading readings } }

/-- A generator for a schema in use: it has been asked for the classes of documents, one after the other, whatever
    came of it. In between, scalars may be bound anew and accessors read. -/
inductive Generator.Reached (s : Schema) : Generator → Prop where
  | start {settings : Settings} (schema : settings.schema = s) : Generator.Reached s (.start settings)
  | bind {g : Generator} {scalars : ScalarTable} (before : Generator.Reached s g) :
      Generator.Reached s { g with settings := { g.settings with scalars := scalars } }
  | generate {g : Generator} {d : Document} (before : Generator.Reached s g) :
      Generator.Reached s (g.generate d).2
  | read {g : Generator} {readings : String → Method → Method} (before : Generator.Reached s g)
      (reads : ∀ name m, Method.Read s m (readings name m)) : Generator.Reached s (g.afterReading readings)

/-- A generator that has generated documents is in use. -/
theorem Generator.Ran.reached {g : Generator} {ds : List Document} (ran : g.Ran s ds) : g.Reached s := by
  induction ran with
  | start schema => exact .start schema
  | bind _ ih => exact .bind ih
  | @generate _ d g g' _ _ ends ih =>
    have reached := ih.generate (d := d)
    rwa [ends] at reached

/-- A read accessor has its name and, if it was rooted at a type, still is. -/
theorem Method.Read.rootedAt {m m' : Method} (h : Method.Read s m m') :
    m'.name = m.name ∧ ∀ type, m.RootedAt s type → m'.RootedAt s type := by
  induction h with
  | refl => exact ⟨rfl, fun _ h => h⟩
  | @observe m' _ what ih =>
    cases m' with
    | fixed => exact ih
    | field a =>
      obtain ⟨sameName, samePaths⟩ := a.observe_name_paths s what
      refine ⟨sameName.trans ih.1, fun type h => ?_⟩
      obtain ⟨some_, named, rooted, kept⟩ := ih.2 type h a rfl
      rintro b ⟨⟩
      constructor
      · rwa [samePaths]
      · rwa [samePaths, sameName]
      · rwa [samePaths]
      · exact kept.observe what

theorem AccessorsFor.read {type : String} {methods : List Method} {reading : Method → Method}
    (h : AccessorsFor s type methods) (reads : ∀ m, Method.Read s m (reading m)) :
    AccessorsFor s type (methods.map reading) := by
  constructor
  · have names : (methods.map reading).map (·.name) = methods.map (·.name) := by
      simp [fun m => (reads m).rootedAt.1]
    rw [Distinct, names]
    exact h.distinct
  · intro m hm
    obtain ⟨old, hold, rfl⟩ := List.mem_map.1 hm
    exact (reads old).rootedAt.2 type (h.rooted old hold)

theorem Registry.WellFormed.read {r : Registry} {readings : String → Method → Method} (h : r.WellFormed s)
    (reads : ∀ name m, Method.Read s m (readings name m)) : (r.afterReading readings).WellFormed s := by
  intro y hy c is
  obtain ⟨x, hx, rfl⟩ := List.mem_map.1 hy
  have old := h x hx
  cases x with
  | enum | input => cases is
  | leaf b =>
    cases is
    exact ⟨(old b rfl).accessors.read (reads _), (old b rfl).possible⟩
  | root b =>
    cases is
    exact ⟨(old b rfl).accessors.read (reads _), (old b rfl).possible⟩

namespace Generator.Reached

variable {g : Generator}

/-- The classes of a generator in use are in order. -/
theorem wellFormed (h : g.Reached s) : g.settings.schema = s ∧ g.progress.WellFormed s := by
  induction h with
  | start schema => exact ⟨schema, Registry.WellFormed.empty⟩
  | bind _ ih => exact ih
  | @generate g d _ ih =>
    obtain ⟨rfl, before⟩ := ih
    exact ⟨rfl, generateDocument_wellFormed before⟩
  | read _ reads ih => exact ⟨ih.1, ih.2.read reads⟩

/-- **The registry of a generator in use**, whatever it was asked and however that ended: a class is found under
    its name and no other, and a class for the values of a type has accessors of different names, those of fields
    with paths that all have the name of the accessor and start from the type, and as its possible types, in
    order, those of the type. So the paths of an accessor never start from different types: reading the
    possible types of its owner gives those of the type. -/
theorem representation (h : g.Reached s) :
    (∀ name x, g.progress.registry.find? name = some x ↔ x ∈ g.progress.registry.classes ∧ x.name = name)
      ∧ ∀ x ∈ g.progress.registry.classes, ∀ c, x.object? = some c →
        c.WellFormed s ∧ c.possibleTypes.Pairwise (· < ·)
          ∧ (∀ t, t ∈ c.possibleTypes ↔ Possible s c.typeName t)
          ∧ ∀ a, .field a ∈ c.methods → ∃ types, a.rootPossible s = .ok types
            ∧ types.toList = c.possibleTypes := by
  constructor
  · intro name x
    constructor
    · intro found
      exact ⟨Registry.mem_classes_of_find? found, Registry.name_of_find? found⟩
    · rintro ⟨mem, rfl⟩
      exact Registry.find?_of_mem mem
  · intro x hx c is
    have wellFormed := h.wellFormed.2 x hx c is
    obtain ⟨types, known, possible⟩ := wellFormed.possible
    refine ⟨wellFormed, ?_, ?_, ?_⟩
    · rw [possible]
      exact types.sorted
    · intro t
      rw [possible]
      constructor
      · exact fun mem => ⟨types, known, mem⟩
      · rintro ⟨types', known', mem⟩
        rw [known] at known'
        cases known'
        exact mem
    · intro a accessor
      have rooted := wellFormed.accessors.rooted _ accessor a rfl
      refine ⟨types, ?_, possible.symm⟩
      rw [FieldAccess.rootPossible_of_rooted rooted.kept rooted.rooted rooted.some_, known]

end Generator.Reached

/-! ### A run that is stopped -/

namespace Stopped

/-- A type that leads to itself by two fields. -/
def query : TypeDefinition := ⟨"Query", [], .object [] [⟨"a_b", [], .named "Query" true, []⟩,
  ⟨"b", [], .named "Query" true, []⟩, ⟨"n", [], .named "Int" true, []⟩]⟩

def schema : Schema := ⟨[query, ⟨"Int", [], .scalar⟩, ⟨"String", [], .scalar⟩], [], some "Query", none, none⟩

def setup : Settings := ⟨schema, .empty none, false⟩

/-- The second field wants the class of the first one. There it has one accessor taken, and then none for the type
    name, under whose accessor name it selects a number. -/
def document : Document := ⟨[.operation ⟨none, .query, some "Q", [], [],
  [.nested ⟨none, "a_b", [], []⟩ [.leaf ⟨none, "n", [], []⟩, .leaf ⟨none, "__typename", [], []⟩],
    .nested ⟨some "a", "b", [], []⟩
      [.leaf ⟨some "m", "n", [], []⟩, .leaf ⟨some "typename__", "n", [], []⟩]]⟩]⟩

def accessorN : FieldAccess :=
  .fresh "n" [⟨"n", "int", "return cast(int, self.raw_result[\"n\"])", "Query", []⟩]

def accessorM : FieldAccess :=
  .fresh "m" [⟨"m", "int", "return cast(int, self.raw_result[\"m\"])", "Query", []⟩]

/-- The class of the first field, with the accessor that the second one added. -/
def shared : ObjectClass := ⟨"Q_AB", "Query", ["Query"],
  [.field accessorN, .fixed "typename__" "str" typenameBody, .field accessorM], []⟩

def generator : Generator := ⟨setup, ⟨[.leaf shared], by decide⟩, [], [], ∅⟩

theorem stops : (Generator.start setup).generate document
    = (.error (.invariant (.mergeConflict "typename__" "Q_AB")), generator) := by
  cbv

theorem reached : generator.Reached schema := by
  have before : Generator.Reached schema (.start setup) := .start rfl
  have after := before.generate (d := document)
  rwa [stops] at after

end Stopped

/-- A run that was stopped while a class took accessors leaves it with those that fit. -/
theorem representation_stopped :
    Stopped.generator.Reached Stopped.schema
      ∧ .leaf Stopped.shared ∈ Stopped.generator.progress.registry.classes
      ∧ Stopped.shared.WellFormed Stopped.schema
      ∧ ∃ types, Stopped.accessorM.rootPossible Stopped.schema = .ok types
        ∧ types.toList = Stopped.shared.possibleTypes := by
  obtain ⟨-, classes⟩ := Stopped.reached.representation
  have mem : .leaf Stopped.shared ∈ Stopped.generator.progress.registry.classes := List.mem_cons_self
  obtain ⟨wellFormed, -, -, roots⟩ := classes _ mem Stopped.shared rfl
  exact ⟨Stopped.reached, mem, wellFormed, roots Stopped.accessorM (by simp [Stopped.shared])⟩

end OperationClasses
