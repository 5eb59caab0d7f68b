/-
Module: OperationClasses.Proofs.Generation.Retention
Purpose: Classes keep the accessors, paths and dependencies that they have got, so what a selection set adds to its
  class is there at the end of a run.
Main exports: Method.Covers, Covered, ClassDefinition.Extends, Registry.Keeps, registerLeaf_takes, Builds.keeps,
  Accessors.Keeps, Builds.accessors_keeps, generateOperations_keeps, exists_generates
-/
import OperationClasses.Proofs.Generation.Accumulation

namespace OperationClasses

variable {settings : Settings} {p q : Progress}

/-! ### Accessors -/

/-- An accessor has all that another one has: it is the same, or has its name and all of its paths. -/
inductive Method.Covers : Method → Method → Prop where
  | fixed {name signature body : String} :
      Method.Covers (.fixed name signature body) (.fixed name signature body)
  | field {a b : FieldAccess} (name : a.name = b.name) (paths : ∀ path ∈ b.paths, path ∈ a.paths) :
      Method.Covers (.field a) (.field b)

/-- One of the accessors has all that an accessor has. -/
def Covered (methods : List Method) (m : Method) : Prop := ∃ m' ∈ methods, m'.Covers m

namespace Method

variable {m m' m'' other merged x : Method} {methods : List Method}

theorem Covers.refl (m : Method) : m.Covers m := by
  cases m with
  | fixed => exact .fixed
  | field => exact .field rfl fun _ h => h

theorem Covers.trans (h : m''.Covers m') (h' : m'.Covers m) : m''.Covers m := by
  cases h with
  | fixed => exact h'
  | field name paths =>
    cases h' with
    | field name' paths' => exact .field (name.trans name') fun path hp => paths path (paths' path hp)

theorem Covers.name (h : m'.Covers m) : m'.name = m.name := by
  cases h with
  | fixed => rfl
  | field name _ => exact name

/-- A merged accessor has all that both have. -/
theorem merge_covers (h : m.merge other = .ok (some merged)) (same : m.name = other.name) :
    merged.Covers m ∧ merged.Covers other := by
  cases m with
  | fixed name signature body =>
    by_cases equal : Method.fixed name signature body = other
    · subst equal
      obtain rfl : merged = .fixed name signature body := by
        simpa [merge, pure, Except.pure] using h.symm
      exact ⟨.refl _, .refl _⟩
    · simp [merge, equal, pure, Except.pure] at h
  | field a =>
    cases other with
    | fixed => simp [merge, pure, Except.pure] at h
    | field b =>
      simp only [merge] at h
      obtain ⟨c, merges, last⟩ := bind_ok h
      cases last
      unfold FieldAccess.merge at merges
      split at merges
      · exact absurd merges (by rintro ⟨⟩)
      · cases merges
        exact ⟨.field rfl fun path => List.mem_append_left _,
          .field same fun path => List.mem_append_right _⟩

/-- An accessor is put in the place of the one of its name, and the others stay. -/
theorem mem_put (m : Method) : m ∈ put m methods := by
  induction methods with
  | nil => exact List.mem_cons_self
  | cons first rest ih =>
    unfold put
    split
    · exact List.mem_cons_self
    · exact List.mem_cons_of_mem _ ih

theorem mem_put_of_mem (h : x ∈ methods) : x ∈ put m methods ∨ find? methods m.name = some x := by
  induction methods with
  | nil => exact absurd h List.not_mem_nil
  | cons first rest ih =>
    unfold put find?
    by_cases same : first.name = m.name
    · rw [if_pos same, List.find?_cons_of_pos (by simpa using same)]
      rcases List.mem_cons.1 h with rfl | h
      · exact Or.inr rfl
      · exact Or.inl (List.mem_cons_of_mem _ h)
    · rw [if_neg same, List.find?_cons_of_neg (by simpa using same)]
      rcases List.mem_cons.1 h with rfl | h
      · exact Or.inl List.mem_cons_self
      · exact (ih h).imp_left (List.mem_cons_of_mem _)

end Method

namespace Covered

variable {m m' : Method} {methods methods' : List Method}

theorem of_mem (h : m ∈ methods) : Covered methods m := ⟨m, h, .refl m⟩

theorem trans (h : Covered methods m) (h' : ∀ x ∈ methods, Covered methods' x) : Covered methods' m := by
  obtain ⟨x, hx, covers⟩ := h
  obtain ⟨y, hy, covers'⟩ := h' x hx
  exact ⟨y, hy, covers'.trans covers⟩

/-- Merging an accessor into the one of its name keeps all accessors, and adds the new one. -/
theorem put {existing merged : Method} (found : Method.find? methods m.name = some existing)
    (merges : existing.merge m = .ok (some merged)) :
    Covered (Method.put merged methods) m
      ∧ ∀ x ∈ methods, Covered (Method.put merged methods) x := by
  obtain ⟨-, same⟩ := Method.mem_of_find? found
  obtain ⟨old, new⟩ := Method.merge_covers merges same
  refine ⟨⟨merged, Method.mem_put merged, new⟩, fun x hx => ?_⟩
  rcases Method.mem_put_of_mem hx with kept | replaced
  · exact .of_mem kept
  · rw [new.name, found] at replaced
    cases replaced
    exact ⟨merged, Method.mem_put merged, old⟩

end Covered

/-- Adding an accessor keeps all that was found before. -/
theorem Accessors.Adds.covered {a b : Accessors} {m : Method} (h : a.Adds m b) :
    Covered b.methods m ∧ ∀ x ∈ a.methods, Covered b.methods x := by
  rcases h with ⟨_, rfl⟩ | ⟨existing, merged, found, merges, rfl⟩
  · refine ⟨.of_mem ?_, fun x hx => .of_mem ?_⟩
    · exact List.mem_append_right _ List.mem_cons_self
    · exact List.mem_append_left _ hx
  · exact Covered.put found merges

/-- A class that takes further accessors keeps its own, even if not all of the further ones fit. -/
theorem ObjectClass.addMethods_keeps {owner : String} {extras methods added : List Method}
    {fault : Option InvariantFault} (h : addMethods owner methods extras = (added, fault)) :
    ∀ m ∈ methods, Covered added m := by
  induction extras generalizing methods with
  | nil =>
    cases h
    exact fun m hm => .of_mem hm
  | cons extra rest ih =>
    unfold addMethods at h
    split at h
    · exact fun m hm => ih h m (List.mem_append_left _ hm)
    · rename_i existing found
      split at h
      · rename_i merged merges
        exact fun m hm => ((Covered.put found merges).2 m hm).trans (ih h)
      · cases h
        exact fun m hm => .of_mem hm
      · cases h
        exact fun m hm => .of_mem hm

/-- A class that takes further accessors, all of which fit, has them. -/
theorem ObjectClass.addMethods_covered {owner : String} {extras methods added : List Method}
    (h : addMethods owner methods extras = (added, none)) : ∀ m ∈ extras, Covered added m := by
  induction extras generalizing methods with
  | nil => exact fun m hm => absurd hm List.not_mem_nil
  | cons extra rest ih =>
    unfold addMethods at h
    split at h
    · intro m hm
      rcases List.mem_cons.1 hm with rfl | hm
      · exact addMethods_keeps h m (List.mem_append_right _ List.mem_cons_self)
      · exact ih h m hm
    · rename_i existing found
      split at h
      · rename_i merged merges
        intro m hm
        rcases List.mem_cons.1 hm with rfl | hm
        · exact (Covered.put found merges).1.trans (addMethods_keeps h)
        · exact ih h m hm
      · cases h
      · cases h

/-! ### Classes -/

/-- A class has all that another one has: it is the same, or both are for values of the same type and it has
    the accessors and dependencies of the other. -/
inductive ClassDefinition.Extends : ClassDefinition → ClassDefinition → Prop where
  | refl {c : ClassDefinition} : ClassDefinition.Extends c c
  | leaf {c c' : ObjectClass} (type : c'.typeName = c.typeName)
      (methods : ∀ m ∈ c.methods, Covered c'.methods m)
      (dependencies : ∀ d ∈ c.dependencies, d ∈ c'.dependencies) :
      ClassDefinition.Extends (.leaf c') (.leaf c)

namespace ClassDefinition.Extends

variable {c c' c'' : ClassDefinition}

theorem trans (h : c''.Extends c') (h' : c'.Extends c) : c''.Extends c := by
  cases h with
  | refl => exact h'
  | leaf type methods dependencies =>
    cases h' with
    | refl => exact .leaf type methods dependencies
    | leaf type' methods' dependencies' =>
      refine .leaf (type.trans type') (fun m hm => (methods' m hm).trans methods) fun d hd => ?_
      exact dependencies d (dependencies' d hd)

theorem role (h : c'.Extends c) : c'.role = c.role := by
  cases h with
  | refl => rfl
  | leaf type => exact congrArg ClassRole.leaf type

theorem methods (h : c'.Extends c) : ∀ m ∈ c.methods, Covered c'.methods m := by
  cases h with
  | refl => exact fun m hm => .of_mem hm
  | leaf _ methods => exact methods

theorem dependencies (h : c'.Extends c) : ∀ d ∈ c.dependencies, d ∈ c'.dependencies := by
  cases h with
  | refl => exact fun d hd => hd
  | leaf _ _ dependencies =>
    intro d hd
    exact NameSet.mem_ofList.2 (dependencies d (NameSet.mem_ofList.1 hd))

end ClassDefinition.Extends

/-- Classes stay under their names, with all that they have. -/
def Registry.Keeps (r r' : Registry) : Prop :=
  ∀ name c, r.find? name = some c → ∃ c', r'.find? name = some c' ∧ c'.Extends c

namespace Registry.Keeps

variable {r r' r'' : Registry}

theorem refl : r.Keeps r := fun _ c h => ⟨c, h, .refl⟩

theorem trans (h : r.Keeps r') (h' : r'.Keeps r'') : r.Keeps r'' := by
  intro name c found
  obtain ⟨c', found', extends_⟩ := h name c found
  obtain ⟨c'', found'', extends'⟩ := h' name c' found'
  exact ⟨c'', found'', extends'.trans extends_⟩

theorem of_append {added : List ClassDefinition} (h : r'.classes = r.classes ++ added) : r.Keeps r' :=
  fun _ c found => ⟨c, find?_of_append h found, .refl⟩

theorem of_add {c : ClassDefinition} (h : r.add c = .ok r') : r.Keeps r' :=
  .of_append (add_eq_ok_iff.1 h).2

theorem of_supports (h : r.Supports r') : r.Keeps r' := by
  obtain ⟨added, classes, -⟩ := h
  exact .of_append classes

theorem replace {c old : ClassDefinition} (found : r.find? c.name = some old) (extends_ : c.Extends old) :
    r.Keeps (r.replace c) := by
  intro name other h
  by_cases named : name = c.name
  · subst named
    rw [found] at h
    cases h
    exact ⟨c, find?_replace (mem_names_iff.2 ⟨old, found⟩), extends_⟩
  · exact ⟨other, by rw [find?_replace_of_ne named, h], .refl⟩

theorem grows (h : r.Keeps r') : r.Grows r' := by
  intro name c found
  obtain ⟨c', found', extends_⟩ := h name c found
  exact ⟨c', found', extends_.role⟩

end Registry.Keeps

/-! ### Steps -/

/-- A class that takes further accessors keeps what it has, even if not all of them fit, and depends on nothing but
    what it did and what it is to. -/
theorem ObjectClass.mergeMethods_extends {c merged : ObjectClass} {methods : List Method}
    {dependencies : List String} {fault : Option InvariantFault}
    (h : c.mergeMethods methods dependencies = (merged, fault)) :
    (ClassDefinition.leaf merged).Extends (.leaf c)
      ∧ ∀ d ∈ merged.dependencies, d ∈ c.dependencies ∨ d ∈ dependencies := by
  unfold mergeMethods at h
  split at h
  · rename_i all added
    cases h
    refine ⟨.leaf rfl (addMethods_keeps added) fun d hd => List.mem_append_left _ hd, fun d hd => ?_⟩
    exact List.mem_append.1 hd
  · rename_i all fault added
    cases h
    exact ⟨.leaf rfl (addMethods_keeps added) fun d hd => hd, fun d hd => Or.inl hd⟩

/-- A class that takes further accessors and dependencies has them. -/
theorem ObjectClass.mergeMethods_takes {c merged : ObjectClass} {methods : List Method}
    {dependencies : List String} (h : c.mergeMethods methods dependencies = (merged, none)) :
    (∀ m ∈ methods, Covered merged.methods m) ∧ ∀ d ∈ dependencies, d ∈ merged.dependencies := by
  unfold mergeMethods at h
  split at h
  · rename_i all added
    cases h
    exact ⟨addMethods_covered added, fun d hd => List.mem_append_right _ hd⟩
  · cases h

/-- Registering a result class keeps the others, and gives it what it is registered with. -/
theorem registerLeaf_takes {name : String} {type : TypeDefinition} {existing : Option ClassDefinition}
    {methods : List Method} {dependencies : List String} {u : Unit}
    (h : Yields (registerLeaf settings name type existing methods dependencies) p u q) :
    p.registry.Keeps q.registry ∧ ∃ c, q.registry.find? name = some (.leaf c)
      ∧ (∀ m ∈ methods, Covered c.methods m) ∧ ∀ d ∈ dependencies, d ∈ c.dependencies := by
  rcases yields_registerLeaf_iff.1 h with ⟨_, c, merged, found, merges, rfl⟩ |
    ⟨_, types, registry, _, added, rfl⟩
  · obtain ⟨sameName, -⟩ := ObjectClass.mergeMethods_name merges
    obtain ⟨extends_, -⟩ := ObjectClass.mergeMethods_extends merges
    obtain ⟨new, depends⟩ := ObjectClass.mergeMethods_takes merges
    have named : c.name = name := Registry.name_of_find? found
    have there : p.registry.find? (ClassDefinition.leaf merged).name = some (.leaf c) := by
      rw [ClassDefinition.name, sameName, named, found]
    refine ⟨.replace there extends_, merged, ?_, new, depends⟩
    rw [← named, ← sameName]
    exact Registry.find?_replace (Registry.mem_names_iff.2 ⟨_, there⟩)
  · exact ⟨.of_add added, ⟨name, type.name, types.toList, methods, dependencies⟩, Registry.find?_of_add added,
      fun _ hm => .of_mem hm, fun _ hd => hd⟩

/-- Reading a selection set keeps all classes. -/
theorem Builds.keeps {className : String} {found all : Accessors} {os : List Occurrence}
    (h : Builds settings className found os p all q) : p.registry.Keeps q.registry := by
  induction h with
  | nil => exact .refl
  | typename _ _ _ _ _ ih => exact ih
  | value _ _ _ _ _ _ supports _ _ _ ih => exact (Registry.Keeps.of_supports supports).trans ih
  | object _ _ _ _ _ _ _ _ _ registers _ _ _ inside others =>
    exact (inside.trans (registerLeaf_takes registers).1).trans others

/-- Accessors that were found keep their paths and response keys, and dependencies stay. -/
structure Accessors.Keeps (a b : Accessors) : Prop where
  methods : ∀ m ∈ a.methods, Covered b.methods m
  keys : ∀ name key, a.keys.lookup name = some key → b.keys.lookup name = some key
  dependencies : ∀ d ∈ a.dependencies, d ∈ b.dependencies

namespace Accessors.Keeps

variable {a b c : Accessors} {m : Method} {name key : String}

theorem refl : a.Keeps a := ⟨fun _ hm => .of_mem hm, fun _ _ h => h, fun _ hd => hd⟩

theorem trans (h : a.Keeps b) (h' : b.Keeps c) : a.Keeps c where
  methods m hm := (h.methods m hm).trans h'.methods
  keys name key claimed := h'.keys name key (h.keys name key claimed)
  dependencies d hd := h'.dependencies d (h.dependencies d hd)

theorem of_claims (h : a.Claims name key b) : a.Keeps b := by
  rcases h with ⟨free, rfl⟩ | ⟨_, rfl⟩
  · refine ⟨fun _ hm => .of_mem hm, fun other key claimed => ?_, fun _ hd => hd⟩
    rw [List.lookup_append, claimed]
    rfl
  · exact .refl

theorem of_dependOn {typed : TypedOutput} : a.Keeps (a.dependOn typed) :=
  ⟨fun _ hm => .of_mem hm, fun _ _ h => h, fun _ hd => List.mem_append_left _ hd⟩

theorem of_adds (h : a.Adds m b) : a.Keeps b := by
  refine ⟨h.covered.2, fun name key claimed => ?_, fun d hd => ?_⟩
  · rcases h with ⟨_, rfl⟩ | ⟨_, _, _, _, rfl⟩ <;> exact claimed
  · rcases h with ⟨_, rfl⟩ | ⟨_, _, _, _, rfl⟩ <;> exact hd

end Accessors.Keeps

/-- A response key that is claimed has its accessor name. -/
theorem Accessors.Claims.lookup {a b : Accessors} {name key : String} (h : a.Claims name key b) :
    b.keys.lookup name = some key := by
  rcases h with ⟨free, rfl⟩ | ⟨claimed, rfl⟩
  · rw [List.lookup_append, free]
    simp
  · exact claimed

/-- Reading a selection set keeps what was found before. -/
theorem Builds.accessors_keeps {className : String} {found all : Accessors} {os : List Occurrence}
    (h : Builds settings className found os p all q) : found.Keeps all := by
  induction h with
  | nil => exact .refl
  | typename _ claims _ adds _ ih => exact ((Accessors.Keeps.of_claims claims).trans (.of_adds adds)).trans ih
  | value _ claims _ _ _ _ _ _ adds _ ih =>
    exact (((Accessors.Keeps.of_claims claims).trans .of_dependOn).trans (.of_adds adds)).trans ih
  | object _ claims _ _ _ _ _ _ _ _ _ adds _ _ ih =>
    exact (((Accessors.Keeps.of_claims claims).trans .of_dependOn).trans (.of_adds adds)).trans ih

/-- The generation of an operation keeps all classes. -/
theorem Generates.keeps {table : List Fragment} {o : Operation} {c : ObjectClass} {details : OperationDetails}
    {all : Accessors} {os : List Occurrence} {owner : TypeDefinition} {between before : Progress}
    {registry : Registry} (h : Generates settings table o p c details all os owner between before registry) :
    p.registry.Keeps registry :=
  ((Registry.Keeps.of_supports h.supports).trans h.builds.keeps).trans (.of_add h.added)

/-- So does the generation of operations. -/
theorem generateOperations_keeps {table : List Fragment} {os : List Operation} {cs : List ClassDefinition}
    (h : Yields (os.mapM (generateOperation settings table)) p cs q) : p.registry.Keeps q.registry :=
  generateOperations_induction (I := fun r => p.registry.Keeps r.registry) h
    (fun _ _ => fun generates before => before.trans generates.keeps) .refl

/-- Each of the operations is generated at some point, and the classes that are there after it are kept. -/
theorem exists_generates {table : List Fragment} {os : List Operation} {cs : List ClassDefinition}
    (h : Yields (os.mapM (generateOperation settings table)) p cs q) {o : Operation} (mem : o ∈ os) :
    ∃ p' c details all occurrences owner between before registry,
      Generates settings table o p' c details all occurrences owner between before registry
        ∧ registry.Keeps q.registry := by
  induction os generalizing p cs with
  | nil => exact absurd mem List.not_mem_nil
  | cons first rest ih =>
    obtain ⟨x, r, others, generated, later, rfl⟩ := yields_mapM_cons_iff.1 h
    rcases List.mem_cons.1 mem with rfl | mem
    · obtain ⟨c, details, all, occurrences, owner, between, before, registry, generates, rfl, rfl⟩ :=
        generateOperation_generates generated
      exact ⟨p, c, details, all, occurrences, owner, between, before, registry, generates,
        generateOperations_keeps later⟩
    · exact ih later mem

end OperationClasses
