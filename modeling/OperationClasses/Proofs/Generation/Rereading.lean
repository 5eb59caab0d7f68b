/-
Module: OperationClasses.Proofs.Generation.Rereading
Purpose: A selection set that is read once more changes nothing but how often paths and dependencies are listed.
Main exports: ClassDefinition.condensed, condensing, Unread, Progress.Unread, Builds.reread, Builds.resume
-/
import OperationClasses.Proofs.Accessor.Repetition
import OperationClasses.Proofs.Generation.Contribution
import OperationClasses.Proofs.Generation.Linking
import OperationClasses.Proofs.Generation.Views

namespace OperationClasses

open Generation

variable {settings : Settings} {p q r : Progress} {className lead : String} {methods extras : List Method}

/-! ### Classes without repetitions -/

/-- A result class with each path of an accessor once, and each class that it depends on. -/
def ObjectClass.condensed (c : ObjectClass) : ObjectClass :=
  { c with methods := c.methods.map Method.once, dependencies := (NameSet.ofList c.dependencies).toList }

/-- A class without repetitions. That of the operation `lead` is without the text that is sent, too. -/
def ClassDefinition.condensed (lead : String) : ClassDefinition → ClassDefinition
  | .leaf c => .leaf c.condensed
  | .root c operation =>
    .root c.condensed (if c.name = lead then { operation with queryText := "" } else operation)
  | other => other

theorem ObjectClass.condensed_eq_iff {c c' : ObjectClass} :
    c.condensed = c'.condensed ↔ c.name = c'.name ∧ c.typeName = c'.typeName ∧ c.possibleTypes = c'.possibleTypes
      ∧ c.methods.map Method.once = c'.methods.map Method.once
      ∧ NameSet.ofList c.dependencies = NameSet.ofList c'.dependencies := by
  have sets : ∀ s t : NameSet, s.toList = t.toList ↔ s = t := by
    rintro ⟨s, _⟩ ⟨t, _⟩
    simp
  simp only [condensed, mk.injEq, sets]

/-- Accessors that are the same up to repetitions take further ones alike, as far as these fit. -/
theorem ObjectClass.addMethods_once {methods' : List Method}
    (same : methods.map Method.once = methods'.map Method.once) (owner : String) (extras : List Method) :
    (addMethods owner methods extras).1.map Method.once = (addMethods owner methods' extras).1.map Method.once
      ∧ (addMethods owner methods extras).2 = (addMethods owner methods' extras).2 := by
  induction extras generalizing methods methods' with
  | nil => exact ⟨same, rfl⟩
  | cons extra rest ih =>
    have found : (Method.find? methods extra.name).map Method.once
        = (Method.find? methods' extra.name).map Method.once := by
      rw [← Method.find?_map_once, same, Method.find?_map_once]
    unfold addMethods
    cases first : Method.find? methods extra.name with
    | none =>
      rw [first] at found
      rw [Option.map_eq_none_iff.1 found.symm]
      apply ih
      rw [List.map_append, List.map_append, same]
    | some m =>
      rw [first] at found
      obtain ⟨m', second, once⟩ := Option.map_eq_some_iff.1 found.symm
      rw [second]
      have merges := Method.merge_once once.symm extra
      dsimp only
      cases merged : m.merge extra with
      | error fault =>
        cases merged' : m'.merge extra with
        | error fault' =>
          rw [merged, merged'] at merges
          cases merges
          exact ⟨same, rfl⟩
        | ok x' =>
          rw [merged, merged'] at merges
          cases merges
      | ok x =>
        cases merged' : m'.merge extra with
        | error fault' =>
          rw [merged, merged'] at merges
          cases merges
        | ok x' =>
          rw [merged, merged'] at merges
          have alike : x.map Method.once = x'.map Method.once := Except.ok.inj merges
          cases x with
          | none =>
            rw [Option.map_eq_none_iff.1 alike.symm]
            exact ⟨same, rfl⟩
          | some x =>
            obtain ⟨y, rfl, once'⟩ := Option.map_eq_some_iff.1 alike.symm
            apply ih
            rw [Method.map_once_put, Method.map_once_put, same, once']

/-- No step of a run looks at how often paths and dependencies are listed, or at what an operation sends. -/
def condensing (lead : String) : ClassView where
  view := ClassDefinition.condensed lead
  name c := by cases c <;> rfl
  leaf c type := by cases c <;> rfl
  merge c c' methods dependencies same := by
    obtain ⟨name, typeName, possible, once, depends⟩ := ObjectClass.condensed_eq_iff.1 (ClassDefinition.leaf.inj same)
    obtain ⟨added, faults⟩ := ObjectClass.addMethods_once once c.name methods
    unfold ObjectClass.mergeMethods
    rw [← name]
    rcases first : ObjectClass.addMethods c.name c.methods methods with ⟨all, fault⟩
    rcases second : ObjectClass.addMethods c.name c'.methods methods with ⟨all', fault'⟩
    rw [first, second] at added faults
    cases faults
    refine ⟨congrArg ClassDefinition.leaf ?_, ?_⟩
    · cases fault with
      | some fault => exact ObjectClass.condensed_eq_iff.2 ⟨rfl, typeName, possible, added, depends⟩
      | none =>
        refine ObjectClass.condensed_eq_iff.2 ⟨rfl, typeName, possible, added, ?_⟩
        apply NameSet.ext
        intro x
        have same := congrArg (x ∈ ·) depends
        simp only [NameSet.mem_ofList, eq_iff_iff] at same
        simp [same]
    · cases fault <;> rfl

/-! ### Accessors that were not read -/

/-- Accessors have different names, and nobody has read them yet. -/
structure Unread (methods : List Method) : Prop where
  distinct : Distinct methods
  made : ∀ m ∈ methods, m.Made fun _ => True

/-- The accessors of every class have different names, and nobody has read them yet. -/
structure Progress.Unread (p : Progress) : Prop where
  distinct : p.registry.Distinct
  made : p.Made fun _ _ => True

theorem Unread.nil : Unread [] := ⟨List.nodup_nil, fun _ hm => absurd hm List.not_mem_nil⟩

theorem Unread.adds {a b : Accessors} {m : Method} (h : Unread a.methods) (adds : a.Adds m b)
    (new : m.Made fun _ => True) : Unread b.methods := ⟨adds.distinct h.distinct, adds.made h.made new⟩

theorem Progress.Unread.of_class {c : ClassDefinition} (h : p.Unread) (mem : c ∈ p.registry.classes) :
    OperationClasses.Unread c.methods := ⟨h.distinct c mem, h.made c mem⟩

theorem Progress.Unread.supports (h : p.Unread) (supports : p.registry.Supports q.registry) : q.Unread :=
  ⟨h.distinct.supports supports, h.made.supports supports⟩

theorem registerLeaf_unread {name : String} {type : TypeDefinition} {existing : Option ClassDefinition}
    {dependencies : List String} {u : Unit}
    (h : Yields (registerLeaf settings name type existing methods dependencies) p u q) (old : p.Unread)
    (new : Unread methods) : q.Unread :=
  ⟨registerLeaf_distinct h old.distinct new.distinct, registerLeaf_made h old.made new.made⟩

/-- The accessor of an occurrence of a field is new. -/
theorem Occurrence.method_made (o : Occurrence) (name : String) (typed : TypedOutput) :
    (o.method name typed).Made fun _ => True := by
  refine .field (by simp) fun path hp => ?_
  rw [List.mem_singleton.1 hp]
  exact ⟨rfl, trivial⟩

/-- What is read of occurrences was not read itself. -/
theorem Builds.unread {found all : Accessors} {os : List Occurrence}
    (h : Builds settings className found os p all q) (old : Unread found.methods) (before : p.Unread) :
    Unread all.methods ∧ q.Unread := by
  induction h with
  | nil => exact ⟨old, before⟩
  | typename named claims isTypename adds _ ih =>
    rw [← claims.methods] at old
    rw [Occurrence.key_of_isTypename isTypename] at named
    exact ih (old.adds adds (.fixed named)) before
  | value _ claims _ _ _ _ supports _ adds _ ih =>
    rw [← claims.methods] at old
    exact ih (Unread.adds (a := Accessors.dependOn _ _) old adds (Occurrence.method_made ..)) (before.supports supports)
  | object _ claims _ _ _ _ _ _ _ registers _ adds _ inside others =>
    rw [← claims.methods] at old
    obtain ⟨own, between⟩ := inside .nil before
    exact others (Unread.adds (a := Accessors.dependOn _ _) old adds (Occurrence.method_made ..))
      (registerLeaf_unread registers between own)

/-! ### What is there already -/

/-- An accessor that was not read takes one whose paths it has, and is the same up to repetitions then. -/
theorem Method.Covers.merge {m x : Method} (h : m.Covers x) (made : m.Made fun _ => True) :
    ∃ merged, m.merge x = .ok (some merged) ∧ merged.once = m.once := by
  cases h with
  | fixed =>
    refine ⟨_, ?_, rfl⟩
    simp [Method.merge, pure, Except.pure]
  | field name paths =>
    cases made with
    | field =>
      refine ⟨_, rfl, ?_⟩
      simp only [once, FieldAccess.once, FieldAccess.fresh] at paths ⊢
      rw [eraseDups_append_of_subset paths]

/-- An accessor that is covered by others has one of its name among them, which takes it. -/
theorem Covered.merge {x : Method} (h : Covered methods x) (unread : Unread methods) :
    ∃ m merged, Method.find? methods x.name = some m ∧ m.merge x = .ok (some merged)
      ∧ (Method.put merged methods).map Method.once = methods.map Method.once := by
  obtain ⟨m, mem, covers⟩ := h
  have found : Method.find? methods x.name = some m := by
    cases found : Method.find? methods x.name with
    | none => exact absurd (beq_iff_eq.2 covers.name) (List.find?_eq_none.1 found m mem)
    | some other =>
      obtain ⟨mem', named⟩ := Method.mem_of_find? found
      rw [unread.distinct.eq_of_name mem' mem (named.trans covers.name.symm)]
  obtain ⟨merged, merges, once⟩ := covers.merge (unread.made m mem)
  refine ⟨m, merged, found, merges, ?_⟩
  rw [Method.map_once_put, once]
  apply Method.put_self
  rw [Method.find?_map_once, Method.name_once, covers.name, found]
  rfl

/-- Accessors that cover further ones take them, and are the same up to repetitions then. -/
theorem ObjectClass.addMethods_of_covered (owner : String) (unread : Unread methods)
    (new : ∀ x ∈ extras, x.Made fun _ => True) (covered : ∀ x ∈ extras, Covered methods x) :
    ∃ all, addMethods owner methods extras = (all, none) ∧ all.map Method.once = methods.map Method.once := by
  induction extras generalizing methods with
  | nil => exact ⟨methods, rfl, rfl⟩
  | cons extra rest ih =>
    obtain ⟨first, others⟩ := List.forall_mem_cons.1 covered
    obtain ⟨newFirst, newRest⟩ := List.forall_mem_cons.1 new
    obtain ⟨m, merged, found, merges, once⟩ := first.merge unread
    obtain ⟨mem, named⟩ := Method.mem_of_find? found
    have made : ∀ x ∈ Method.put merged methods, x.Made fun _ => True := by
      intro x hx
      rcases Method.mem_of_mem_put hx with rfl | hx
      · exact (unread.made m mem).merge newFirst named merges
      · exact unread.made x hx
    obtain ⟨all, added, same⟩ := ih ⟨unread.distinct.put found merges, made⟩ newRest fun x hx =>
      (others x hx).trans (Covered.put found merges).2
    refine ⟨all, ?_, same.trans once⟩
    unfold addMethods
    simp only [found, merges, added]

/-- A class that has further accessors and dependencies already takes them, and is the same up to repetitions then. -/
theorem ObjectClass.mergeMethods_of_covered {c : ObjectClass} {dependencies : List String} (unread : Unread c.methods)
    (new : ∀ x ∈ extras, x.Made fun _ => True) (covered : ∀ x ∈ extras, Covered c.methods x)
    (depends : ∀ d ∈ dependencies, d ∈ c.dependencies) :
    ∃ merged, c.mergeMethods extras dependencies = (merged, none) ∧ merged.condensed = c.condensed := by
  obtain ⟨all, added, once⟩ := addMethods_of_covered c.name unread new covered
  refine ⟨{ c with methods := all, dependencies := c.dependencies ++ dependencies }, ?_, ?_⟩
  · simp only [mergeMethods, added]
  · refine condensed_eq_iff.2 ⟨rfl, rfl, rfl, once, NameSet.ext fun d => ?_⟩
    simp only [NameSet.mem_ofList, List.mem_append, or_iff_left_iff_imp]
    exact depends d

/-! ### Reading again -/

/-- A type without selections that was read can be read again without any effect. -/
theorem coreOutput_reread {wanted : String} {o : Occurrence} {t : TypeDefinition} {core : TypedOutput}
    (type : settings.schema.core? o.type = some t) (simple : ¬ t.body.isComposite)
    (h : Yields (coreOutput settings wanted o) p core q) (keeps : q.Keeps r) :
    Yields (coreOutput settings wanted o) r core r := by
  apply (yields_coreOutput_iff type simple).2
  rcases (yields_coreOutput_iff type simple).1 h with
    ⟨scalar, binding, bound, rfl⟩ | ⟨values, className, enum, read, rfl⟩
  · obtain ⟨binds, rfl⟩ := yields_scalarBinding_iff.1 bound
    refine Or.inl ⟨scalar, binding, yields_scalarBinding_iff.2 ⟨binds, ?_⟩, rfl⟩
    have noted : r.imports ∪ binding.imports = r.imports := by
      apply NameSet.ext
      intro line
      rw [NameSet.mem_union, or_iff_left_iff_imp]
      exact fun new => keeps.imports line (NameSet.mem_union.2 (Or.inr new))
    rw [noted]
  · have known := keeps.enums _ _ (enumClass_got read)
    exact Or.inr ⟨values, className, enum, yields_enumClass_iff.2 (Or.inl ⟨known, rfl⟩), rfl⟩

/-- A class that has what is read for it already is registered again, and classes are the same up to repetitions. -/
theorem registerLeaf_reread (lead : String) {name : String} {type : TypeDefinition} {existing : Option ClassDefinition}
    {dependencies : List String} {c : ObjectClass} (there : p.registry.find? name = some (.leaf c)) (unread : p.Unread)
    (isLeaf : existing.any (·.isLeafOf type.name)) (new : ∀ m ∈ methods, m.Made fun _ => True)
    (covered : ∀ m ∈ methods, Covered c.methods m) (depends : ∀ d ∈ dependencies, d ∈ c.dependencies) :
    ∃ q, Yields (registerLeaf settings name type existing methods dependencies) p () q
      ∧ (condensing lead).Same p q := by
  have own : Unread c.methods := unread.of_class (Registry.mem_classes_of_find? there)
  obtain ⟨merged, merges, looks⟩ := ObjectClass.mergeMethods_of_covered own new covered depends
  have place : p.registry.find? (ClassDefinition.leaf merged).name = some (.leaf c) := by
    have named : merged.name = name :=
      (ObjectClass.condensed_eq_iff.1 looks).1.trans (Registry.name_of_find? there)
    rw [ClassDefinition.name, named, there]
  have looks : (condensing lead).view (.leaf merged) = (condensing lead).view (.leaf c) :=
    congrArg ClassDefinition.leaf looks
  exact ⟨_, yields_registerLeaf_iff.2 (Or.inl ⟨isLeaf, c, merged, there, merges, rfl⟩),
    ClassView.Same.refl.of_classes (.replace_self place looks)⟩

/-- Occurrences that were read can be read again, and classes are the same up to repetitions then: the classes of their
    values are there by now, and have the accessors that they take. -/
theorem Builds.reread (lead : String) {found all : Accessors} {os : List Occurrence}
    (h : Builds settings className found os p all q) (keeps : q.Keeps r) (unread : r.Unread) :
    ∃ r', Builds settings className found os r all r' ∧ (condensing lead).Same r r' := by
  induction h generalizing r with
  | nil => exact ⟨r, .nil, .refl⟩
  | typename named claims isTypename adds _ ih =>
    obtain ⟨r', builds, same⟩ := ih keeps unread
    exact ⟨r', .typename named claims isTypename adds builds, same⟩
  | value named claims notTypename type simple reads _ wraps adds others ih =>
    have again := coreOutput_reread type simple reads (others.keeps_progress.trans keeps)
    obtain ⟨r', builds, same⟩ := ih keeps unread
    exact ⟨r', .value named claims notTypename type simple again .refl wraps adds builds, same⟩
  | @object className name leaf found claimed inside added all o rest below selections t typed p r₁ r₂ q
      named claims notTypename type composite selected occurs leafName reads registers wraps adds others ih ih' =>
    have toEnd : r₂.Keeps r := others.keeps_progress.trans keeps
    obtain ⟨c, atEnd, typed', final⟩ := registerLeaf_stays leafName reads.grows registers toEnd.registry.grows
    obtain ⟨r₁', builds, same₁⟩ := ih ((registerLeaf_keeps registers).trans toEnd) unread
    obtain ⟨own, unread₁⟩ := builds.unread .nil unread
    -- the class has taken what was read below already
    obtain ⟨-, c₀, registered, new, depends⟩ := registerLeaf_takes registers
    obtain ⟨x, there, extends_⟩ := (toEnd.registry.trans builds.keeps) _ _ registered
    obtain ⟨c₁, rfl⟩ : ∃ c₁, x = .leaf c₁ := by
      cases extends_ <;> exact ⟨_, rfl⟩
    have covered : ∀ m ∈ inside.methods, Covered c₁.methods m := fun m hm => (new m hm).trans extends_.methods
    have depends : ∀ d ∈ inside.dependencies, d ∈ c₁.dependencies := fun d hd =>
      NameSet.mem_ofList.1 (extends_.dependencies d (NameSet.mem_ofList.2 (depends d hd)))
    have isLeaf : (r.registry.find? leaf).any (·.isLeafOf t.name) := by
      simp [atEnd, ClassDefinition.isLeafOf, typed']
    obtain ⟨r₂', again, same₂⟩ := registerLeaf_reread lead there unread₁ isLeaf own.made covered depends
    obtain ⟨r', builds', same₃⟩ := ih' (keeps.trans (builds.keeps_progress.trans (registerLeaf_keeps again)))
      (registerLeaf_unread again unread₁ own)
    exact ⟨r', .object named claims notTypename type composite selected occurs final.symm builds again wraps adds
      builds', same₁.trans (same₂.trans same₃)⟩

/-! ### Reading on -/

namespace Accessors

/-- What was found for a selection set at two points is the same up to repetitions. -/
structure Repeats (a b : Accessors) : Prop where
  methods : a.methods.map Method.once = b.methods.map Method.once
  dependencies : NameSet.ofList a.dependencies = NameSet.ofList b.dependencies

variable {a b found claimed : Accessors} {m : Method} {name key : String} {typed : TypedOutput}

theorem Repeats.refl : a.Repeats a := ⟨rfl, rfl⟩

theorem Repeats.trans {c : Accessors} (h : a.Repeats b) (h' : b.Repeats c) : a.Repeats c :=
  ⟨h.methods.trans h'.methods, h.dependencies.trans h'.dependencies⟩

/-- A response key that has its accessor name may claim it again. -/
theorem Claims.again (h : found.Claims name key claimed) (keeps : claimed.Keeps a) : a.Claims name key a :=
  Or.inr ⟨keeps.keys _ _ h.lookup, rfl⟩

/-- An accessor that is covered can be added. -/
theorem exists_adds (unread : Unread a.methods) (covered : Covered a.methods m) : ∃ b, a.Adds m b ∧ a.Repeats b := by
  obtain ⟨existing, merged, found, merges, once⟩ := covered.merge unread
  exact ⟨_, Or.inr ⟨existing, merged, found, merges, rfl⟩, once.symm, rfl⟩

/-- Classes that are referred to already can be referred to again. -/
theorem repeats_dependOn (keeps : (claimed.dependOn typed).Keeps a) : a.Repeats (a.dependOn typed) := by
  refine ⟨rfl, NameSet.ext fun d => ?_⟩
  simp only [dependOn, NameSet.mem_ofList, List.mem_append, iff_self_or]
  exact fun new => keeps.dependencies d (List.mem_append_right _ new)

end Accessors

/-- An occurrence of a field that was read can be read again behind all that was found. -/
theorem resume_field {found claimed added a : Accessors} {o : Occurrence} {name : String} {typed : TypedOutput}
    (claims : found.Claims name o.key claimed) (adds : (claimed.dependOn typed).Adds (o.method name typed) added)
    (keeps : added.Keeps a) (unread : Unread a.methods) :
    ∃ b, a.Claims name o.key a ∧ (a.dependOn typed).Adds (o.method name typed) b ∧ a.Repeats b ∧ a.Keeps b
      ∧ Unread b.methods := by
  have kept : (claimed.dependOn typed).Keeps a := (Accessors.Keeps.of_adds adds).trans keeps
  have unread : Unread (a.dependOn typed).methods := unread
  obtain ⟨b, adds', same⟩ := Accessors.exists_adds unread (adds.covered.1.trans keeps.methods)
  exact ⟨b, claims.again (Accessors.Keeps.of_dependOn.trans kept), adds', (Accessors.repeats_dependOn kept).trans same,
    Accessors.Keeps.of_dependOn.trans (.of_adds adds'), unread.adds adds' (Occurrence.method_made ..)⟩

/-- The reading of occurrences can be taken up again behind all that it found, and finds nothing new. -/
theorem Builds.resume {found all a : Accessors} {os : List Occurrence}
    (h : Builds settings className found os p all q) (keeps : all.Keeps a) (unread : Unread a.methods) :
    ∃ a', Builds settings className a os p a' q ∧ a.Repeats a' := by
  induction h generalizing a with
  | nil => exact ⟨a, .nil, .refl⟩
  | typename named claims isTypename adds others ih =>
    have kept := others.accessors_keeps.trans keeps
    have claims' := claims.again ((Accessors.Keeps.of_adds adds).trans kept)
    obtain ⟨b, adds', same⟩ := Accessors.exists_adds unread (adds.covered.1.trans kept.methods)
    have named' := named
    rw [Occurrence.key_of_isTypename isTypename] at named'
    obtain ⟨a', builds, same'⟩ := ih (keeps.trans (.of_adds adds')) (unread.adds adds' (.fixed named'))
    exact ⟨a', .typename named claims' isTypename adds' builds, same.trans same'⟩
  | value named claims notTypename type simple reads supports wraps adds others ih =>
    obtain ⟨b, claims', adds', same, kept, unread⟩ :=
      resume_field claims adds (others.accessors_keeps.trans keeps) unread
    obtain ⟨a', builds, same'⟩ := ih (keeps.trans kept) unread
    exact ⟨a', .value named claims' notTypename type simple reads supports wraps adds' builds, same.trans same'⟩
  | object named claims notTypename type composite selected occurs leafName reads registers wraps adds others _ ih =>
    obtain ⟨b, claims', adds', same, kept, unread⟩ :=
      resume_field claims adds (others.accessors_keeps.trans keeps) unread
    obtain ⟨a', builds, same'⟩ := ih (keeps.trans kept) unread
    exact ⟨a', .object named claims' notTypename type composite selected occurs leafName reads registers wraps adds'
      builds, same.trans same'⟩

end OperationClasses
