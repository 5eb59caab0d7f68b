/-
Module: OperationClasses.Proofs.Generation.Reading
Purpose: What the reading of a selection set does when it succeeds, occurrence by occurrence, and that it succeeds by
  doing so.
Main exports: Accessors.Claims, Accessors.Adds, Occurrence.Wraps, Builds, accessors_builds, Builds.yields,
  mem_classes_of_registerLeaf, Generates, yields_generateOperation_iff, generateOperations_induction
-/
import OperationClasses.Proofs.Generation.VariableSteps

namespace OperationClasses

open Generation

variable {settings : Settings} {p q : Progress}

/-! ### Accessors -/

namespace Accessors

/-- An accessor name is or becomes the name for a response key. -/
def Claims (a : Accessors) (name key : String) (b : Accessors) : Prop :=
  a.keys.lookup name = none ∧ b = { a with keys := a.keys ++ [(name, key)] }
    ∨ a.keys.lookup name = some key ∧ b = a

/-- An accessor is added to the one of its name, or as a new one. -/
def Adds (a : Accessors) (m : Method) (b : Accessors) : Prop :=
  Method.find? a.methods m.name = none ∧ b = { a with methods := a.methods ++ [m] }
    ∨ ∃ existing merged, Method.find? a.methods m.name = some existing
      ∧ existing.merge m = .ok (some merged)
      ∧ b = { a with methods := Method.put merged a.methods }

/-- Accessors whose dependencies were extended by those of a value. -/
def dependOn (a : Accessors) (typed : TypedOutput) : Accessors :=
  { a with dependencies := a.dependencies ++ typed.dependency.toList }

end Accessors

theorem yields_claim_iff {a b : Accessors} {owner name key : String} :
    Yields (a.claim owner name key) p b q ↔ a.Claims name key b ∧ q = p := by
  unfold Accessors.claim Accessors.Claims
  cases a.keys.lookup name with
  | none => simp
  | some other =>
    by_cases same : other = key
    · simp [same]
    · simp [same]

theorem yields_add_iff {a b : Accessors} {owner : String} {m : Method} :
    Yields (a.add owner m) p b q ↔ a.Adds m b ∧ q = p := by
  unfold Accessors.add Accessors.Adds
  cases Method.find? a.methods m.name with
  | none => simp
  | some existing =>
    simp only [yields_bind_iff, yields_invariant_iff]
    constructor
    · rintro ⟨merged, _, ⟨fits, rfl⟩, h⟩
      cases merged with
      | none => exact absurd h not_yields_throw
      | some merged =>
        obtain ⟨rfl, rfl⟩ := yields_pure_iff.1 h
        exact ⟨Or.inr ⟨existing, merged, rfl, fits, rfl⟩, rfl⟩
    · rintro ⟨⟨⟨⟩, _⟩ | ⟨_, merged, ⟨⟩, fits, rfl⟩, rfl⟩
      exact ⟨some merged, q, ⟨fits, rfl⟩, yields_pure_iff.2 ⟨rfl, rfl⟩⟩

/-- The value of an occurrence is typed and read through the layers of its type, given how one of its
    named type is. -/
structure Occurrence.Wraps (o : Occurrence) (core typed : TypedOutput) : Prop where
  signature : typed.signature = rewrap core.signature o.type.layers
  deserializer : outputConversion o.type.layers ("self.raw_result[\"" ++ o.key ++ "\"]")
    (listDepth o.type.layers) 0 core.deserializer = .ok typed.deserializer
  dependency : typed.dependency = core.dependency

theorem yields_wrapOutput_iff {o : Occurrence} {core typed : TypedOutput} :
    Yields (o.wrapOutput core) p typed q ↔ o.Wraps core typed ∧ q = p := by
  simp only [Occurrence.wrapOutput, yields_bind_iff, yields_converted_iff, yields_pure_iff]
  constructor
  · rintro ⟨body, _, ⟨written, rfl⟩, rfl, rfl⟩
    exact ⟨⟨rfl, written, rfl⟩, rfl⟩
  · rintro ⟨⟨signature, written, dependency⟩, rfl⟩
    refine ⟨_, _, ⟨written, rfl⟩, ?_, rfl⟩
    rw [← signature, ← dependency]

/-! ### Selection sets -/

/-- The type name has its own name as response key. -/
theorem Occurrence.key_of_isTypename {o : Occurrence} (h : o.isTypename) :
    o.key = typenameField.name := by
  obtain ⟨named, unaliased⟩ := Bool.and_eq_true_iff.1 h
  rw [Occurrence.key, FieldHead.responseKey, Option.isNone_iff_eq_none.1 unaliased]
  exact beq_iff_eq.1 named

/-- How a value of a class is typed and read. -/
def classOutput (className : String) : TypedOutput :=
  ⟨className, className ++ "($raw_value)", some className⟩

/-- Reading a type without selections reads a scalar or an enum. -/
theorem yields_coreOutput_iff {wanted : String} {o : Occurrence} {t : TypeDefinition} {core : TypedOutput}
    (type : settings.schema.core? o.type = some t) (simple : ¬ t.body.isComposite) :
    Yields (coreOutput settings wanted o) p core q
      ↔ (t.body = .scalar ∧ ∃ binding, Yields (scalarBinding settings t.name) p binding q
          ∧ core = ⟨binding.signature, binding.deserialize, none⟩)
        ∨ ∃ values className, t.body = .enum values ∧ Yields (enumClass t.name values) p className q
          ∧ core = classOutput className := by
  unfold coreOutput
  rw [type]
  dsimp only
  split
  · rename_i scalar
    simp only [scalar, yields_bind_iff, yields_pure_iff, true_and, reduceCtorEq, false_and, exists_false, or_false]
    constructor
    · rintro ⟨binding, _, bound, rfl, rfl⟩
      exact ⟨binding, bound, rfl⟩
    · rintro ⟨binding, bound, rfl⟩
      exact ⟨binding, _, bound, rfl, rfl⟩
  · rename_i values enum
    simp only [enum, yields_bind_iff, yields_pure_iff, reduceCtorEq, false_and, false_or]
    constructor
    · rintro ⟨className, _, read, rfl, rfl⟩
      exact ⟨values, className, rfl, read, rfl⟩
    · rintro ⟨_, className, ⟨⟩, read, rfl⟩
      exact ⟨className, _, read, rfl, rfl⟩
  · rename_i fields input
    simp [input]
  · rename_i notScalar notEnum notInput
    refine absurd ?_ simple
    cases body : t.body <;> simp_all [TypeBody.isComposite]

/-- The class that an occurrence wants for its values. -/
def Occurrence.wanted (o : Occurrence) (className : String) : String := className ++ "_" ++ o.suffix

/-- Occurrences are read one after the other for a class, starting from the accessors that are found
    already. The type name gives a fixed accessor, any other field one for its values. For values of a
    composite type, what is selected below is read first, and registered as a class. -/
inductive Builds (settings : Settings) :
    String → Accessors → List Occurrence → Progress → Accessors → Progress → Prop where
  | nil {className : String} {found : Accessors} {p : Progress} :
      Builds settings className found [] p found p
  | typename {className name : String} {found claimed added all : Accessors} {o : Occurrence}
      {rest : List Occurrence} {p q : Progress} (named : Naming.accessorName o.key = .ok name)
      (claims : found.Claims name o.key claimed) (isTypename : o.isTypename)
      (adds : claimed.Adds (.fixed name "str" typenameBody) added)
      (others : Builds settings className added rest p all q) :
      Builds settings className found (o :: rest) p all q
  | value {className name : String} {found claimed added all : Accessors} {o : Occurrence}
      {rest : List Occurrence} {t : TypeDefinition} {core typed : TypedOutput} {p r q : Progress}
      (named : Naming.accessorName o.key = .ok name) (claims : found.Claims name o.key claimed)
      (notTypename : ¬ o.isTypename) (type : settings.schema.core? o.type = some t)
      (simple : ¬ t.body.isComposite)
      (reads : Yields (coreOutput settings (o.wanted className) o) p core r)
      (supports : p.registry.Supports r.registry) (wraps : o.Wraps core typed)
      (adds : (claimed.dependOn typed).Adds (o.method name typed) added)
      (others : Builds settings className added rest r all q) :
      Builds settings className found (o :: rest) p all q
  | object {className name leaf : String} {found claimed inside added all : Accessors} {o : Occurrence}
      {rest below : List Occurrence} {selections : List Resolved} {t : TypeDefinition}
      {typed : TypedOutput}
      {p r r' q : Progress} (named : Naming.accessorName o.key = .ok name)
      (claims : found.Claims name o.key claimed) (notTypename : ¬ o.isTypename)
      (type : settings.schema.core? o.type = some t) (composite : t.body.isComposite)
      (selected : o.below = some selections)
      (occurs : occurrences settings.schema t selections = .ok below)
      (leafName : leaf = p.registry.leafName (o.wanted className) t.name)
      (reads : Builds settings leaf Accessors.empty below p inside r)
      (registers : Yields (registerLeaf settings leaf t (p.registry.find? leaf) inside.methods
        inside.dependencies) r () r')
      (wraps : o.Wraps (classOutput leaf) typed)
      (adds : (claimed.dependOn typed).Adds (o.method name typed) added)
      (others : Builds settings className added rest r' all q) :
      Builds settings className found (o :: rest) p all q

mutual

/-- What the reading of a selection set does. -/
theorem accessors_builds (className : String) (owner : TypeDefinition) (selections : List Resolved)
    {p q : Progress} {methods : List Method} {dependencies : List String}
    (h : Yields (accessors settings className owner selections) p (methods, dependencies) q) :
    ∃ os all, occurrences settings.schema owner selections = .ok os
      ∧ Builds settings className Accessors.empty os p all q
      ∧ methods = all.methods ∧ dependencies = all.dependencies := by
  unfold accessors at h
  split at h
  · exact absurd h not_yields_throw
  · rename_i os collected
    simp only [yields_bind_iff, yields_pure_iff] at h
    obtain ⟨all, _, read, same, rfl⟩ := h
    cases same
    have smaller : ∀ o ∈ os, o.weightBelow < Resolved.weightAll selections := fun o ho =>
      weightBelow_lt collected ho
    exact ⟨os, all, collected, addOccurrences_builds className _ os _ smaller read, rfl, rfl⟩
termination_by (Resolved.weightAll selections, 2, 0)

/-- What the reading of occurrences does. -/
theorem addOccurrences_builds (className : String) (found : Accessors) (os : List Occurrence)
    (bound : Nat) (smaller : ∀ o ∈ os, o.weightBelow < bound) {p q : Progress} {all : Accessors}
    (h : Yields (addOccurrences settings className found os bound smaller) p all q) :
    Builds settings className found os p all q := by
  match os with
  | [] =>
    rw [addOccurrences, yields_pure_iff] at h
    obtain ⟨rfl, rfl⟩ := h
    exact .nil
  | o :: rest =>
    unfold addOccurrences at h
    obtain ⟨added, r, first, others⟩ := yields_bind_iff.1 h
    have shorter : o.weightBelow < bound := smaller o List.mem_cons_self
    exact addOccurrence_builds className found o first
      (addOccurrences_builds className added rest bound
        (fun o ho => smaller o (List.mem_cons_of_mem _ ho)) others)
termination_by (bound, 1, os.length)
decreasing_by
  · simp [Prod.lex_def]
  · exact Prod.Lex.left _ _ shorter

/-- What the reading of one occurrence does, before others. -/
theorem addOccurrence_builds (className : String) (found : Accessors) (o : Occurrence)
    {p r q : Progress} {added all : Accessors} {rest : List Occurrence}
    (h : Yields (addOccurrence settings className found o) p added r)
    (others : Builds settings className added rest r all q) :
    Builds settings className found (o :: rest) p all q := by
  unfold addOccurrence at h
  simp only [yields_bind_iff, yields_named_iff, yields_claim_iff] at h
  obtain ⟨name, _, ⟨named, rfl⟩, claimed, _, ⟨claims, rfl⟩, h⟩ := h
  split at h
  · rename_i isTypename
    obtain ⟨adds, rfl⟩ := yields_add_iff.1 h
    exact .typename named claims isTypename adds others
  · rename_i notTypename
    simp only [yields_bind_iff, yields_wrapOutput_iff, yields_add_iff] at h
    obtain ⟨core, _, read, typed, _, ⟨wraps, rfl⟩, adds, rfl⟩ := h
    obtain ⟨t, type, ⟨simple, supports⟩ |
      ⟨composite, selections, below, inside, r', selected, occurs, inner,
      registers, rfl⟩⟩ := coreOutput_builds (o.wanted className) o read
    · exact .value named claims notTypename type simple read supports wraps adds others
    · exact .object named claims notTypename type composite selected occurs rfl inner registers
        wraps adds
        others
termination_by (o.weightBelow, 4, 0)

/-- What the reading of a named type does: for a composite one, it reads what is selected below and
    registers a class. -/
theorem coreOutput_builds (wanted : String) (o : Occurrence) {p r : Progress} {core : TypedOutput}
    (h : Yields (coreOutput settings wanted o) p core r) :
    ∃ t, settings.schema.core? o.type = some t
      ∧ (¬ t.body.isComposite ∧ p.registry.Supports r.registry
        ∨ t.body.isComposite ∧ ∃ selections below inside r', o.below = some selections
          ∧ occurrences settings.schema t selections = .ok below
          ∧ Builds settings (p.registry.leafName wanted t.name) Accessors.empty below p inside r'
          ∧ Yields (registerLeaf settings (p.registry.leafName wanted t.name) t
              (p.registry.find? (p.registry.leafName wanted t.name)) inside.methods inside.dependencies)
              r' () r
          ∧ core = classOutput (p.registry.leafName wanted t.name)) := by
  unfold coreOutput at h
  split at h
  · exact absurd h not_yields_throw
  · rename_i t type
    refine ⟨t, type, ?_⟩
    split at h
    · rename_i scalar
      simp only [yields_bind_iff, yields_pure_iff] at h
      obtain ⟨_, _, bound, _, rfl⟩ := h
      refine Or.inl ⟨by simp [scalar, TypeBody.isComposite], ?_⟩
      exact Supporting.closed.scalarBinding.supports bound
    · rename_i values enum
      simp only [yields_bind_iff, yields_pure_iff] at h
      obtain ⟨_, _, read, _, rfl⟩ := h
      exact Or.inl ⟨by simp [enum, TypeBody.isComposite], Supporting.closed.enumClass.supports read⟩
    · exact absurd h not_yields_throw
    · rename_i notScalar notEnum notInput
      have composite : t.body.isComposite := by
        cases body : t.body <;> simp_all [TypeBody.isComposite]
      refine Or.inr ⟨composite, ?_⟩
      split at h
      · exact absurd h not_yields_throw
      · rename_i below selected
        have smaller : Resolved.weightAll below = o.weightBelow := by
          simp [Occurrence.weightBelow, selected]
        simp only [yields_bind_iff, yields_get_iff, yields_pure_iff] at h
        obtain ⟨_, _, ⟨rfl, rfl⟩, ⟨methods, dependencies⟩, r', read, _, _, registers, rfl, rfl⟩ := h
        obtain ⟨os, all, occurs, inside, rfl, rfl⟩ := accessors_builds _ t below read
        exact ⟨below, os, all, r', selected, occurs, inside, registers, rfl⟩
termination_by (o.weightBelow, 3, 0)
decreasing_by
  rw [smaller]
  simp [Prod.lex_def]

end

/-- What is read of occurrences is what is read of their selection set. -/
theorem accessors_yields {className : String} {owner : TypeDefinition} {selections : List Resolved}
    {os : List Occurrence} {all : Accessors} {p q : Progress}
    (occurs : occurrences settings.schema owner selections = .ok os)
    (reads : ∀ bound smaller, Yields (addOccurrences settings className Accessors.empty os bound smaller) p all q) :
    Yields (accessors settings className owner selections) p (all.methods, all.dependencies) q := by
  unfold accessors
  split
  · rename_i fault failed
    rw [occurs] at failed
    cases failed
  · rename_i os known
    rw [occurs] at known
    cases known
    exact yields_bind_iff.2 ⟨all, q, reads _ _, yields_pure_iff.2 ⟨rfl, rfl⟩⟩

/-- What is read of a type is read by running the steps for it. -/
theorem coreOutput_yields {wanted leaf : String} {o : Occurrence} {t : TypeDefinition} {selections : List Resolved}
    {below : List Occurrence} {inside : Accessors} {p r q : Progress} (type : settings.schema.core? o.type = some t)
    (composite : t.body.isComposite) (selected : o.below = some selections)
    (occurs : occurrences settings.schema t selections = .ok below)
    (leafName : leaf = p.registry.leafName wanted t.name)
    (reads : ∀ bound smaller, Yields (addOccurrences settings leaf Accessors.empty below bound smaller) p inside r)
    (registers : Yields (registerLeaf settings leaf t (p.registry.find? leaf) inside.methods inside.dependencies)
      r () q) : Yields (coreOutput settings wanted o) p (classOutput leaf) q := by
  have inner := accessors_yields occurs reads
  subst leafName
  unfold coreOutput
  rw [type]
  dsimp only
  split
  · rename_i scalar
    simp [scalar, TypeBody.isComposite] at composite
  · rename_i enum
    simp [enum, TypeBody.isComposite] at composite
  · rename_i input
    simp [input, TypeBody.isComposite] at composite
  · split
    · rename_i none_
      rw [selected] at none_
      cases none_
    · rename_i some_
      rw [selected] at some_
      cases some_
      simp only [yields_bind_iff, yields_get_iff, yields_pure_iff]
      exact ⟨p, p, ⟨rfl, rfl⟩, _, r, inner, (), q, registers, rfl, rfl⟩

/-- What is read of occurrences is read by running the steps for them. -/
theorem Builds.yields {className : String} {found all : Accessors} {os : List Occurrence}
    (h : Builds settings className found os p all q) (bound : Nat) (smaller : ∀ o ∈ os, o.weightBelow < bound) :
    Yields (addOccurrences settings className found os bound smaller) p all q := by
  induction h generalizing bound with
  | nil =>
    rw [addOccurrences]
    exact yields_pure_iff.2 ⟨rfl, rfl⟩
  | @typename _ name _ claimed added _ _ _ p _ named claims isTypename adds _ ih =>
    unfold addOccurrences
    refine yields_bind_iff.2 ⟨added, p, ?_, ih bound _⟩
    unfold addOccurrence
    simp only [yields_bind_iff, yields_named_iff, yields_claim_iff]
    refine ⟨name, p, ⟨named, rfl⟩, claimed, p, ⟨claims, rfl⟩, ?_⟩
    rw [if_pos isTypename]
    exact yields_add_iff.2 ⟨adds, rfl⟩
  | @value _ name _ claimed added _ _ _ _ core typed p r _ named claims notTypename _ _ reads _ wraps adds _ ih =>
    unfold addOccurrences
    refine yields_bind_iff.2 ⟨added, r, ?_, ih bound _⟩
    unfold addOccurrence
    simp only [yields_bind_iff, yields_named_iff, yields_claim_iff]
    refine ⟨name, p, ⟨named, rfl⟩, claimed, p, ⟨claims, rfl⟩, ?_⟩
    rw [if_neg notTypename]
    simp only [yields_bind_iff, yields_wrapOutput_iff, yields_add_iff]
    exact ⟨core, r, reads, typed, r, ⟨wraps, rfl⟩, adds, rfl⟩
  | @object _ name leaf _ claimed _ added _ _ _ _ _ _ typed p _ r' _ named claims notTypename type composite selected
      occurs leafName _ registers wraps adds _ inside others =>
    unfold addOccurrences
    refine yields_bind_iff.2 ⟨added, r', ?_, others bound _⟩
    unfold addOccurrence
    simp only [yields_bind_iff, yields_named_iff, yields_claim_iff]
    refine ⟨name, p, ⟨named, rfl⟩, claimed, p, ⟨claims, rfl⟩, ?_⟩
    rw [if_neg notTypename]
    simp only [yields_bind_iff, yields_wrapOutput_iff, yields_add_iff]
    exact ⟨classOutput leaf, r', coreOutput_yields type composite selected occurs leafName inside registers, typed,
      r', ⟨wraps, rfl⟩, adds, rfl⟩

/-! ### Registering result classes -/

/-- A result class is registered, or takes further accessors if it is there for values of the type. -/
theorem yields_registerLeaf_iff {name : String} {type : TypeDefinition}
    {existing : Option ClassDefinition} {methods : List Method} {dependencies : List String} {u : Unit} :
    Yields (registerLeaf settings name type existing methods dependencies) p u q
      ↔ existing.any (·.isLeafOf type.name) ∧ (∃ c merged, p.registry.find? name = some (.leaf c)
          ∧ c.mergeMethods methods dependencies = (merged, none)
          ∧ q = { p with registry := p.registry.replace (.leaf merged) })
        ∨ ¬ existing.any (·.isLeafOf type.name) ∧ ∃ types registry,
          settings.schema.runtimeTypes type.name = .ok types
          ∧ p.registry.add (.leaf ⟨name, type.name, types.toList, methods, dependencies⟩) = .ok registry
          ∧ q = { p with registry := registry } := by
  unfold registerLeaf
  split
  · rename_i isLeaf
    simp only [isLeaf, true_and, not_true_eq_false, false_and, or_false, yields_bind_iff, yields_get_iff]
    constructor
    · rintro ⟨_, _, ⟨rfl, rfl⟩, h⟩
      split at h
      · rename_i c found
        simp only [yields_bind_iff, yields_set_iff] at h
        obtain ⟨_, _, rfl, h⟩ := h
        split at h
        · exact absurd h not_yields_throw
        · rename_i fits
          exact ⟨c, _, found, Prod.ext rfl fits, (yields_pure_iff.1 h).2⟩
      · exact absurd h not_yields_throw
    · rintro ⟨c, merged, found, merges, rfl⟩
      refine ⟨p, p, ⟨rfl, rfl⟩, ?_⟩
      simp [found, merges]
  · rename_i notLeaf
    rw [or_iff_right fun h => notLeaf h.1, and_iff_right notLeaf]
    simp only [yields_bind_iff, yields_invariant_iff, yields_register_iff]
    constructor
    · rintro ⟨types, _, ⟨known, rfl⟩, registry, added, rfl⟩
      exact ⟨types, registry, known, added, rfl⟩
    · rintro ⟨types, registry, known, added, rfl⟩
      exact ⟨types, p, ⟨known, rfl⟩, registry, added, rfl⟩

/-- A class that takes further accessors keeps its name and type. -/
theorem ObjectClass.mergeMethods_name {c merged : ObjectClass} {methods : List Method}
    {dependencies : List String} {fault : Option InvariantFault}
    (h : c.mergeMethods methods dependencies = (merged, fault)) :
    merged.name = c.name ∧ merged.typeName = c.typeName := by
  unfold mergeMethods at h
  split at h <;> cases h <;> exact ⟨rfl, rfl⟩

/-- A class that is there after a result class was registered was there before, or is the one of its name: one that
    took the accessors and dependencies, or a new one with them. -/
theorem mem_classes_of_registerLeaf {name : String} {type : TypeDefinition} {existing : Option ClassDefinition}
    {methods : List Method} {dependencies : List String} {u : Unit} {x : ClassDefinition}
    (h : Yields (registerLeaf settings name type existing methods dependencies) p u q) (mem : x ∈ q.registry.classes) :
    x ∈ p.registry.classes
      ∨ (∃ c added, .leaf c ∈ p.registry.classes ∧ c.name = name
        ∧ ObjectClass.addMethods c.name c.methods methods = (added, none)
        ∧ x = .leaf { c with methods := added, dependencies := c.dependencies ++ dependencies })
      ∨ ∃ types, x = .leaf ⟨name, type.name, types, methods, dependencies⟩ := by
  rcases yields_registerLeaf_iff.1 h with ⟨_, c, merged, found, merges, rfl⟩ |
    ⟨_, types, registry, _, added, rfl⟩
  · refine (Registry.mem_classes_of_replace mem).imp_right ?_
    rintro rfl
    unfold ObjectClass.mergeMethods at merges
    split at merges
    · rename_i all added
      cases merges
      exact Or.inl ⟨c, all, Registry.mem_classes_of_find? found, Registry.name_of_find? found, added, rfl⟩
    · cases merges
  · exact (Registry.mem_classes_of_add added mem).imp_right fun new => Or.inr ⟨types.toList, new⟩

/-- Registering a result class is growth. -/
theorem registerLeaf_grows {name : String} {type : TypeDefinition} {existing : Option ClassDefinition}
    {methods : List Method} {dependencies : List String} {u : Unit}
    (h : Yields (registerLeaf settings name type existing methods dependencies) p u q) :
    p.registry.Grows q.registry := by
  rcases yields_registerLeaf_iff.1 h with ⟨_, c, merged, found, merges, rfl⟩ |
    ⟨_, types, registry, _, added, rfl⟩
  · obtain ⟨sameName, sameType⟩ := ObjectClass.mergeMethods_name merges
    have named : c.name = name := Registry.name_of_find? found
    have there : p.registry.find? (ClassDefinition.leaf merged).name = some (.leaf c) := by
      rw [ClassDefinition.name, sameName, named, found]
    exact .replace there (congrArg ClassRole.leaf sameType)
  · exact .of_add added

/-- What is read adds classes and keeps those that are there. -/
theorem Builds.grows {className : String} {found all : Accessors} {os : List Occurrence}
    (h : Builds settings className found os p all q) : p.registry.Grows q.registry := by
  induction h with
  | nil => exact .refl
  | typename _ _ _ _ _ ih => exact ih
  | value _ _ _ _ _ _ supports _ _ _ ih => exact supports.grows.trans ih
  | object _ _ _ _ _ _ _ _ _ registers _ _ _ inside others =>
    exact (inside.trans (registerLeaf_grows registers)).trans others

/-- After a result class was registered, it is found for values of its type. -/
theorem registerLeaf_found {name : String} {type : TypeDefinition} {existing : Option ClassDefinition}
    {methods : List Method} {dependencies : List String} {u : Unit}
    (h : Yields (registerLeaf settings name type existing methods dependencies) p u q)
    (before : ∀ c, existing = some c → ∃ c', p.registry.find? name = some c' ∧ c'.role = c.role) :
    ∃ c, q.registry.find? name = some (.leaf c) ∧ c.typeName = type.name := by
  rcases yields_registerLeaf_iff.1 h with ⟨isLeaf, c, merged, found, merges, rfl⟩ |
    ⟨_, types, registry, _, added, rfl⟩
  · obtain ⟨sameName, sameType⟩ := ObjectClass.mergeMethods_name merges
    have named : c.name = name := Registry.name_of_find? found
    refine ⟨merged, ?_, ?_⟩
    · rw [← named, ← sameName]
      refine Registry.find?_replace (c := .leaf merged) (Registry.mem_names_iff.2 ⟨.leaf c, ?_⟩)
      rw [ClassDefinition.name, sameName, named, found]
    · obtain ⟨old, rfl, oldLeaf⟩ := (Option.any_eq_true _ _).1 isLeaf
      obtain ⟨c', found', same⟩ := before old rfl
      rw [found] at found'
      cases found'
      rw [ClassDefinition.isLeafOf_iff, ← same] at oldLeaf
      rw [sameType]
      exact ClassRole.leaf.inj oldLeaf
  · exact ⟨⟨name, type.name, types.toList, methods, dependencies⟩, Registry.find?_of_add added, rfl⟩

/-- Once the class that an occurrence wants is registered, it is there for good, and the occurrence still
    wants it. -/
theorem registerLeaf_stays {r₁ r₂ : Progress} {r : Registry} {wanted leaf : String} {t : TypeDefinition}
    {methods : List Method} {dependencies : List String} {u : Unit}
    (leafName : leaf = p.registry.leafName wanted t.name) (before : p.registry.Grows r₁.registry)
    (registers : Yields (registerLeaf settings leaf t (p.registry.find? leaf) methods dependencies) r₁ u r₂)
    (after : r₂.registry.Grows r) :
    ∃ c, r.find? leaf = some (.leaf c) ∧ c.typeName = t.name ∧ r.leafName wanted t.name = leaf := by
  obtain ⟨c, registered, typed⟩ := registerLeaf_found registers fun c h => before _ _ h
  obtain ⟨c', atEnd, same⟩ := after _ _ registered
  rw [ClassDefinition.role, typed] at same
  have fromStart := (before.trans (registerLeaf_grows registers)).trans after
  have leafAtEnd := ClassDefinition.isLeafOf_iff.2 same
  rw [leafName] at atEnd
  have final := fromStart.leafName atEnd leafAtEnd
  rw [← leafName] at atEnd final
  cases c' with
  | leaf c' => exact ⟨c', atEnd, ClassRole.leaf.inj same, final⟩
  | enum | input | root => cases same

/-! ### Operations -/

/-- What the generation of an operation does: its variables are read, then its selections, and then its
    class is registered. -/
structure Generates (settings : Settings) (table : List Fragment) (o : Operation) (p : Progress)
    (c : ObjectClass) (details : OperationDetails) (all : Accessors) (os : List Occurrence)
    (owner : TypeDefinition) (between before : Progress) (registry : Registry) : Prop where
  named : Naming.operationClassName o.name = .ok c.name
  type : settings.schema.rootType o.kind = some owner
  typed : c.typeName = owner.name
  declares : Yields (o.declarations.mapM (declaredVariable settings)) p details.parameters between
  supports : p.registry.Supports between.registry
  occurs : occurrences settings.schema owner (resolveAll table table o.selections) = .ok os
  builds : Builds settings c.name Accessors.empty os between all before
  methods : c.methods = all.methods
  dependencies : c.dependencies = all.dependencies
  added : before.registry.add (.root c details) = .ok registry

/-- The generation of an operation reads its variables and its selections, and then registers its class. -/
theorem yields_generateOperation_iff {table : List Fragment} {o : Operation} {x : ClassDefinition} :
    Yields (generateOperation settings table o) p x q
      ↔ ∃ className owner parameters between os all last types registry,
        Naming.operationClassName o.name = .ok className ∧ settings.schema.rootType o.kind = some owner
          ∧ Yields (o.declarations.mapM (declaredVariable settings)) p parameters between
          ∧ occurrences settings.schema owner (resolveAll table table o.selections) = .ok os
          ∧ Builds settings className Accessors.empty os between all last
          ∧ settings.schema.runtimeTypes owner.name = .ok types
          ∧ x = .root ⟨className, owner.name, types.toList, all.methods, all.dependencies⟩
            ⟨className, o.kind.text, printDocument o (usedFragments table o.selections), parameters⟩
          ∧ last.registry.add x = .ok registry ∧ q = { last with registry := registry } := by
  have roots : ∀ {owner : TypeDefinition} {p q : Progress}, Yields (rootTypeOf settings.schema o.kind) p owner q
      ↔ settings.schema.rootType o.kind = some owner ∧ q = p := by
    intro owner p q
    unfold rootTypeOf
    cases settings.schema.rootType o.kind with
    | none => simp
    | some known => simp [eq_comm]
  unfold generateOperation
  simp only [yields_bind_iff, yields_named_iff, roots, yields_invariant_iff, yields_register_iff, yields_pure_iff]
  constructor
  · rintro ⟨className, p, ⟨named, rfl⟩, owner, _, ⟨root, rfl⟩, parameters, between, declared,
      ⟨methods, dependencies⟩, last, read, types, _, ⟨possible, rfl⟩, _, _, ⟨registry, added, rfl⟩, rfl, rfl⟩
    obtain ⟨os, all, occurs, builds, rfl, rfl⟩ := accessors_builds _ _ _ read
    exact ⟨className, owner, parameters, between, os, all, _, types, registry, named, root, declared, occurs, builds,
      possible, rfl, added, rfl⟩
  · rintro ⟨className, owner, parameters, between, os, all, last, types, registry, named, root, declared, occurs,
      builds, possible, rfl, added, rfl⟩
    exact ⟨className, p, ⟨named, rfl⟩, owner, p, ⟨root, rfl⟩, parameters, between, declared,
      (all.methods, all.dependencies), last, accessors_yields occurs builds.yields, types, last, ⟨possible, rfl⟩, (),
      _, ⟨registry, added, rfl⟩, rfl, rfl⟩

/-- The generation of an operation does this when it succeeds. -/
theorem generateOperation_generates {table : List Fragment} {o : Operation} {x : ClassDefinition}
    (h : Yields (generateOperation settings table o) p x q) :
    ∃ c details all os owner between before registry,
      Generates settings table o p c details all os owner between before registry
        ∧ x = .root c details ∧ q = { before with registry := registry } := by
  obtain ⟨className, owner, parameters, between, os, all, last, types, registry, named, root, declared, occurs,
    builds, -, rfl, added, rfl⟩ := yields_generateOperation_iff.1 h
  exact ⟨_, _, all, os, owner, between, _, registry,
    ⟨named, root, rfl, declared, Supporting.declaredVariables.supports declared, occurs, builds, rfl, rfl, added⟩,
    rfl, rfl⟩

/-- What holds before operations are generated, and after each of them if it held before it, holds after all of
    them. -/
theorem generateOperations_induction {table : List Fragment} {I : Progress → Prop} {os : List Operation}
    {cs : List ClassDefinition} (h : Yields (os.mapM (generateOperation settings table)) p cs q)
    (step : ∀ o ∈ os, ∀ {p c details all occurrences owner between before registry},
      Generates settings table o p c details all occurrences owner between before registry →
        I p → I { before with registry := registry })
    (start : I p) : I q := by
  induction os generalizing p cs with
  | nil => rwa [(yields_pure_iff.1 h).2]
  | cons o rest ih =>
    obtain ⟨first, others⟩ := List.forall_mem_cons.1 step
    obtain ⟨x, r, _, generated, later, rfl⟩ := yields_mapM_cons_iff.1 h
    obtain ⟨c, details, all, occurrences, owner, between, before, registry, generates, rfl, rfl⟩ :=
      generateOperation_generates generated
    exact ih later others (first generates start)

/-- The generation of an operation adds classes and keeps those that are there. -/
theorem Generates.grows {table : List Fragment} {o : Operation} {c : ObjectClass} {details : OperationDetails}
    {all : Accessors} {os : List Occurrence} {owner : TypeDefinition} {between before : Progress}
    {registry : Registry} (h : Generates settings table o p c details all os owner between before registry) :
    p.registry.Grows registry :=
  (h.supports.grows.trans h.builds.grows).trans (.of_add h.added)

end OperationClasses
