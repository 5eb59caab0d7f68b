/-
Module: OperationClasses.Proofs.Generation.Replaying
Purpose: An operation that was generated in one run can be generated in another one that has come to a part of it,
  with the same classes, unless a class has given way to one for an enum or input object type.
Main exports: Registry.GivesWay, Agree, Builds.again, Task.again
-/
import OperationClasses.Proofs.Generation.InputTypes
import OperationClasses.Proofs.Generation.Namespaces

namespace OperationClasses

open Generation

variable {settings : Settings} {p q r : Progress} {lead name className : String}

/-! ### Reading again -/

/-- The class of a selection set has given way to a class for an enum or input object type: it is named after that
    class and its own type. -/
def Registry.GivesWay (r : Registry) : Prop :=
  ∃ c ∈ r.classes, c.role = .support ∧ ∃ leaf, .leaf leaf ∈ r.classes ∧ leaf.name = c.name ++ "_" ++ leaf.typeName

/-- Two runs have the same classes under the names that belong to an operation, those aside that a whole run gives to
    enums and input object types. -/
def Agree (lead : String) (whole p p' : Progress) : Prop :=
  ∀ name, Owns lead name → whole.registry.Plain name → p'.registry.find? name = p.registry.find? name

theorem Progress.PartOf.plain {whole : Progress} (part : p.PartOf whole) (plain : whole.registry.Plain name) :
    p.registry.Plain name := by
  intro c found support
  obtain ⟨c', found', same⟩ := part.classes name c found
  exact plain c' found' (same (Or.inl support) ▸ support)

/-- Runs go on to agree as long as they spare the names that belong to the operation. -/
theorem Agree.step {whole p' q' : Progress} (agree : Agree lead whole p p')
    (spares : ∀ name, p.registry.Spares q.registry name) (grows : q.registry.Grows whole.registry)
    (spares' : ∀ name, p'.registry.Spares q'.registry name) (part : q'.PartOf whole) : Agree lead whole q q' := by
  intro name owned plain
  rw [spares' name (part.plain plain), agree name owned plain, spares name (plain.of_grows grows)]

theorem coreOutput_supports {wanted : String} {o : Occurrence} {t : TypeDefinition} {core : TypedOutput}
    (type : settings.schema.core? o.type = some t) (simple : ¬ t.body.isComposite)
    (h : Yields (coreOutput settings wanted o) p core q) : p.registry.Supports q.registry := by
  obtain ⟨t', type', ⟨-, supports⟩ | ⟨composite, -⟩⟩ := coreOutput_builds _ _ h
  · exact supports
  · rw [type] at type'
    cases type'
    exact absurd composite simple

/-- A class for results is not one for an enum or input object type, in the whole run neither. -/
theorem results_differ {whole : Registry} {c : ClassDefinition} {registry : Registry} (grows : registry.Grows whole)
    (found : registry.find? name = some c) (results : c.role ≠ .support) :
    ∃ c', whole.find? name = some c' ∧ ∀ x : ClassDefinition, x.role = c.role →
      (x.role = .support ∨ c'.role = .support → x = c') := by
  obtain ⟨c', found', role⟩ := grows _ _ found
  refine ⟨c', found', fun x same support => ?_⟩
  rw [same, role, or_self] at support
  exact absurd support results

/-- The class of a selection set that was registered in one run can be registered in another one. -/
theorem registerLeaf_again {whole r' : Progress} {leaf : String} {t : TypeDefinition}
    {existing : Option ClassDefinition} {methods : List Method} {dependencies : List String}
    (h : Yields (registerLeaf settings leaf t existing methods dependencies) r () q)
    (agree : r'.registry.find? leaf = r.registry.find? leaf) (grows : q.registry.Grows whole.registry)
    (part : r'.PartOf whole) :
    ∃ q', Yields (registerLeaf settings leaf t existing methods dependencies) r' () q' ∧ q'.PartOf whole
      ∧ q'.registry.find? leaf = q.registry.find? leaf := by
  rcases yields_registerLeaf_iff.1 h with ⟨isLeaf, c, merged, found, merges, rfl⟩ |
    ⟨notLeaf, types, registry, known, added, rfl⟩
  · have named : (ClassDefinition.leaf merged).name = leaf :=
      (ObjectClass.mergeMethods_name merges).1.trans (Registry.name_of_find? found)
    have replaced : ∀ {registry : Registry}, registry.find? leaf = some (.leaf c) →
        (registry.replace (.leaf merged)).find? leaf = some (.leaf merged) := by
      intro registry found
      rw [← named] at found ⊢
      exact Registry.find?_replace (Registry.mem_names_iff.2 ⟨_, found⟩)
    obtain ⟨c', found', differs⟩ := results_differ grows (replaced found) (by rintro ⟨⟩)
    refine ⟨{ r' with registry := r'.registry.replace (.leaf merged) },
      yields_registerLeaf_iff.2 (Or.inl ⟨isLeaf, c, merged, agree.trans found, merges, rfl⟩),
      part.of_registry fun name x hx => ?_, (replaced (agree.trans found)).trans (replaced found).symm⟩
    by_cases same : name = leaf
    · subst same
      rw [replaced (agree.trans found)] at hx
      cases hx
      exact Or.inr ⟨c', found', differs _ rfl⟩
    · rw [Registry.find?_replace_of_ne (named ▸ same)] at hx
      exact Or.inl hx
  · have here := Registry.find?_of_add added
    have free : leaf ∉ r'.registry.names := by
      rw [Registry.mem_names_iff, agree, ← Registry.mem_names_iff]
      exact (Registry.add_eq_ok_iff.1 added).1
    obtain ⟨registry', added'⟩ :=
      Registry.exists_add (c := .leaf ⟨leaf, t.name, types.toList, methods, dependencies⟩) free
    obtain ⟨c', found', differs⟩ := results_differ grows here (by rintro ⟨⟩)
    exact ⟨_, yields_registerLeaf_iff.2 (Or.inr ⟨notLeaf, types, registry', known, added', rfl⟩),
      part.add added' found' (differs _ rfl), (Registry.find?_of_add added').trans here.symm⟩

/-- The class name that an occurrence wants is not that of a class for an enum or input object type, unless the class
    that it gets has given way to that class. -/
theorem plain_wanted {wanted : String} {r : Registry} {c : ObjectClass} (calm : ¬ r.GivesWay)
    (found : r.find? (r.leafName wanted c.typeName) = some (.leaf c)) : r.Plain wanted := by
  intro x taken support
  refine calm ⟨x, Registry.mem_classes_of_find? taken, support, c, Registry.mem_classes_of_find? found, ?_⟩
  have other : ¬ x.isLeafOf c.typeName := by
    rw [ClassDefinition.isLeafOf_iff, support]
    rintro ⟨⟩
  have gives : r.leafName wanted c.typeName = wanted ++ "_" ++ c.typeName := by
    rw [Registry.leafName, taken]
    exact if_neg other
  rw [Registry.name_of_find? taken, ← gives]
  exact Registry.name_of_find? found

section Again

variable {whole p' : Progress} (final : Linked settings.schema [] whole) (full : whole.Recorded settings)
include final full

/-- A type without selections that was read in one run can be read as the same in another one. -/
theorem coreOutput_again {wanted : String} {o : Occurrence} {t : TypeDefinition} {core : TypedOutput}
    (type : settings.schema.core? o.type = some t) (simple : ¬ t.body.isComposite)
    (h : Yields (coreOutput settings wanted o) p core q) (keeps : q.Keeps whole) (recorded : p'.Recorded settings)
    (part : p'.PartOf whole) :
    ∃ q', Yields (coreOutput settings wanted o) p' core q' ∧ q'.PartOf whole := by
  rcases (yields_coreOutput_iff type simple).1 h with ⟨body, binding, bound, rfl⟩ | ⟨values, className, body, read, rfl⟩
  · obtain ⟨binds, rfl⟩ := yields_scalarBinding_iff.1 bound
    refine ⟨{ p' with imports := p'.imports ∪ binding.imports }, (yields_coreOutput_iff type simple).2
      (Or.inl ⟨body, binding, yields_scalarBinding_iff.2 ⟨binds, rfl⟩, rfl⟩), part.classes, fun line h => ?_⟩
    rcases NameSet.mem_union.1 h with old | new
    · exact part.imports line old
    · exact keeps.imports line (NameSet.mem_union.2 (Or.inr new))
  · have got := keeps.enums _ _ (enumClass_got read)
    obtain ⟨q', again, part'⟩ := enumClass_again final full (Schema.find?_name type) body got recorded part
    exact ⟨q', (yields_coreOutput_iff type simple).2 (Or.inr ⟨values, className, body, again, rfl⟩), part'⟩

/-- Occurrences that were read for a class of an operation in one run can be read in another one, and both runs go
    on to agree on the names that belong to the operation. -/
theorem Builds.again (calm : ¬ whole.registry.GivesWay) {found all : Accessors} {os : List Occurrence}
    (h : Builds settings className found os p all q) (owns : Owns lead className) (keeps : q.Keeps whole) :
    ∀ p', p'.Recorded settings → p'.PartOf whole → Agree lead whole p p' →
      ∃ q', Builds settings className found os p' all q' ∧ q'.PartOf whole ∧ Agree lead whole q q' := by
  induction h with
  | nil => exact fun p' recorded part agree => ⟨p', .nil, part, agree⟩
  | typename named claims isTypename adds others ih =>
    intro p' recorded part agree
    obtain ⟨q', builds, rest⟩ := ih owns keeps p' recorded part agree
    exact ⟨q', .typename named claims isTypename adds builds, rest⟩
  | value named claims notTypename type simple reads supports wraps adds others ih =>
    intro p' recorded part agree
    have kept := others.keeps_progress.trans keeps
    obtain ⟨r', again, part⟩ := coreOutput_again final full type simple reads kept recorded part
    have recorded := coreOutput_recorded type simple recorded again
    have supports' := coreOutput_supports type simple again
    have agree := agree.step (fun _ => .of_supports supports) kept.registry.grows (fun _ => .of_supports supports')
      part
    obtain ⟨q', builds, rest⟩ := ih owns keeps r' recorded part agree
    exact ⟨q', .value named claims notTypename type simple again supports' wraps adds builds, rest⟩
  | @object className name leaf _ _ _ _ _ o _ _ _ t _ p r₁ r₂ q named claims notTypename type composite selected occurs
      leafName reads registers wraps adds others inside after =>
    intro p' recorded part agree
    have kept := others.keeps_progress.trans keeps
    have leafOwned : Owns lead leaf := leafName ▸ owns.leafName p.registry o t.name
    obtain ⟨c, atEnd, typed, final_⟩ := registerLeaf_stays leafName reads.grows registers kept.registry.grows
    have wantedPlain : whole.registry.Plain (o.wanted className) := by
      refine plain_wanted calm (c := c) ?_
      rw [typed, final_, atEnd]
    have leafPlain : whole.registry.Plain leaf := .of_found .refl atEnd (by rintro ⟨⟩)
    have sameName : leaf = p'.registry.leafName (o.wanted className) t.name := by
      rw [leafName, Registry.leafName, Registry.leafName, agree _ (owns.wanted o) wantedPlain]
    obtain ⟨r₁', builds, part, agree'⟩ :=
      inside leafOwned ((registerLeaf_keeps registers).trans kept) p' recorded part agree
    obtain ⟨r₂', again, part, atLeaf⟩ :=
      registerLeaf_again registers (agree' leaf leafOwned leafPlain) kept.registry.grows part
    have recorded := registerLeaf_recorded (builds.recorded recorded) again
    have agree'' : Agree lead whole r₂ r₂' := by
      intro other owned plain
      by_cases same : other = leaf
      · rw [same, atLeaf]
      · rw [registerLeaf_spares same again (part.plain plain), agree' other owned plain,
          registerLeaf_spares same registers (plain.of_grows kept.registry.grows)]
    obtain ⟨q', builds', rest⟩ := after owns keeps r₂' recorded part agree''
    rw [← agree leaf leafOwned leafPlain] at again
    exact ⟨q', .object named claims notTypename type composite selected occurs sameName builds again wraps adds
      builds', rest⟩

/-- An operation that was generated in one run can be generated in another one that has no class of the operation
    either, and both have the same classes of the operation then. -/
theorem Task.again (calm : ¬ whole.registry.GivesWay) {t : Task} {x : ClassDefinition} (leads : t.Leads lead)
    (h : Yields (t.generate settings) p x q) (linked : Linked settings.schema [] p) (recorded : p.Recorded settings)
    (keeps : q.Keeps whole) (fresh : ∀ name, Owns lead name → whole.registry.Plain name → p.registry.find? name = none)
    (linked' : Linked settings.schema [] p') (recorded' : p'.Recorded settings) (part : p'.PartOf whole)
    (fresh' : ∀ name, Owns lead name → whole.registry.Plain name → p'.registry.find? name = none) :
    ∃ q', Yields (t.generate settings) p' x q' ∧ q'.PartOf whole ∧ Agree lead whole q q' := by
  obtain ⟨className, owner, parameters, between, os, all, last, types, registry, named, root, declared, occurs, builds,
    possible, rfl, added, rfl⟩ := yields_generateOperation_iff.1 h
  obtain rfl : className = lead := Task.Leads.eq named leads
  have kept : last.Keeps whole := .trans (.of_registry (.of_add added)) keeps
  -- the variables are read as in the whole run
  obtain ⟨-, reads⟩ := declaredVariables_recorded linked recorded declared
  have reads := reads.imp fun _ _ h => DeclaredAs.mono (builds.keeps_progress.trans kept) h
  obtain ⟨between', declared', part⟩ := declaredVariables_again final full reads linked' recorded' part
  obtain ⟨recorded', -⟩ := declaredVariables_recorded linked' recorded' declared'
  have agree : Agree className whole p p' := fun name owned plain =>
    (fresh' name owned plain).trans (fresh name owned plain).symm
  have agree := agree.step
    (fun _ => .of_supports (Supporting.declaredVariables.supports declared))
    (builds.keeps_progress.trans kept).registry.grows
    (fun _ => .of_supports (Supporting.declaredVariables.supports declared')) part
  -- its selections as well
  obtain ⟨last', builds', part, agree⟩ :=
    Builds.again final full calm builds .refl kept between' recorded' part agree
  have here := Registry.find?_of_add added
  obtain ⟨c', found, differs⟩ := results_differ keeps.registry.grows here (by rintro ⟨⟩)
  have plain : whole.registry.Plain className := .of_found keeps.registry.grows here (by rintro ⟨⟩)
  have free : className ∉ last'.registry.names := by
    rw [Registry.mem_names_iff, agree className .refl plain, ← Registry.mem_names_iff]
    exact (Registry.add_eq_ok_iff.1 added).1
  obtain ⟨registry', added'⟩ := Registry.exists_add (c := .root
    ⟨className, owner.name, types.toList, all.methods, all.dependencies⟩
    ⟨className, t.operation.kind.text, printDocument t.operation (usedFragments t.table t.operation.selections),
      parameters⟩) free
  refine ⟨{ last' with registry := registry' }, yields_generateOperation_iff.2 ⟨className, owner, parameters, between',
    os, all, last', types, registry', named, root, declared', occurs, builds', possible, rfl, added', rfl⟩,
    part.add added' found (differs _ rfl), fun name owned plain => ?_⟩
  by_cases same : name = className
  · subst same
    exact (Registry.find?_of_add added').trans here.symm
  · rw [Registry.find?_of_add_ne added' same, Registry.find?_of_add_ne added same]
    exact agree name owned plain

end Again

end OperationClasses
