/-
Module: OperationClasses.Proofs.Generation.Provenance
Purpose: Every path of an accessor comes from an occurrence of a field in a selection set that the class of the
  accessor was generated for.
Main exports: Takes, Stems, PathOf, Traced, Builds.traced, generateDocument_traced
-/
import OperationClasses.Proofs.Accessor.Dispatch
import OperationClasses.Proofs.Generation.Accumulation
import OperationClasses.Proofs.Validation.Acceptance

namespace OperationClasses

variable {settings : Settings} {s : Schema} {d : Document} {r : Registry} {p q : Progress}

/-- A class of a registry is for a selection set of a document on a type: that of an operation, or that
    below a field of such a selection set, in the class that the field wants. -/
inductive Takes (s : Schema) (d : Document) (r : Registry) :
    String → TypeDefinition → List Resolved → Prop where
  | root {o : Operation} {owner : TypeDefinition} {c : ObjectClass} {details : OperationDetails}
      (mem : o ∈ d.operations) (named : Naming.operationClassName o.name = .ok c.name)
      (type : s.rootType o.kind = some owner)
      (registered : r.find? c.name = some (.root c details)) (typed : c.typeName = owner.name) :
      Takes s d r c.name owner (resolveAll d.fragmentTable d.fragmentTable o.selections)
  | under {className : String} {owner t : TypeDefinition} {selections inner : List Resolved}
      {os : List Occurrence} {o : Occurrence} {c : ObjectClass}
      (outer : Takes s d r className owner selections) (occurs : occurrences s owner selections = .ok os)
      (mem : o ∈ os) (type : s.core? o.type = some t) (composite : t.body.isComposite)
      (notTypename : ¬ o.isTypename) (selected : o.below = some inner)
      (registered : r.find? (r.leafName (o.wanted className) t.name) = some (.leaf c))
      (typed : c.typeName = t.name) :
      Takes s d r (r.leafName (o.wanted className) t.name) t inner

/-- An occurrence stands in a selection set that a class is for. -/
def Stems (s : Schema) (d : Document) (r : Registry) (className : String) (o : Occurrence) : Prop :=
  ∃ owner selections os, Takes s d r className owner selections ∧ occurrences s owner selections = .ok os
    ∧ o ∈ os

/-- A path of an accessor of a class is that of an occurrence. -/
structure PathOf (s : Schema) (r : Registry) (className : String) (o : Occurrence) (path : Path) :
    Prop where
  name : Naming.accessorName o.key = .ok path.name
  owner : path.owner = o.owner
  conditions : path.conditions = o.conditions
  output : ∃ core typed, o.Wraps core typed ∧ path.signature = typed.signature
    ∧ path.expression = typed.deserializer
    ∧ ∀ t, s.core? o.type = some t → t.body.isComposite →
      core = classOutput (r.leafName (o.wanted className) t.name)

/-- A path of an accessor of a class comes from an occurrence for the class. -/
def Traced (s : Schema) (d : Document) (r : Registry) (className : String) (path : Path) : Prop :=
  ∃ o, Stems s d r className o ∧ ¬ o.isTypename ∧ PathOf s r className o path

/-! ### Reading selection sets -/

/-- The accessor of an occurrence of a field is traced. -/
theorem Occurrence.method_traced {className name : String} {o : Occurrence} {core typed : TypedOutput}
    (stems : Stems s d r className o) (notTypename : ¬ o.isTypename)
    (named : Naming.accessorName o.key = .ok name) (wraps : o.Wraps core typed)
    (leaf : ∀ t, s.core? o.type = some t → t.body.isComposite →
      core = classOutput (r.leafName (o.wanted className) t.name)) :
    (o.method name typed).Made (Traced s d r className) := by
  refine .field (List.cons_ne_nil _ _) fun path hpath => ?_
  cases List.mem_singleton.1 hpath
  exact ⟨rfl, o, stems, notTypename, named, rfl, rfl, core, typed, wraps, rfl, rfl, leaf⟩

/-- What is read of occurrences for a class is traced, in the class and in those below it. -/
theorem Builds.traced {className : String} {found all : Accessors} {os : List Occurrence}
    {Q : String → Path → Prop}
    (h : Builds settings className found os p all q) (grows : q.registry.Grows r)
    (stems : ∀ o ∈ os, Stems settings.schema d r className o)
    (traced : ∀ name path, Traced settings.schema d r name path → Q name path)
    (old : ∀ m ∈ found.methods, m.Made (Q className)) (before : p.Made Q) :
    (∀ m ∈ all.methods, m.Made (Q className)) ∧ q.Made Q := by
  induction h with
  | nil => exact ⟨old, before⟩
  | typename named claims isTypename adds _ ih =>
    obtain ⟨_, others⟩ := List.forall_mem_cons.1 stems
    rw [← claims.methods] at old
    rw [Occurrence.key_of_isTypename isTypename] at named
    exact ih grows others (adds.made old (.fixed named)) before
  | value named claims notTypename type simple _ supports wraps adds _ ih =>
    obtain ⟨first, others⟩ := List.forall_mem_cons.1 stems
    rw [← claims.methods] at old
    refine ih grows others (adds.made old (.imp (traced _) ?_)) (before.supports supports)
    refine Occurrence.method_traced first notTypename named wraps fun t known composite => ?_
    rw [type] at known
    cases known
    exact absurd composite simple
  | @object className name leaf found claimed inside added all o rest below selections t typed p r₁ r₂ q
      named claims notTypename type composite selected occurs leafName reads registers wraps adds others
      ih ih' =>
    obtain ⟨first, stems'⟩ := List.forall_mem_cons.1 stems
    rw [← claims.methods] at old
    have toEnd : r₂.registry.Grows r := others.grows.trans grows
    obtain ⟨c, atEnd, typed', final⟩ := registerLeaf_stays leafName reads.grows registers toEnd
    obtain ⟨owner, outer, os, takes, occurs', mem⟩ := first
    have leafTakes : Takes settings.schema d r leaf t selections := by
      rw [← final]
      exact .under takes occurs' mem type composite notTypename selected (by rw [final, atEnd]) typed'
    obtain ⟨insideTraced, between⟩ := ih ((registerLeaf_grows registers).trans toEnd)
      (fun o' ho' => ⟨t, selections, below, leafTakes, occurs, ho'⟩)
      (fun m hm => absurd hm List.not_mem_nil) before
    refine ih' grows stems' (adds.made old (.imp (traced _) ?_))
      (registerLeaf_made registers between insideTraced)
    refine Occurrence.method_traced ⟨owner, outer, os, takes, occurs', mem⟩ notTypename named wraps ?_
    intro t' known _
    rw [type] at known
    cases known
    rw [final]

/-! ### Documents -/

/-- The class of an operation is for what the operation selects. -/
theorem Generates.takes {o : Operation} {c : ObjectClass} {details : OperationDetails} {all : Accessors}
    {os : List Occurrence} {owner : TypeDefinition} {between last : Progress} {registry : Registry}
    (isOperation : o ∈ d.operations)
    (h : Generates settings d.fragmentTable o p c details all os owner between last registry)
    (toEnd : registry.Grows r) :
    Takes settings.schema d r c.name owner (resolveAll d.fragmentTable d.fragmentTable o.selections) := by
  have registered : registry.find? c.name = some (.root c details) := Registry.find?_of_add h.added
  obtain ⟨x, final, same⟩ := toEnd _ _ registered
  cases x with
  | root c' details' =>
    have sameName : c'.name = c.name := Registry.name_of_find? final
    have typed : c'.typeName = owner.name := (ClassRole.root.inj same).trans h.typed
    rw [← sameName] at final ⊢
    exact .root isOperation (sameName ▸ h.named) h.type final typed
  | enum | input | leaf => cases same

/-- What the generation of an operation of a document leads to is traced. -/
theorem Generates.traced {o : Operation} {c : ObjectClass} {details : OperationDetails} {all : Accessors}
    {os : List Occurrence} {owner : TypeDefinition} {between last : Progress} {registry : Registry}
    {Q : String → Path → Prop} (isOperation : o ∈ d.operations)
    (h : Generates settings d.fragmentTable o p c details all os owner between last registry)
    (toEnd : registry.Grows r) (traced : ∀ name path, Traced settings.schema d r name path → Q name path)
    (before : p.Made Q) : Progress.Made Q { last with registry := registry } := by
  have added : last.registry.Grows registry := .of_add h.added
  have takes := h.takes isOperation toEnd
  obtain ⟨own, inside⟩ := h.builds.traced (added.trans toEnd)
    (fun o' ho' => ⟨owner, _, os, takes, h.occurs, ho'⟩) traced
    (fun m hm => absurd hm List.not_mem_nil) (before.supports h.supports)
  refine inside.add h.added ?_
  rwa [ClassDefinition.methods, h.methods]

/-- All accessors that the generation of a document with a fresh generator leads to come from what their
    classes are for. -/
theorem generateDocument_traced {cs : List ClassDefinition}
    (h : Yields (generateDocument settings d) Progress.start cs q) :
    q.Made (Traced settings.schema d q.registry) :=
  -- what is found so far is traced in the end, to which the classes so far lead
  generateOperations_induction
    (I := fun p => p.registry.Grows q.registry → p.Made (Traced settings.schema d q.registry)) h
    (fun _ isOperation => fun generates before toEnd =>
      generates.traced isOperation toEnd (fun _ _ => id) (before (generates.grows.trans toEnd)))
    (fun _ => Progress.made_start) .refl

/-! ### The types of classes -/

/-- What a class is for is on the type that the class is for. -/
theorem Takes.role {className : String} {owner : TypeDefinition} {selections : List Resolved}
    (h : Takes s d r className owner selections) :
    ∃ c, r.find? className = some c ∧ (c.role = .leaf owner.name ∨ c.role = .root owner.name) := by
  cases h with
  | root _ _ _ registered typed => exact ⟨_, registered, Or.inr (congrArg ClassRole.root typed)⟩
  | under _ _ _ _ _ _ _ registered typed => exact ⟨_, registered, Or.inl (congrArg ClassRole.leaf typed)⟩

/-- All selection sets that a class is for are on the same type. -/
theorem Takes.owner_eq {className : String} {owner owner' : TypeDefinition}
    {selections selections' : List Resolved} (h : Takes s d r className owner selections)
    (h' : Takes s d r className owner' selections') :
    owner.name = owner'.name := by
  obtain ⟨c, found, role⟩ := h.role
  obtain ⟨c', found', role'⟩ := h'.role
  rw [found] at found'
  cases found'
  have one : ∀ {role : ClassRole} {t t' : String}, role = .leaf t ∨ role = .root t →
      role = .leaf t' ∨ role = .root t' → t = t' := by
    rintro role t t' (rfl | rfl) (same | same) <;> cases same <;> rfl
  exact one role role'

/-- What a class is for is a selection set of the document. -/
theorem Takes.selected {className : String} {owner : TypeDefinition} {selections : List Resolved}
    (h : Takes s d r className owner selections) : Selected s d owner selections := by
  induction h with
  | root mem _ type => exact .root mem type
  | under _ occurs mem type composite _ selected _ _ ih =>
    exact .under ih occurs mem type composite selected

/-- The paths of an accessor of a class start from the type of the class, which is composite like the
    conditions on them. -/
theorem Traced.chain (faultless : Faultless s d) (valid : s.Valid) {className : String} {path : Path}
    (h : Traced s d r className path) :
    ∃ owner selections, Takes s d r className owner selections ∧ path.owner = owner.name
      ∧ ∀ c ∈ path.chain, ∃ t, s.find? c = some t ∧ t.body.isComposite := by
  obtain ⟨o, ⟨owner, selections, os, takes, occurs, mem⟩, -, of⟩ := h
  obtain ⟨known, composite, -⟩ := faultless.selected valid takes.selected
  obtain ⟨os', collected, readable⟩ := faultless.readable valid takes.selected
  cases Except.ok.inj (collected.symm.trans occurs)
  have readable := readable o mem
  refine ⟨owner, selections, takes, by rw [of.owner, readable.owner], ?_⟩
  rw [Path.chain, of.owner, of.conditions, readable.owner]
  exact List.forall_mem_cons.2 ⟨⟨owner, known, composite⟩, readable.condition⟩

/-- The paths of an accessor of a class all start from one type, and can be reduced. -/
theorem traced_reduced (faultless : Faultless s d) (valid : s.Valid) {className : String} (name : String)
    {paths : List Path} (some_ : paths ≠ []) (all : ∀ path ∈ paths, Traced s d r className path) :
    ∃ owner selections, Takes s d r className owner selections
      ∧ (∀ path ∈ paths, path.owner = owner.name)
      ∧ ∃ surviving, (FieldAccess.fresh name paths).reduced s = .ok surviving := by
  obtain ⟨first, mem⟩ := List.exists_mem_of_ne_nil _ some_
  obtain ⟨owner, selections, takes, -, -⟩ := (all first mem).chain faultless valid
  refine ⟨owner, selections, takes, fun path hpath => ?_, ?_⟩
  · obtain ⟨owner', selections', takes', same, -⟩ := (all path hpath).chain faultless valid
    rw [same, takes'.owner_eq takes]
  · refine FieldAccess.reduced_of_composite fun path hpath => ?_
    obtain ⟨_, _, _, _, composites⟩ := (all path hpath).chain faultless valid
    exact composites

end OperationClasses
