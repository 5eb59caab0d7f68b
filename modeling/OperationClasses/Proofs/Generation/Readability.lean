/-
Module: OperationClasses.Proofs.Generation.Readability
Purpose: When the accessors of generated classes read all that a response has.
Main exports: Occurrence.CollectedFor, Clashes, Kept, ReadsKey, Readability, readability
-/
import OperationClasses.Proofs.Generation.Contribution
import OperationClasses.Proofs.Generation.Wrapping
import OperationClasses.Proofs.Validation.Covariance

namespace OperationClasses

variable {settings : Settings} {s : Schema} {d : Document} {r : Registry} {given : String → Bool}

/-! ### Selections that are kept -/

/-- Execution collects an occurrence for an object type: the type is possible for its selection set, and
    all fragments around it apply. -/
def Occurrence.CollectedFor (s : Schema) (o : Occurrence) (t : String) : Prop :=
  Possible s o.owner t ∧ o.AppliesTo s t

/-- The class that the objects in the values of an occurrence for a class get, if its type is composite. -/
def Occurrence.valueClass (s : Schema) (r : Registry) (className : String) (o : Occurrence) :
    Option String :=
  (s.core? o.type).bind fun t =>
    if t.body.isComposite then some (r.leafName (o.wanted className) t.name) else none

/-- Two occurrences of fields for a class, both collected for an object type, share an accessor, but it
    cannot read for both: their response keys differ, or the classes of their values do. -/
structure Clashes (s : Schema) (d : Document) (r : Registry) (className t : String) (o o' : Occurrence) :
    Prop where
  first : Stems s d r className o ∧ ¬ o.isTypename ∧ o.CollectedFor s t
  second : Stems s d r className o' ∧ ¬ o'.isTypename ∧ o'.CollectedFor s t
  accessor : Naming.accessorName o.key = Naming.accessorName o'.key
  differ : o.key ≠ o'.key ∨ o.valueClass s r className ≠ o'.valueClass s r className

/-- The accessor of an occurrence for a class converts a value for an object type, and reads the key and
    gives the class of the occurrence whichever occurrence it converts as. -/
def Kept (s : Schema) (d : Document) (r : Registry) (className t : String) (o : Occurrence) : Prop :=
  ∃ c a, r.find? className = some c ∧ .field a ∈ c.methods ∧ Naming.accessorName o.key = .ok a.name
    ∧ (∃ o', ConvertsAs s d r className a t o')
    ∧ ∀ o', ConvertsAs s d r className a t o' →
      o'.key = o.key ∧ o'.valueClass s r className = o.valueClass s r className

/-- A class has an accessor for each response key of a selection set. -/
def Exposes (s : Schema) (r : Registry) (className : String) (owner : TypeDefinition)
    (selections : List Resolved) : Prop :=
  ∀ os, occurrences s owner selections = .ok os → ∀ o ∈ os, ∃ c m, r.find? className = some c
    ∧ m ∈ c.methods ∧ Naming.accessorName o.key = .ok m.name

/-! ### Responses that are read -/

/-- An accessor of a class reads a response key for an object type: that of the type name, or one that all
    occurrences have as which it converts. -/
inductive ReadsKey (s : Schema) (d : Document) (r : Registry) (className t : String) :
    String → Method → Prop where
  | typename {name : String} : ReadsKey s d r className t typenameField.name (.fixed name "str" typenameBody)
  | field {key : String} {a : FieldAccess} (converts : ∃ o, ConvertsAs s d r className a t o)
      (all : ∀ o, ConvertsAs s d r className a t o → o.key = key) : ReadsKey s d r className t key (.field a)

/-- An object at a place in a response, with its runtime type, is wrapped in a class which has an accessor
    for every response key of the selection sets that are asked for there, and one that reads each key of
    the object. -/
structure Legible (s : Schema) (d : Document) (r : Registry) (given : String → Bool) (operation : Operation)
    (way : List (String × String)) (className : String) (t : TypeDefinition) (selections : List Selection)
    (members : List (String × Json)) : Prop where
  wrapped : Wrapped s d r given operation way className t selections members
  union : ∀ owner others, Asked s d operation way owner others → Exposes s r className owner others
  reads : ∀ key ∈ members.map Prod.fst, ∃ c m, r.find? className = some c ∧ m ∈ c.methods
    ∧ Naming.accessorName key = .ok m.name ∧ ReadsKey s d r className t.name key m

/-- What generated classes read of the selections of a document and of the responses to its operations. -/
structure Readability (s : Schema) (d : Document) (r : Registry) : Prop where
  /-- for each object type that an occurrence is collected for, its accessor converts a value, as an
      occurrence that is collected for the type too and has the same accessor name -/
  converts : ∀ className t o, Stems s d r className o → ¬ o.isTypename → o.CollectedFor s t →
    ∃ c a, r.find? className = some c ∧ .field a ∈ c.methods ∧ Naming.accessorName o.key = .ok a.name
      ∧ (∃ o', ConvertsAs s d r className a t o')
      ∧ ∀ o', ConvertsAs s d r className a t o' →
        o'.CollectedFor s t ∧ Naming.accessorName o'.key = .ok a.name
  /-- the class of the values of an occurrence has an accessor for every response key below it -/
  exposes : ∀ className o t inner, Stems s d r className o → ¬ o.isTypename → s.core? o.type = some t →
    t.body.isComposite → o.below = some inner →
    ∃ valueClass, o.valueClass s r className = some valueClass ∧ Exposes s r valueClass t inner
  /-- the selections of a class for an object type are all kept exactly if none of them clash -/
  kept_iff : ∀ className t,
    (∀ o, Stems s d r className o → ¬ o.isTypename → o.CollectedFor s t → Kept s d r className t o)
      ↔ ∀ o o', ¬ Clashes s d r className t o o'
  /-- if what is asked for at the places of wrapped objects is kept, every object of a response can be read -/
  legible : ∀ given operation,
    (∀ way className t selections members, Wrapped s d r given operation way className t selections members →
      ∀ o, AskedOf s d operation way t.name o → ¬ o.isTypename → Kept s d r className t.name o) →
    ∀ way t selections members, Located s d given operation way t selections members →
      ∃ className, Legible s d r given operation way className t selections members
  /-- so every object of a response can be read if no selections clash -/
  clear : (∀ className t o o', ¬ Clashes s d r className t o o') →
    ∀ given operation way t selections members, Located s d given operation way t selections members →
      ∃ className, Legible s d r given operation way className t selections members

/-! ### Documents that were generated -/

/-- What holds of the classes of a document without faults that was generated, if the bodies of their
    accessors can be written. -/
structure Generated (s : Schema) (d : Document) (r : Registry) : Prop where
  faultless : Faultless s d
  valid : s.Valid
  read : OperationsRead s d r
  takes : ∀ o ∈ d.operations, ∃ className owner, Naming.operationClassName o.name = .ok className
    ∧ s.rootType o.kind = some owner
    ∧ Takes s d r className owner (resolveAll d.fragmentTable d.fragmentTable o.selections)
  distinct : r.Distinct
  made : ∀ c ∈ r.classes, ∀ m ∈ c.methods, m.Made (Traced s d r c.name)
  written : ∀ c ∈ r.classes, ∀ a, .field a ∈ c.methods → ∃ body, a.body s = .ok body

/-- An occurrence of a composite type is not that of the type name. -/
theorem Occurrence.StandsOn.not_isTypename (valid : s.Valid) {o : Occurrence} (h : o.StandsOn s)
    {t : TypeDefinition} (type : s.core? o.type = some t) (composite : t.body.isComposite) :
    ¬ o.isTypename := by
  intro isTypename
  obtain ⟨parent, -, -, selectable⟩ := h
  have named : o.head.name = typenameField.name := beq_iff_eq.1 (Bool.and_eq_true_iff.1 isTypename).1
  rw [named, Schema.selectableType?, Schema.metaField?, if_pos rfl] at selectable
  obtain ⟨text, known, leaf⟩ := valid.text
  rw [← Option.some.inj selectable, known] at type
  cases type
  exact TypeBody.not_isComposite_of_isLeaf leaf composite

theorem Occurrence.valueClass_eq_some_iff {className leaf : String} {o : Occurrence} :
    o.valueClass s r className = some leaf ↔ ∃ t, s.core? o.type = some t ∧ t.body.isComposite
      ∧ r.leafName (o.wanted className) t.name = leaf := by
  unfold valueClass
  rw [Option.bind_eq_some_iff]
  refine exists_congr fun t => and_congr_right fun _ => ?_
  by_cases composite : t.body.isComposite <;> simp [composite]

theorem Occurrence.valueClass_eq {className : String} {o : Occurrence} {t : TypeDefinition}
    (type : s.core? o.type = some t) (composite : t.body.isComposite) :
    o.valueClass s r className = some (r.leafName (o.wanted className) t.name) :=
  valueClass_eq_some_iff.2 ⟨t, type, composite, rfl⟩

namespace Generated

variable (h : Generated s d r) {className t : String} {o o' : Occurrence}
include h

/-- The accessor of an occurrence converts a value for each object type that the occurrence is collected
    for, as an occurrence that is collected for it. -/
theorem converts (stems : Stems s d r className o) (notTypename : ¬ o.isTypename)
    (collected : o.CollectedFor s t) :
    ∃ c a, r.find? className = some c ∧ .field a ∈ c.methods ∧ Naming.accessorName o.key = .ok a.name
      ∧ (∃ o', ConvertsAs s d r className a t o')
      ∧ ∀ o', ConvertsAs s d r className a t o' →
        o'.CollectedFor s t ∧ Naming.accessorName o'.key = .ok a.name := by
  obtain ⟨owner, selections, os, takes, occurs, mem⟩ := stems
  obtain ⟨all, read⟩ := takes.readFor h.read occurs
  obtain ⟨c, a, path, registered, accessor, named, hpath, of⟩ := read.contributes mem notTypename
  have listed := Registry.mem_classes_of_find? registered
  have made := h.made c listed _ accessor
  have sameName : c.name = className := Registry.name_of_find? registered
  rw [sameName] at made
  obtain ⟨body, written⟩ := h.written c listed a accessor
  cases made with
  | @field name paths some_ traced =>
    have admitted : ∃ path ∈ paths, path.Compatible s t := by
      obtain ⟨_, _, _, _, composites⟩ := (traced path hpath).2.chain h.faultless h.valid
      obtain ⟨types, compatible⟩ := Path.compatible_of_composite composites
      refine ⟨path, hpath, types, compatible, (Path.mem_compatible compatible).2 ?_⟩
      rw [of.owner, of.conditions]
      exact collected
    obtain ⟨some_, applies⟩ :=
      Traced.converts_of_compatible h.faultless h.valid traced written admitted
    refine ⟨c, _, registered, accessor, named, some_, fun o' converts => ?_⟩
    have applies := applies o' converts
    obtain ⟨_, path', _, _, hpath', most, _, _, of'⟩ := converts
    refine ⟨⟨?_, applies⟩, ?_⟩
    · rw [← of'.owner]
      exact (most admitted).possible
    · rw [of'.name, (traced path' hpath').1]
      rfl

/-- What an accessor of a class converts as agrees with all occurrences that are kept and have its name. -/
theorem agree_of_kept (kept : Kept s d r className t o) {c : ClassDefinition} {a : FieldAccess}
    (registered : r.find? className = some c) (accessor : .field a ∈ c.methods)
    (named : Naming.accessorName o.key = .ok a.name) (converts : ConvertsAs s d r className a t o') :
    o'.key = o.key ∧ o'.valueClass s r className = o.valueClass s r className := by
  obtain ⟨c', a', registered', accessor', named', -, all⟩ := kept
  rw [registered] at registered'
  cases registered'
  rw [named] at named'
  have same : Method.field a = .field a' :=
    (h.distinct c (Registry.mem_classes_of_find? registered)).eq_of_name accessor accessor'
      (Except.ok.inj named')
  cases same
  exact all o' converts

/-- One of two occurrences that clash is not kept. -/
theorem not_clashes_of_kept (kept : Kept s d r className t o) (kept' : Kept s d r className t o') :
    ¬ Clashes s d r className t o o' := by
  intro clashes
  obtain ⟨c, a, registered, accessor, named, ⟨x, converts⟩, all⟩ := kept
  obtain ⟨key, leaf⟩ := all x converts
  obtain ⟨key', leaf'⟩ := h.agree_of_kept kept' registered accessor (clashes.accessor ▸ named) converts
  rcases clashes.differ with differ | differ
  · exact differ (key.symm.trans key')
  · exact differ (leaf.symm.trans leaf')

/-- An occurrence that clashes with none is kept. -/
theorem kept_of_not_clashes (clear : ∀ o', ¬ Clashes s d r className t o o')
    (stems : Stems s d r className o) (notTypename : ¬ o.isTypename) (collected : o.CollectedFor s t) :
    Kept s d r className t o := by
  obtain ⟨c, a, registered, accessor, named, some_, all⟩ := h.converts stems notTypename collected
  refine ⟨c, a, registered, accessor, named, some_, fun o' converts => ?_⟩
  obtain ⟨collected', named'⟩ := all o' converts
  obtain ⟨_, _, _, _, _, _, stems', notTypename', _⟩ := converts
  by_contra differ
  refine clear o' ⟨⟨stems, notTypename, collected⟩, ⟨stems', notTypename', collected'⟩,
    named.trans named'.symm, ?_⟩
  rcases not_and_or.1 differ with differ | differ
  · exact Or.inl fun same => differ same.symm
  · exact Or.inr fun same => differ same.symm

theorem kept_iff :
    (∀ o, Stems s d r className o → ¬ o.isTypename → o.CollectedFor s t → Kept s d r className t o)
      ↔ ∀ o o', ¬ Clashes s d r className t o o' := by
  constructor
  · intro kept o o' clashes
    obtain ⟨stems, notTypename, collected⟩ := clashes.first
    obtain ⟨stems', notTypename', collected'⟩ := clashes.second
    exact h.not_clashes_of_kept (kept o stems notTypename collected)
      (kept o' stems' notTypename' collected') clashes
  · exact fun clear o => h.kept_of_not_clashes (clear o)

/-- A class has an accessor for each response key of what it is for. -/
theorem exposes {owner : TypeDefinition} {selections : List Resolved}
    (takes : Takes s d r className owner selections) : Exposes s r className owner selections := by
  intro os occurs o mem
  obtain ⟨all, read⟩ := takes.readFor h.read occurs
  obtain ⟨c, m, registered, accessor, named, -⟩ := read.accessor mem
  exact ⟨c, m, registered, accessor, named⟩

/-- The class of the values of an occurrence is for what the occurrence selects below it. -/
theorem takes_below (stems : Stems s d r className o) (notTypename : ¬ o.isTypename) {type : TypeDefinition}
    {inner : List Resolved} (known : s.core? o.type = some type) (composite : type.body.isComposite)
    (selected : o.below = some inner) :
    Takes s d r (r.leafName (o.wanted className) type.name) type inner := by
  obtain ⟨owner, selections, os, takes, occurs, mem⟩ := stems
  exact takes.inside h.read occurs mem notTypename known composite selected

end Generated

/-! ### Responses -/

/-- What is asked for at a place stands in a selection set of a class that is for all that is asked for
    there. -/
theorem AskedOf.stems {operation : Operation} {way : List (String × String)} {object className : String}
    {o : Occurrence} (asked : AskedOf s d operation way object o)
    (takes : ∀ owner others, Asked s d operation way owner others → Takes s d r className owner others) :
    Stems s d r className o := by
  obtain ⟨owner, others, os, asks, occurs, ho, -⟩ := asked
  exact ⟨owner, others, os, takes owner others asks, occurs, ho⟩

namespace Generated

variable {operation : Operation} {way : List (String × String)} {className : String}

/-- The class of the values that a kept accessor reads is for all that is asked for below its key. -/
theorem takes_of_asked_below (h : Generated s d r) (mem : operation ∈ d.operations) {object key : String}
    (takes : ∀ owner others, Asked s d operation way owner others → Takes s d r className owner others)
    (kept : ∀ o, AskedOf s d operation way object o → ¬ o.isTypename → Kept s d r className object o)
    {c : ClassDefinition} {a : FieldAccess} (registered : r.find? className = some c)
    (accessor : .field a ∈ c.methods) (named : Naming.accessorName key = .ok a.name) {o : Occurrence}
    (converts : ConvertsAs s d r className a object o) {wide : TypeDefinition}
    (type : s.core? o.type = some wide) (composite : wide.body.isComposite) {owner : TypeDefinition}
    {others : List Resolved} (asked : Asked s d operation ((object, key) :: way) owner others) :
    Takes s d r (r.leafName (o.wanted className) wide.name) owner others := by
  cases asked with
  | @under _ _ _ _ _ _ _ x outer occurs hx applies type' composite' selected =>
    have asked : AskedOf s d operation way object x := ⟨_, _, _, outer, occurs, hx, applies⟩
    obtain ⟨stands, -⟩ := asked.standsOn h.faultless h.valid mem
    have notTypename := stands.not_isTypename h.valid type' composite'
    -- the accessor is also that of this occurrence, so the values have the class of this one
    obtain ⟨-, agree⟩ := h.agree_of_kept (kept x asked notTypename) registered accessor named converts
    rw [Occurrence.valueClass_eq type composite, Occurrence.valueClass_eq type' composite'] at agree
    rw [Option.some.inj agree]
    exact h.takes_below (asked.stems takes) notTypename type' composite' selected

variable (h : Generated s d r) (implements : s.Implements) (undirected : d.Undirected)
include h implements undirected

/-- If what is asked for at the place of a wrapped object is kept, an accessor wraps each object below. -/
theorem wrapped_below {t inner : TypeDefinition} {selections : List Selection} {key : String}
    {members below : List (String × Json)} {fields : List SelectedField} {f : SelectedField} {value : Json}
    (outer : Located s d given operation way t selections members)
    (wrapped : Wrapped s d r given operation way className t selections members)
    (kept : ∀ o, AskedOf s d operation way t.name o → ¬ o.isTypename → Kept s d r className t.name o)
    (group : (key, fields) ∈ collectFields s d.fragmentTable given t.name selections)
    (member : (key, value) ∈ members) (field : f ∈ fields)
    (holds : ∀ f ∈ fields, ∀ type, s.selectableType? t f.head.name = some type →
      Holds s d.fragmentTable given type (mergedBelow fields) value inner below) :
    ∃ c a o wide, r.find? className = some c ∧ .field a ∈ c.methods ∧ Naming.accessorName key = .ok a.name
      ∧ ConvertsAs s d r className a t.name o ∧ s.core? o.type = some wide ∧ wide.body.isComposite
      ∧ Wrapped s d r given operation ((t.name, key) :: way) (r.leafName (o.wanted className) wide.name)
        inner (mergedBelow fields) below := by
  obtain ⟨mem, meets⟩ := outer.meets h.faultless h.valid undirected
  obtain ⟨known, possible⟩ := outer.possible h.faultless h.valid implements undirected
  obtain ⟨o, asked, depicts⟩ := meets.found f ((mem_group_iff group).1 field).1
  obtain ⟨own, selectable, held, admits⟩ :=
    asked.held h.faultless h.valid implements mem known possible holds field depicts
  obtain ⟨narrow, type, composite⟩ := admits.composite
  obtain ⟨stands, -⟩ := asked.standsOn h.faultless h.valid mem
  have notTypename := stands.not_isTypename h.valid type composite
  obtain ⟨c, a, registered, accessor, named, ⟨o', converts⟩, all⟩ := kept o asked notTypename
  obtain ⟨sameKey, sameClass⟩ := all o' converts
  have fieldKey : o'.key = key := calc
    o'.key = o.key := sameKey
    _ = f.head.responseKey := congrArg FieldHead.responseKey depicts.head
    _ = key := ((mem_group_iff group).1 field).2
  obtain ⟨wide, type', composite', -⟩ :=
    Occurrence.valueClass_eq_some_iff.1 (sameClass.trans (Occurrence.valueClass_eq type composite))
  rw [← sameKey, fieldKey] at named
  subst fieldKey
  exact ⟨c, a, o', wide, registered, accessor, named, converts, type', composite',
    .under wrapped registered accessor converts type' composite' group member field selectable held⟩

/-- If what is asked for at the places of wrapped objects is kept, every object of a response is wrapped in a
    class that is for all that is asked for at its place. -/
theorem wrapped_of_located
    (kept : ∀ way className t selections members, Located s d given operation way t selections members →
      Wrapped s d r given operation way className t selections members →
      (∀ owner others, Asked s d operation way owner others → Takes s d r className owner others) →
      ∀ o, AskedOf s d operation way t.name o → ¬ o.isTypename → Kept s d r className t.name o)
    {way : List (String × String)} {t : TypeDefinition} {selections : List Selection}
    {members : List (String × Json)} (located : Located s d given operation way t selections members) :
    ∃ className, Wrapped s d r given operation way className t selections members
      ∧ ∀ owner others, Asked s d operation way owner others → Takes s d r className owner others := by
  induction located with
  | root mem type answers =>
    obtain ⟨className, owner, named, type', takes⟩ := h.takes _ mem
    rw [type] at type'
    cases type'
    refine ⟨className, .root mem named type answers, fun owner others asked => ?_⟩
    cases asked with
    | root type' =>
      rw [type] at type'
      cases type'
      exact takes
  | under outer group member field holds ih =>
    obtain ⟨className, wrapped, takes⟩ := ih
    have kept := kept _ _ _ _ _ outer wrapped takes
    obtain ⟨mem, -⟩ := outer.meets h.faultless h.valid undirected
    obtain ⟨c, a, o, wide, registered, accessor, named, converts, type, composite, wraps⟩ :=
      h.wrapped_below implements undirected outer wrapped kept group member field holds
    exact ⟨r.leafName (o.wanted className) wide.name, wraps, fun owner others asked =>
      h.takes_of_asked_below mem takes kept registered accessor named converts type composite asked⟩

/-- If what is asked for at the places of wrapped objects is kept, every object of a response can be read. -/
theorem legible
    (kept : ∀ way className t selections members, Located s d given operation way t selections members →
      Wrapped s d r given operation way className t selections members →
      (∀ owner others, Asked s d operation way owner others → Takes s d r className owner others) →
      ∀ o, AskedOf s d operation way t.name o → ¬ o.isTypename → Kept s d r className t.name o)
    {way : List (String × String)} {t : TypeDefinition} {selections : List Selection}
    {members : List (String × Json)} (located : Located s d given operation way t selections members) :
    ∃ className, Legible s d r given operation way className t selections members := by
  obtain ⟨className, wrapped, takes⟩ := h.wrapped_of_located implements undirected kept located
  obtain ⟨mem, meets⟩ := located.meets h.faultless h.valid undirected
  refine ⟨className, wrapped, fun owner others asked => h.exposes (takes owner others asked),
    fun key present => ?_⟩
  obtain ⟨owner, others, asked, os, o, occurs, ho, rfl, applies⟩ :=
    (meets.mem_keys_iff wrapped.answers).1 present
  by_cases isTypename : o.isTypename
  · obtain ⟨all, read⟩ := (takes owner others asked).readFor h.read occurs
    obtain ⟨c, m, registered, accessor, named, typename⟩ := read.accessor ho
    refine ⟨c, m, registered, accessor, named, ?_⟩
    rw [typename isTypename, Occurrence.key_of_isTypename isTypename]
    exact .typename
  · have asked' : AskedOf s d operation way t.name o := ⟨owner, others, os, asked, occurs, ho, applies⟩
    obtain ⟨c, a, registered, accessor, named, some_, all⟩ :=
      kept _ _ _ _ _ located wrapped takes o asked' isTypename
    exact ⟨c, _, registered, accessor, named, .field some_ fun o' converts => (all o' converts).1⟩

/-- If no selections clash, what is asked for at the place of an object is kept by a class that is for it. -/
theorem kept_of_clear (clear : ∀ className t o o', ¬ Clashes s d r className t o o')
    {way : List (String × String)} {t : TypeDefinition} {selections : List Selection} {className : String}
    {members : List (String × Json)} (located : Located s d given operation way t selections members)
    (takes : ∀ owner others, Asked s d operation way owner others → Takes s d r className owner others)
    {o : Occurrence} (asked : AskedOf s d operation way t.name o) (notTypename : ¬ o.isTypename) :
    Kept s d r className t.name o := by
  obtain ⟨mem, -⟩ := located.meets h.faultless h.valid undirected
  obtain ⟨-, possible⟩ := located.possible h.faultless h.valid implements undirected
  obtain ⟨-, applies, owner, others, asks, sameOwner⟩ := asked.standsOn h.faultless h.valid mem
  refine h.kept_of_not_clashes (clear _ _ o) (asked.stems takes) notTypename ⟨?_, applies⟩
  rw [sameOwner]
  exact possible owner others asks

end Generated

/-- For a valid schema and an accepted document without directives that leave something out, if all bodies of
    accessors can be written: an accessor converts a value for every object type that one of its selections is
    collected for, and the selections of a class for a type are all kept unless two of them clash, so that one
    accessor stands for two response keys or two classes. Where what is asked for is kept, every object of a
    response is wrapped in a class that has an accessor for each key that is selected there, and reads each
    key of the object. -/
theorem readability {text source : String} {declaration : Declaration} {classes : List ClassDefinition}
    {g : Generator} (valid : settings.schema.Valid) (implements : settings.schema.Implements)
    (declared : declare settings.schema text source = .ok declaration)
    (undirected : declaration.document.Undirected)
    (ends : (Generator.start settings).generate declaration.document = (.ok classes, g))
    (written : ∀ c ∈ g.progress.registry.classes, ∀ a, .field a ∈ c.methods →
      ∃ body, a.body settings.schema = .ok body) :
    Readability settings.schema declaration.document g.progress.registry := by
  have ran : g.Ran settings.schema [declaration.document] := .generate (.start rfl) ends
  have reads := (Generator.generate_yields ends).2
  have h : Generated settings.schema declaration.document g.progress.registry :=
    { faultless := faultless_of_declare declared
      valid := valid
      read := ran.operationsRead .refl List.mem_cons_self
      takes := generateOperations_takes (fun _ h => h) reads .refl
      distinct := ran.distinct
      made := generateDocument_traced reads
      written := written }
  constructor
  · exact fun className t o => h.converts
  · intro className o t inner stems notTypename known composite selected
    have takes := h.takes_below stems notTypename known composite selected
    exact ⟨_, Occurrence.valueClass_eq known composite, h.exposes takes⟩
  · exact fun className t => h.kept_iff
  · exact fun given operation kept way t selections members =>
      h.legible implements undirected fun _ _ _ _ _ _ wrapped _ => kept _ _ _ _ _ wrapped
  · intro clear given operation way t selections members
    exact h.legible implements undirected fun _ _ _ _ _ located _ takes _ =>
      h.kept_of_clear implements undirected clear located takes

/-! ### A field that is narrower on an object type -/

namespace CovariantField

def query : TypeDefinition := ⟨"Query", [], .object [] [⟨"node", [], .named "Node" true, []⟩]⟩

def node : TypeDefinition := ⟨"Node", [], .interface []
  [⟨"id", [], .named "ID" true, []⟩, ⟨"self", [], .named "Node" true, []⟩]⟩

/-- The only object type of the interface, with a narrower type for one of its fields. -/
def user : TypeDefinition := ⟨"User", [], .object ["Node"] [⟨"id", [], .named "ID" true, []⟩,
  ⟨"self", [], .named "User" true, []⟩, ⟨"login", [], .named "String" true, []⟩]⟩

def schema : Schema := ⟨[query, node, user, ⟨"ID", [], .scalar⟩, ⟨"String", [], .scalar⟩,
  ⟨"__Schema", [], .object [] []⟩, ⟨"__Type", [], .object [] []⟩], [], some "Query", none, none⟩

def setup : Settings := ⟨schema, .empty none, false⟩

/-- What the field selects on the interface. -/
def onNode : List Selection := [.leaf ⟨none, "__typename", [], []⟩, .leaf ⟨none, "id", [], []⟩]

/-- What the field selects on the object type. -/
def onUser : List Selection := [.leaf ⟨none, "login", [], []⟩]

def operation : Operation := ⟨none, .query, some "Q", [], [], [.nested ⟨none, "node", [], []⟩
  [.leaf ⟨none, "__typename", [], []⟩, .nested ⟨none, "self", [], []⟩ onNode,
    .inline (some "User") [] [.nested ⟨none, "self", [], []⟩ onUser]]]⟩

def document : Document := ⟨[.operation operation]⟩

def text : String := "query Q{node{__typename self{__typename id}... on User{self{login}}}}"

def declaration : Declaration := ⟨document, text, "q.graphql"⟩

def typename : Method := .fixed "typename__" "str" typenameBody

def onNodeClass : ObjectClass := ⟨"Q_Node_Self", "Node", ["User"], [typename, .field (.fresh "id"
  [⟨"id", "str", "return cast(str, self.raw_result[\"id\"])", "Node", []⟩])], []⟩

def onUserClass : ObjectClass := ⟨"Q_Node_Self_User", "User", ["User"], [.field (.fresh "login"
  [⟨"login", "str", "return cast(str, self.raw_result[\"login\"])", "User", []⟩])], []⟩

def wide : Path := ⟨"self_", "Q_Node_Self", "return Q_Node_Self(self.raw_result[\"self\"])", "Node", []⟩

def narrow : Path :=
  ⟨"self_", "Q_Node_Self_User", "return Q_Node_Self_User(self.raw_result[\"self\"])", "Node", ["User"]⟩

def accessor : FieldAccess := .fresh "self_" [wide, narrow]

def nodeClass : ObjectClass :=
  ⟨"Q_Node", "Node", ["User"], [typename, .field accessor], ["Q_Node_Self", "Q_Node_Self_User"]⟩

def root : ObjectClass := ⟨"Q", "Query", ["Query"], [.field (.fresh "node"
  [⟨"node", "Q_Node", "return Q_Node(self.raw_result[\"node\"])", "Query", []⟩])], ["Q_Node"]⟩

def details : OperationDetails :=
  ⟨"Q", "query", printDocument operation (usedFragments document.fragmentTable operation.selections), []⟩

def registry : Registry :=
  ⟨[.leaf onNodeClass, .leaf onUserClass, .leaf nodeClass, .root root details], by decide⟩

def generator : Generator := ⟨setup, registry, [], [], ∅⟩

theorem declared : declare schema text "q.graphql" = .ok declaration := by cbv

set_option maxRecDepth 2000 in
theorem ends : (Generator.start setup).generate document = (.ok [.root root details], generator) := by
  refine (generate_one_iff (o := operation) rfl).2 ⟨rfl, ?_⟩
  rw [generateOperation]
  dsimp only [generator, registry, details]
  -- the classes are the same whatever text is sent
  generalize printDocument operation _ = sent
  cbv

theorem written : ∀ c ∈ registry.classes, ∀ a, .field a ∈ c.methods → ∃ body, a.body schema = .ok body := by
  intro c hc a ha
  simp only [registry, List.mem_cons, List.not_mem_nil, or_false] at hc
  rcases hc with rfl | rfl | rfl | rfl <;>
    simp only [ClassDefinition.methods, onNodeClass, onUserClass, nodeClass, root, typename, List.mem_cons,
      Method.field.injEq, reduceCtorEq, List.not_mem_nil, or_false, false_or] at ha <;> subst ha
  · exact ⟨"return cast(str, self.raw_result[\"id\"])", by cbv⟩
  · exact ⟨"return cast(str, self.raw_result[\"login\"])", by cbv⟩
  · exact ⟨wide.expression, by cbv⟩
  · exact ⟨"return Q_Node(self.raw_result[\"node\"])", by cbv⟩

/-- What is selected on the interface, with no fragment to spread. -/
def inside : List Resolved := [.leaf ⟨none, "__typename", [], []⟩,
  .nested ⟨none, "self", [], []⟩ [.leaf ⟨none, "__typename", [], []⟩, .leaf ⟨none, "id", [], []⟩],
  .narrowed (some "User") [.nested ⟨none, "self", [], []⟩ [.leaf ⟨none, "login", [], []⟩]]]

def nodeField : Occurrence := ⟨⟨none, "node", [], []⟩, .named "Node" true, "Query", [], some inside⟩

def typenameOnNode : Occurrence := ⟨⟨none, "__typename", [], []⟩, .named "String" true, "Node", [], none⟩

def selfOnNode : Occurrence := ⟨⟨none, "self", [], []⟩, .named "Node" true, "Node", [],
  some [.leaf ⟨none, "__typename", [], []⟩, .leaf ⟨none, "id", [], []⟩]⟩

def selfOnUser : Occurrence := ⟨⟨none, "self", [], []⟩, .named "User" true, "Node", ["User"],
  some [.leaf ⟨none, "login", [], []⟩]⟩

theorem takes_node : Takes schema document registry "Q_Node" node inside := by
  have outer : Takes schema document registry "Q" query
      (resolveAll document.fragmentTable document.fragmentTable operation.selections) :=
    .root (c := root) List.mem_cons_self rfl rfl rfl rfl
  have occurs : occurrences schema query
      (resolveAll document.fragmentTable document.fragmentTable operation.selections) = .ok [nodeField] := by
    cbv
  have wanted : nodeField.wanted "Q" = "Q_Node" := by cbv
  have named : registry.leafName (nodeField.wanted "Q") node.name = "Q_Node" := by
    rw [wanted]
    rfl
  have registered : registry.find? (registry.leafName (nodeField.wanted "Q") node.name)
      = some (.leaf nodeClass) := by
    rw [named]
    rfl
  rw [← named]
  exact .under outer occurs List.mem_cons_self rfl rfl (by decide) rfl registered rfl

/-- Both selections of the field are collected for the object type. -/
theorem selected (o : Occurrence) (mem : o ∈ [selfOnNode, selfOnUser]) :
    Stems schema document registry "Q_Node" o ∧ ¬ o.isTypename ∧ o.CollectedFor schema "User" := by
  have occurs : occurrences schema node inside = .ok [typenameOnNode, selfOnNode, selfOnUser] := by cbv
  have possible : Possible schema "Node" "User" := ⟨_, rfl, by decide⟩
  have applies : Possible schema "User" "User" := ⟨_, rfl, by decide⟩
  have stems : Stems schema document registry "Q_Node" o :=
    ⟨node, inside, _, takes_node, occurs, List.mem_cons_of_mem _ mem⟩
  simp only [List.mem_cons, List.not_mem_nil, or_false] at mem
  rcases mem with rfl | rfl
  · exact ⟨stems, by decide, possible, fun c hc => absurd hc List.not_mem_nil⟩
  · refine ⟨stems, by decide, possible, fun c hc => ?_⟩
    rwa [List.mem_singleton.1 hc]

/-- Their values have different classes. -/
theorem classes : selfOnNode.valueClass schema registry "Q_Node" = some "Q_Node_Self"
    ∧ selfOnUser.valueClass schema registry "Q_Node" = some "Q_Node_Self_User" := by
  have onNode : selfOnNode.wanted "Q_Node" = "Q_Node_Self" := by cbv
  have onUser : selfOnUser.wanted "Q_Node" = "Q_Node_Self" := by cbv
  constructor
  · rw [Occurrence.valueClass_eq (t := node) rfl rfl, onNode]
    rfl
  · rw [Occurrence.valueClass_eq (t := user) rfl rfl, onUser]
    rfl

theorem clashes : Clashes schema document registry "Q_Node" "User" selfOnNode selfOnUser := by
  refine ⟨selected _ List.mem_cons_self, selected _ (List.mem_cons_of_mem _ List.mem_cons_self), rfl,
    Or.inr ?_⟩
  rw [classes.1, classes.2]
  decide

/-- For the object type, the accessor converts as the selection on the interface. -/
theorem converts : ConvertsAs schema document registry "Q_Node" accessor "User" selfOnNode := by
  have always : accessor.dispatch schema = .ok (.always wide.expression) := by cbv
  have compatible : wide.Compatible schema "User" := ⟨_, rfl, by decide⟩
  have named : Naming.accessorName selfOnNode.key = .ok wide.name := by cbv
  have wraps : selfOnNode.Wraps (classOutput "Q_Node_Self")
      ⟨"Q_Node_Self", wide.expression, some "Q_Node_Self"⟩ :=
    ⟨by cbv, by cbv, rfl⟩
  obtain ⟨stems, notTypename, -⟩ := selected selfOnNode List.mem_cons_self
  refine ⟨_, wide, always, rfl, List.mem_cons_self, fun _ => compatible, stems, notTypename, named, rfl, rfl,
    _, _, wraps, rfl, rfl, fun t known composite => ?_⟩
  have leaf := @Occurrence.valueClass_eq schema registry "Q_Node" selfOnNode t known composite
  rw [classes.1] at leaf
  rw [← Option.some.inj leaf]

end CovariantField

section

open CovariantField

/-- The values of a field that is narrower on an object type get the class of the interface, which lacks what
    is selected on the object type. -/
theorem readability_covariant_field :
    schema.Valid ∧ schema.Implements ∧ declare schema text "q.graphql" = .ok CovariantField.declaration
      ∧ Readability schema document registry
      ∧ (∃ o, Stems schema document registry "Q_Node" o ∧ o.CollectedFor schema "User"
        ∧ ¬ Kept schema document registry "Q_Node" "User" o)
      ∧ ConvertsAs schema document registry "Q_Node" accessor "User" selfOnNode
      ∧ selfOnNode.valueClass schema registry "Q_Node" = some onNodeClass.name
      ∧ registry.find? onNodeClass.name = some (.leaf onNodeClass)
      ∧ ∀ m ∈ onNodeClass.methods, Naming.accessorName "login" ≠ .ok m.name := by
  have valid : setup.schema.Valid := by decide
  have implements : setup.schema.Implements := by decide
  have undirected : CovariantField.declaration.document.Undirected := ⟨by decide, by decide⟩
  have reads := @readability setup _ _ CovariantField.declaration _ generator valid implements
    CovariantField.declared undirected CovariantField.ends CovariantField.written
  have lost : ∃ o, Stems schema document registry "Q_Node" o ∧ o.CollectedFor schema "User"
      ∧ ¬ Kept schema document registry "Q_Node" "User" o := by
    by_contra all
    refine (reads.kept_iff "Q_Node" "User").1 (fun o stems _ collected => ?_) _ _ clashes
    by_contra notKept
    exact all ⟨o, stems, collected, notKept⟩
  have login : Naming.accessorName "login" = .ok "login" := by cbv
  refine ⟨valid, implements, CovariantField.declared, reads, lost, CovariantField.converts, classes.1, rfl, ?_⟩
  rw [login]
  decide

end

end OperationClasses
