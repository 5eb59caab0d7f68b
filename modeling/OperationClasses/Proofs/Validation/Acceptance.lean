/-
Module: OperationClasses.Proofs.Validation.Acceptance
Purpose: The selections of a document without faults can be read to the end: everything that is named in them is
  known, fragments end, and there are selections exactly where there have to be.
Main exports: Resolved.Fits, Faultless, faultless_of_declare, Faultless.fits, Selected, Faultless.readable
-/
import OperationClasses.Declaration
import OperationClasses.Proofs.Selection.Spreads
import OperationClasses.Proofs.Validation.ValidSchema

namespace OperationClasses

/-! ### Selections that can be read -/

mutual

/-- A selection on a type can be read: its field is of a known type, with selections if that type is
    composite, and fragments are on known composite types. -/
def Resolved.Fits (s : Schema) (parent : TypeDefinition) : Resolved → Prop
  | .leaf head => ∃ type t, s.selectableType? parent head.name = some type ∧ s.core? type = some t
    ∧ ¬ t.body.isComposite
  | .nested head below => ∃ type t, s.selectableType? parent head.name = some type
    ∧ s.core? type = some t
    ∧ t.body.isComposite ∧ Resolved.AllFit s t below
  | .narrowed none below => Resolved.AllFit s parent below
  | .narrowed (some condition) below => ∃ t, s.find? condition = some t ∧ t.body.isComposite
    ∧ Resolved.AllFit s t below
  | .missing _ => False
  | .cyclic _ => False

/-- Every selection of a list can be read. -/
def Resolved.AllFit (s : Schema) (parent : TypeDefinition) : List Resolved → Prop
  | [] => True
  | r :: rest => r.Fits s parent ∧ Resolved.AllFit s parent rest

end

/-! ### Documents without faults -/

/-- Steps without faults report none. -/
theorem faults_of_mem_steps {s : Schema} {table : List Fragment} {steps : List CheckStep}
    {comparisons : Option Nat} (none_ : faultsOfSteps s table comparisons steps = [])
    {faults : List DocumentFault} (mem : .report faults ∈ steps) : faults = [] := by
  induction steps generalizing comparisons with
  | nil => exact absurd mem List.not_mem_nil
  | cons step rest ih =>
    cases step with
    | report found =>
      obtain ⟨own, later⟩ := List.append_eq_nil_iff.1 (by simpa only [faultsOfSteps] using none_)
      rcases List.mem_cons.1 mem with same | mem
      · cases same
        exact own
      · exact ih later mem
    | compare parent selections =>
      have mem : .report faults ∈ rest := (List.mem_cons.1 mem).resolve_left (by simp)
      unfold faultsOfSteps at none_
      split at none_
      · exact ih none_ mem
      · split at none_
        · cases none_
        · exact ih (List.append_eq_nil_iff.1 none_).2 mem

/-- The steps at each definition are steps of the document. -/
theorem mem_stepsFrom {s : Schema} {d : Document} {x : Definition} {definitions before : List Definition}
    (mem : x ∈ definitions) :
    ∃ others, ∀ step ∈ definitionSteps s d ⟨others⟩ x, step ∈ stepsFrom s d before definitions := by
  induction definitions generalizing before with
  | nil => exact absurd mem List.not_mem_nil
  | cons first rest ih =>
    rcases List.mem_cons.1 mem with rfl | mem
    · exact ⟨before, fun step h => List.mem_append_left _ h⟩
    · obtain ⟨others, h⟩ := ih mem
      exact ⟨others, fun step hs => List.mem_append_right _ (h step hs)⟩

/-- What the standard rules say of a document without faults, as far as the selections can be read. -/
structure Faultless (s : Schema) (d : Document) : Prop where
  /-- operations are of kinds that the schema has -/
  kind : ∀ o ∈ d.operations, (s.rootName o.kind).isSome
  /-- variables are of known types -/
  declared : ∀ o ∈ d.operations, ∀ v ∈ o.declarations, (s.core? v.type).isSome
  /-- the members of operations are in order -/
  member : ∀ o ∈ d.operations, ∀ v ∈ o.visits s, memberFaults s d.fragmentTable v = []
  /-- fragments are on known composite types -/
  condition : ∀ f ∈ d.fragments, ∃ t, s.find? f.typeCondition = some t ∧ t.body.isComposite
  /-- no fragment leads to itself -/
  acyclic : ∀ f ∈ d.fragments, ∀ g,
    Leads (fun f => spreadNames f.selections) d.fragmentTable (spreadNames f.selections) g →
      g.name ≠ f.name
  /-- the members of fragments are in order -/
  inFragment : ∀ f ∈ d.fragments, ∀ v ∈ f.visits s, memberFaults s d.fragmentTable v = []

theorem faultIf_eq_nil {condition : Bool} {fault : RuleFault} :
    faultIf condition fault = [] ↔ condition = false := by
  cases condition <;> simp [faultIf]

/-- The faults of a type condition are told unless the type is known and composite. -/
theorem conditionFaults_eq_nil {s : Schema} {name : String} :
    conditionFaults s name = [] ↔ ∃ t, s.find? name = some t ∧ t.body.isComposite := by
  unfold conditionFaults
  cases s.find? name with
  | none => simp
  | some t => simp [faultIf_eq_nil]

theorem mem_definitions_of_mem_operations {d : Document} {o : Operation} (h : o ∈ d.operations) :
    .operation o ∈ d.definitions := by
  obtain ⟨x, hx, h⟩ := List.mem_filterMap.1 h
  cases x <;> cases h
  exact hx

theorem mem_definitions_of_mem_fragments {d : Document} {f : Fragment} (h : f ∈ d.fragments) :
    .fragment f ∈ d.definitions := by
  obtain ⟨x, hx, h⟩ := List.mem_filterMap.1 h
  cases x <;> cases h
  exact hx

/-- The steps at the definitions of a document without faults report none. -/
theorem exists_faults_eq_nil {s : Schema} {d : Document} (h : documentFaults s d = []) {x : Definition}
    (hx : x ∈ d.definitions) :
    ∃ before, ∀ {faults : List DocumentFault}, .report faults ∈ definitionSteps s d before x → faults = [] := by
  obtain ⟨others, steps⟩ := @mem_stepsFrom s d x d.definitions [] hx
  refine ⟨⟨others⟩, fun {faults} mem => faults_of_mem_steps h ?_⟩
  exact List.mem_append_left _ (List.mem_append_right _ (steps _ mem))

/-- A document without faults keeps the rules on operations, fragments and members. -/
theorem faultless_of_documentFaults {s : Schema} {d : Document} (h : documentFaults s d = []) :
    Faultless s d := by
  have reported : ∀ {x : Definition}, x ∈ d.definitions → ∃ before, ∀ {faults : List RuleFault},
      .ofRules faults ∈ definitionSteps s d before x → faults = [] := by
    intro x hx
    obtain ⟨before, silent⟩ := exists_faults_eq_nil h hx
    exact ⟨before, fun {faults} mem => List.map_eq_nil_iff.1 (silent mem)⟩
  constructor
  · intro o ho
    obtain ⟨before, reported⟩ := reported (mem_definitions_of_mem_operations ho)
    have none_ : operationFaults s d.fragmentTable d.operations before.operations o = [] :=
      reported (List.mem_append_left _ (List.mem_append_left _ List.mem_cons_self))
    simp only [operationFaults, List.append_eq_nil_iff, faultIf_eq_nil] at none_
    simpa using none_.1.1.1.1
  · intro o ho v hv
    obtain ⟨before, reported⟩ := reported (mem_definitions_of_mem_operations ho)
    have none_ : declarationFaults s o = [] :=
      reported (List.mem_append_left _ (List.mem_append_left _ (by simp)))
    have none_ := List.flatMap_eq_nil_iff.1 (List.append_eq_nil_iff.1 none_).2 v hv
    have none_ : variableTypeFaults s v = [] := (List.append_eq_nil_iff.1 none_).1
    unfold variableTypeFaults at none_
    split at none_
    · cases none_
    · rename_i known
      simp [known]
  · intro o ho v hv
    obtain ⟨before, reported⟩ := reported (mem_definitions_of_mem_operations ho)
    refine reported (List.mem_append_left _ (List.mem_append_right _ ?_))
    exact List.mem_flatMap.2 ⟨v, hv, List.mem_append_left _ List.mem_cons_self⟩
  · intro f hf
    obtain ⟨before, reported⟩ := reported (mem_definitions_of_mem_fragments hf)
    exact conditionFaults_eq_nil.1 (reported (List.mem_append_left _ (by simp)))
  · intro f hf g leads same
    obtain ⟨before, reported⟩ := reported (mem_definitions_of_mem_fragments hf)
    have none_ : fragmentFaults d.fragmentTable before.fragments f = [] :=
      reported (List.mem_append_left _ List.mem_cons_self)
    have none_ := faultIf_eq_nil.1 (List.append_eq_nil_iff.1 none_).2
    have taken : g ∈ takeSpread d.fragmentTable (spreadNames f.selections) := mem_follow_iff.2 leads
    exact Bool.false_ne_true (none_.symm.trans (List.any_eq_true.2 ⟨g, taken, beq_iff_eq.2 same⟩))
  · intro f hf v hv
    obtain ⟨before, reported⟩ := reported (mem_definitions_of_mem_fragments hf)
    refine reported (List.mem_append_right _ ?_)
    exact List.mem_flatMap.2 ⟨v, hv, List.mem_append_left _ List.mem_cons_self⟩

/-- A document that is declared has no faults. -/
theorem documentFaults_of_declare {s : Schema} {text source : String} {d : Declaration}
    (h : declare s text source = .ok d) : documentFaults s d.document = [] := by
  unfold declare at h
  split at h
  · cases h
  · rename_i document _
    simp only at h
    split at h
    · cases h
    · rename_i none_
      split at h
      · cases h
      · split at h
        · cases h
        · cases h
          simpa using none_

theorem faultless_of_declare {s : Schema} {text source : String} {d : Declaration}
    (h : declare s text source = .ok d) : Faultless s d.document :=
  faultless_of_documentFaults (documentFaults_of_declare h)

/-- A document that is accepted for a schema. -/
def Accepted (s : Schema) (d : Document) : Prop :=
  ∃ text source declaration, declare s text source = .ok declaration ∧ declaration.document = d

namespace Accepted

variable {s : Schema} {d : Document}

theorem documentFaults (h : Accepted s d) : documentFaults s d = [] := by
  obtain ⟨text, source, declaration, declared, rfl⟩ := h
  exact documentFaults_of_declare declared

theorem faultless (h : Accepted s d) : Faultless s d := faultless_of_documentFaults h.documentFaults

end Accepted

/-! ### Selections of documents without faults -/

variable {s : Schema} {d : Document} {table available : List Fragment}

/-- The fragments that may be spread are those of the table, as far as the names lead to them. -/
def Unspent (table available : List Fragment) (pending : List String) : Prop :=
  ∀ f, Leads (fun f => spreadNames f.selections) table pending f → findFragment available f.name = some f

/-- A fragment that leads not to itself is not needed inside itself. -/
theorem Unspent.enter {name : String} {f : Fragment} (unspent : Unspent table available [name])
    (found : findFragment table name = some f)
    (acyclic : ∀ g, Leads (fun f => spreadNames f.selections) table (spreadNames f.selections) g →
      g.name ≠ f.name) :
    Unspent table (withoutFragment available name) (spreadNames f.selections) := by
  intro g leads
  have differs : g.name ≠ name := by
    rw [← name_of_findFragment found]
    exact acyclic g leads
  rw [findFragment_without differs]
  exact unspent g (.there List.mem_cons_self found leads)

/-- A name that a visited field has is that of a field of a known type. -/
theorem known_of_memberFaults {parent : TypeDefinition} (valid : s.Valid) (mem : parent ∈ s.types)
    (composite : parent.body.isComposite) {head : FieldHead} {below : Option (List Selection)}
    (inOrder : memberFaults s table (.field (some parent) (s.fieldOf? parent head.name) head below) = []) :
    ∃ definition t, s.fieldOf? parent head.name = some definition
      ∧ s.selectableType? parent head.name = some definition.type ∧ s.core? definition.type = some t
      ∧ (t.body.isLeaf ∧ below = none ∨ t.body.isComposite ∧ below ≠ none) := by
  cases found : s.fieldOf? parent head.name with
  | none =>
    rw [found] at inOrder
    cases inOrder
  | some definition =>
    obtain ⟨t, known, leafOrComposite⟩ := valid.core?_of_fieldOf? mem found
    refine ⟨definition, t, rfl, by rw [Schema.selectableType?_eq composite, found]; rfl, known, ?_⟩
    rw [found] at inOrder
    simp only [memberFaults, known] at inOrder
    split at inOrder
    · rename_i leaf
      exact Or.inl ⟨leaf, by simpa [faultIf_eq_nil] using inOrder⟩
    · rename_i notLeaf
      refine Or.inr ⟨leafOrComposite.resolve_left notLeaf, ?_⟩
      rintro rfl
      cases inOrder

/-- A type without selections below it is not composite. -/
theorem TypeBody.not_isComposite_of_isLeaf {body : TypeBody} (leaf : body.isLeaf) :
    ¬ body.isComposite := by
  cases body <;> simp_all [TypeBody.isLeaf, TypeBody.isComposite]

mutual

/-- A member of a selection set without faults can be read. -/
theorem Faultless.fits (faultless : Faultless s d) (valid : s.Valid) (available : List Fragment)
    (parent : TypeDefinition) (mem : parent ∈ s.types) (composite : parent.body.isComposite)
    (selection : Selection)
    (inOrder : ∀ v ∈ visit s (some parent) selection, memberFaults s d.fragmentTable v = [])
    (unspent : Unspent d.fragmentTable available selection.spreadNames) :
    (resolve d.fragmentTable available selection).Fits s parent := by
  match selection with
  | .leaf head =>
    obtain ⟨definition, t, -, selectable, known, kind⟩ :=
      known_of_memberFaults valid mem composite (inOrder _ (by rw [visit]; exact List.mem_cons_self))
    obtain ⟨leaf, -⟩ := kind.resolve_right fun ⟨_, some_⟩ => some_ rfl
    rw [resolve]
    exact ⟨_, t, selectable, known, TypeBody.not_isComposite_of_isLeaf leaf⟩
  | .nested head below =>
    obtain ⟨definition, t, found, selectable, known, kind⟩ :=
      known_of_memberFaults valid mem composite (inOrder _ (by rw [visit]; exact List.mem_cons_self))
    obtain ⟨below_composite, -⟩ := kind.resolve_left fun ⟨_, none_⟩ => by cases none_
    rw [resolve]
    refine ⟨_, t, selectable, known, below_composite, ?_⟩
    refine faultless.allFit valid available t (Schema.mem_types_of_find? known) below_composite below ?_
      (by rwa [Selection.spreadNames] at unspent)
    intro v hv
    refine inOrder v ?_
    rw [visit, Schema.definitionOf?]
    refine List.mem_cons_of_mem _ ?_
    simp only [Option.bind_eq_bind, Option.bind_some, found]
    rwa [Schema.compositeType?, show s.find? definition.type.core = some t from known,
      Option.filter_some, if_pos below_composite]
  | .inline none directives inner =>
    rw [resolve, Resolved.Fits]
    refine faultless.allFit valid available parent mem composite inner ?_
      (by rwa [Selection.spreadNames] at unspent)
    exact fun v hv => inOrder v (by rw [visit]; exact List.mem_cons_of_mem _ hv)
  | .inline (some condition) directives inner =>
    have none_ := inOrder (.inline (some parent) (some condition) directives inner)
      (by rw [visit]; exact List.mem_cons_self)
    obtain ⟨t, known, below_composite⟩ := conditionFaults_eq_nil.1 (List.append_eq_nil_iff.1 none_).1
    rw [resolve]
    refine ⟨t, known, below_composite, ?_⟩
    refine faultless.allFit valid available t (Schema.mem_types_of_find? known) below_composite inner ?_
      (by rwa [Selection.spreadNames] at unspent)
    intro v hv
    refine inOrder v ?_
    rw [visit]
    refine List.mem_cons_of_mem _ ?_
    rwa [Option.elim, Schema.compositeType?, known, Option.filter_some, if_pos below_composite]
  | .spread name directives =>
    rw [Selection.spreadNames] at unspent
    have none_ := inOrder (.spread (some parent) name directives)
      (by rw [visit]; exact List.mem_cons_self)
    obtain ⟨f, found⟩ : ∃ f, findFragment d.fragmentTable name = some f := by
      cases found : findFragment d.fragmentTable name with
      | none => simp [memberFaults, found] at none_
      | some f => exact ⟨f, rfl⟩
    have offered : findFragment available name = some f := by
      rw [← name_of_findFragment found]
      exact unspent f (.here List.mem_cons_self found)
    have hf := Document.mem_fragments_of_mem_table (List.mem_of_find?_eq_some found)
    obtain ⟨t, known, below_composite⟩ := faultless.condition f hf
    rw [resolve_spread offered]
    refine ⟨t, known, below_composite, ?_⟩
    refine faultless.allFit valid (withoutFragment available name) t (Schema.mem_types_of_find? known)
      below_composite f.selections ?_ (unspent.enter found (faultless.acyclic f hf))
    intro v hv
    refine faultless.inFragment f hf v ?_
    rwa [Fragment.visits, Schema.compositeType?, known, Option.filter_some, if_pos below_composite]
termination_by (available.length, sizeOf selection)
decreasing_by
  · exact Prod.Lex.right _ (by simp only [Selection.nested.sizeOf_spec]; omega)
  · exact Prod.Lex.right _ (by simp only [Selection.inline.sizeOf_spec]; omega)
  · exact Prod.Lex.right _ (by simp only [Selection.inline.sizeOf_spec]; omega)
  · exact Prod.Lex.left _ _ (length_withoutFragment_lt offered)

/-- A selection set without faults can be read. -/
theorem Faultless.allFit (faultless : Faultless s d) (valid : s.Valid) (available : List Fragment)
    (parent : TypeDefinition) (mem : parent ∈ s.types) (composite : parent.body.isComposite)
    (selections : List Selection)
    (inOrder : ∀ v ∈ visits s (some parent) selections, memberFaults s d.fragmentTable v = [])
    (unspent : Unspent d.fragmentTable available (spreadNames selections)) :
    Resolved.AllFit s parent (resolveAll d.fragmentTable available selections) := by
  match selections with
  | [] =>
    rw [resolveAll]
    trivial
  | first :: others =>
    rw [spreadNames] at unspent
    rw [visits] at inOrder
    rw [resolveAll]
    constructor
    · exact faultless.fits valid available parent mem composite first
        (fun v hv => inOrder v (List.mem_append_left _ hv))
        fun f h => unspent f (h.mono fun _ => List.mem_append_left _)
    · exact faultless.allFit valid available parent mem composite others
        (fun v hv => inOrder v (List.mem_append_right _ hv))
        fun f h => unspent f (h.mono fun _ => List.mem_append_right _)
termination_by (available.length, sizeOf selections)

end

/-- The selections of an operation without faults can be read on its root type. -/
theorem Faultless.operation (faultless : Faultless s d) (valid : s.Valid) {o : Operation}
    (ho : o ∈ d.operations) :
    ∃ root, s.rootType o.kind = some root ∧ s.find? root.name = some root ∧ root.isObject
      ∧ Resolved.AllFit s root (resolveAll d.fragmentTable d.fragmentTable o.selections) := by
  obtain ⟨name, named⟩ := Option.isSome_iff_exists.1 (faultless.kind o ho)
  obtain ⟨root, known, object⟩ := valid.root named
  have isRoot : s.rootType o.kind = some root := by
    rw [Schema.rootType, named]
    exact known
  refine ⟨root, isRoot, Schema.find?_name known, object, ?_⟩
  refine faultless.allFit valid d.fragmentTable root (Schema.mem_types_of_find? known)
    (Schema.isComposite_of_isObject object) o.selections ?_ ?_
  · intro v hv
    refine faultless.member o ho v ?_
    rwa [Operation.visits, isRoot]
  · exact fun f leads => leads.is_found

/-! ### Occurrences in documents without faults -/

/-- An occurrence on a type can be read: its conditions are known composite types, and its type is known,
    with selections, which can be read, exactly if it is composite. -/
structure Occurrence.Readable (s : Schema) (owner : String) (o : Occurrence) : Prop where
  owner : o.owner = owner
  condition : ∀ c ∈ o.conditions, ∃ t, s.find? c = some t ∧ t.body.isComposite
  type : ∃ t, s.core? o.type = some t
    ∧ (t.body.isComposite → ∃ below, o.below = some below ∧ Resolved.AllFit s t below)
  composite : ∀ below, o.below = some below → ∃ t, s.core? o.type = some t ∧ t.body.isComposite

mutual

/-- A selection that can be read gives occurrences that can be read. -/
theorem Resolved.Fits.collects {parent : TypeDefinition} (owner : String) (conditions : List String)
    (composites : ∀ c ∈ conditions, ∃ t, s.find? c = some t ∧ t.body.isComposite) (r : Resolved)
    (fits : r.Fits s parent) :
    ∃ os, collect s owner conditions parent r = .ok os ∧ ∀ o ∈ os, o.Readable s owner := by
  match r with
  | .leaf head =>
    obtain ⟨type, t, selectable, known, simple⟩ := fits
    refine ⟨[⟨head, type, owner, conditions, none⟩], by rw [collect, fieldTypeOf, selectable]; rfl, ?_⟩
    intro o ho
    cases List.mem_singleton.1 ho
    exact ⟨rfl, composites, ⟨t, known, fun composite => absurd composite simple⟩,
      fun below h => by cases h⟩
  | .nested head below =>
    obtain ⟨type, t, selectable, known, composite, inner⟩ := fits
    refine ⟨[⟨head, type, owner, conditions, some below⟩],
      by rw [collect, fieldTypeOf, selectable]; rfl, ?_⟩
    intro o ho
    cases List.mem_singleton.1 ho
    exact ⟨rfl, composites, ⟨t, known, fun _ => ⟨below, rfl, inner⟩⟩, fun _ _ => ⟨t, known, composite⟩⟩
  | .narrowed none below =>
    rw [collect]
    exact Resolved.AllFit.collects owner conditions composites below fits
  | .narrowed (some condition) below =>
    obtain ⟨t, known, composite, fits⟩ := fits
    have more : ∀ c ∈ conditions ++ [condition], ∃ t, s.find? c = some t ∧ t.body.isComposite := by
      intro c hc
      rcases List.mem_append.1 hc with hc | hc
      · exact composites c hc
      · rw [List.mem_singleton.1 hc]
        exact ⟨t, known, composite⟩
    rw [collect, typeNamed, known]
    exact Resolved.AllFit.collects owner (conditions ++ [condition]) more below fits
  | .missing name => exact fits.elim
  | .cyclic name => exact fits.elim

/-- Selections that can be read give occurrences that can be read. -/
theorem Resolved.AllFit.collects {parent : TypeDefinition} (owner : String) (conditions : List String)
    (composites : ∀ c ∈ conditions, ∃ t, s.find? c = some t ∧ t.body.isComposite) (rs : List Resolved)
    (fits : Resolved.AllFit s parent rs) :
    ∃ os, collectAll s owner conditions parent rs = .ok os ∧ ∀ o ∈ os, o.Readable s owner := by
  match rs with
  | [] => exact ⟨[], rfl, fun o ho => absurd ho List.not_mem_nil⟩
  | r :: rest =>
    obtain ⟨first, collects, readable⟩ := Resolved.Fits.collects owner conditions composites r fits.1
    obtain ⟨others, collects', readable'⟩ :=
      Resolved.AllFit.collects owner conditions composites rest fits.2
    refine ⟨first ++ others, by rw [collectAll, collects, collects']; rfl, fun o ho => ?_⟩
    exact (List.mem_append.1 ho).elim (readable o) (readable' o)

end

/-- A selection set of a document on a type: that of an operation, or that below a field of such a
    selection set. -/
inductive Selected (s : Schema) (d : Document) : TypeDefinition → List Resolved → Prop where
  | root {o : Operation} {owner : TypeDefinition} (mem : o ∈ d.operations)
      (type : s.rootType o.kind = some owner) :
      Selected s d owner (resolveAll d.fragmentTable d.fragmentTable o.selections)
  | under {owner t : TypeDefinition} {selections inner : List Resolved} {os : List Occurrence}
      {o : Occurrence} (outer : Selected s d owner selections)
      (occurs : occurrences s owner selections = .ok os) (mem : o ∈ os) (type : s.core? o.type = some t)
      (composite : t.body.isComposite) (selected : o.below = some inner) : Selected s d t inner

/-- An occurrence stands in a selection set of a document. -/
def Occurs (s : Schema) (d : Document) (o : Occurrence) : Prop :=
  ∃ owner selections os, Selected s d owner selections ∧ occurrences s owner selections = .ok os ∧ o ∈ os

/-- The selection sets of a document without faults are on composite types and can be read. -/
theorem Faultless.selected (faultless : Faultless s d) (valid : s.Valid) {owner : TypeDefinition}
    {selections : List Resolved} (h : Selected s d owner selections) :
    s.find? owner.name = some owner ∧ owner.body.isComposite ∧ Resolved.AllFit s owner selections := by
  induction h with
  | root mem type =>
    obtain ⟨root, isRoot, known, object, fits⟩ := faultless.operation valid mem
    rw [type] at isRoot
    cases isRoot
    exact ⟨known, Schema.isComposite_of_isObject object, fits⟩
  | @under owner t selections inner os o _ occurs mem type composite selected ih =>
    obtain ⟨os', collects, readable⟩ :=
      Resolved.AllFit.collects owner.name [] (fun _ hc => absurd hc List.not_mem_nil) selections ih.2.2
    cases Except.ok.inj (collects.symm.trans occurs)
    obtain ⟨t', known, below⟩ := (readable o mem).type
    rw [type] at known
    cases known
    obtain ⟨inner', selected', fits⟩ := below composite
    rw [selected] at selected'
    cases selected'
    exact ⟨Schema.find?_name type, composite, fits⟩

/-- The occurrences of a document without faults can be read. -/
theorem Faultless.readable (faultless : Faultless s d) (valid : s.Valid) {owner : TypeDefinition}
    {selections : List Resolved} (h : Selected s d owner selections) :
    ∃ os, occurrences s owner selections = .ok os ∧ ∀ o ∈ os, o.Readable s owner.name :=
  Resolved.AllFit.collects owner.name [] (fun _ hc => absurd hc List.not_mem_nil) selections
    (faultless.selected valid h).2.2

/-- An occurrence of a document without faults can be read, on a type that is composite. -/
theorem Faultless.readable_of_occurs (faultless : Faultless s d) (valid : s.Valid) {o : Occurrence}
    (h : Occurs s d o) :
    ∃ owner, s.find? owner.name = some owner ∧ owner.body.isComposite ∧ o.Readable s owner.name := by
  obtain ⟨owner, selections, os, selected, occurs, mem⟩ := h
  obtain ⟨known, composite, -⟩ := faultless.selected valid selected
  obtain ⟨os', collected, readable⟩ := faultless.readable valid selected
  cases Except.ok.inj (collected.symm.trans occurs)
  exact ⟨owner, known, composite, readable o mem⟩

end OperationClasses
