/-
Module: OperationClasses.Proofs.Generation.Failures
Purpose: For a valid schema and a document without faults, a run breaks a condition only where a class name is taken or
  a field shares the accessor of the type name.
Main exports: SharesTypename, Stops, generateDocument_stops
-/
import OperationClasses.Proofs.Accessor.Reduction
import OperationClasses.Proofs.Generation.Accumulation
import OperationClasses.Proofs.Validation.Acceptance

namespace OperationClasses

open Generation

variable {settings : Settings} {s : Schema} {d : Document} {p q : Progress} {fault : InvariantFault}

/-! ### Causes -/

/-- A path has the name of the accessor of a field in a document. -/
def OfField (s : Schema) (d : Document) (path : Path) : Prop :=
  ∃ o, Occurs s d o ∧ ¬ o.isTypename ∧ Naming.accessorName o.key = .ok path.name

/-- A field in a document has the accessor name of the type name. -/
def SharesTypename (s : Schema) (d : Document) (name : String) : Prop :=
  Naming.accessorName typenameField.name = .ok name
    ∧ ∃ o, Occurs s d o ∧ ¬ o.isTypename ∧ Naming.accessorName o.key = .ok name

/-- The conditions that a run for a document can break: a class name is taken, or a field of a class has
    the accessor name of the type name, in one selection set or in two that share the class. -/
inductive Stops (s : Schema) (d : Document) (r : Registry) : InvariantFault → Prop where
  | taken {name : String} (taken : name ∈ r.names) : Stops s d r (.classTaken name)
  | inSet {name owner : String} (shares : SharesTypename s d name) :
      Stops s d r (.methodConflict name owner)
  | inClass {name owner : String} (shares : SharesTypename s d name) :
      Stops s d r (.mergeConflict name owner)

/-! ### Conversions and names -/

/-- A type reference has no layer that conversions do not know. -/
theorem TypeRef.not_unknown_mem_layers {type : TypeRef} {label : String} :
    .unknown label ∉ type.layers := by
  induction type with
  | named name required => cases required <;> simp [layers]
  | list item required ih => cases required <;> simpa [layers] using ih

/-- A template that cannot be filled is not an unknown layer. -/
theorem Except.mapError_template_ne {x : Except Text.HoleError String} {label : String} :
    x.mapError .template ≠ .error (ConversionFault.unknownLayer label) := by
  cases x <;> rintro ⟨⟩

/-- Known layers can be planned. -/
theorem Conversion.plan_known {layers : List Layer} {binding label : String} {depth : Int}
    (known : ∀ label, .unknown label ∉ layers) :
    plan layers binding depth ≠ .error (.unknownLayer label) := by
  induction layers generalizing binding depth with
  | nil => rintro ⟨⟩
  | cons layer rest ih =>
    have rest_known : ∀ label, .unknown label ∉ rest := fun label h =>
      known label (List.mem_cons_of_mem _ h)
    intro h
    rw [plan.eq_def] at h
    cases layer with
    | unknown label => exact known label List.mem_cons_self
    | nullable | list =>
      rcases bind_error h with inner | ⟨_, _, ⟨⟩⟩
      exact ih rest_known inner

/-- Known layers can be planned for sending. -/
theorem Conversion.planInput_known {fill : String → Except Text.HoleError String} {layers : List Layer}
    {name binding label : String} {depth : Int} (known : ∀ label, .unknown label ∉ layers) :
    planInput fill name layers binding depth ≠ .error (.unknownLayer label) := by
  induction layers generalizing binding depth with
  | nil => rintro ⟨⟩
  | cons layer rest ih =>
    have rest_known : ∀ label, .unknown label ∉ rest := fun label h =>
      known label (List.mem_cons_of_mem _ h)
    intro h
    rw [planInput.eq_def] at h
    cases layer with
    | unknown label => exact known label List.mem_cons_self
    | nullable | list =>
      rcases bind_error h with inner | ⟨inner, _, h⟩
      · exact ih rest_known inner
      · rcases bind_error h with filled | ⟨_, _, ⟨⟩⟩
        exact Except.mapError_template_ne filled

/-- The values of a type can be read, as far as its layers go. -/
theorem outputConversion_known {type : TypeRef} {binding label template : String} {depth level : Int} :
    outputConversion type.layers binding depth level template ≠ .error (.unknownLayer label) := by
  intro h
  rcases bind_error h with planned | ⟨conversion, _, h⟩
  · exact Conversion.plan_known (fun _ => TypeRef.not_unknown_mem_layers) planned
  · exact Except.mapError_template_ne h

/-- The values of a type can be sent, as far as its layers go. -/
theorem inputConversion_known {type : TypeRef} {binding name label template : String} {depth : Int} :
    inputConversion type.layers binding name depth template ≠ .error (.unknownLayer label) := by
  intro h
  rcases bind_error h with planned | ⟨conversion, _, h⟩
  · exact Conversion.planInput_known (fun _ => TypeRef.not_unknown_mem_layers) planned
  · exact Except.mapError_template_ne h

/-! ### Enums and variables -/

/-- A class is registered unless its name is taken. -/
theorem register_stops {c : ClassDefinition} (h : Fails (register c) p (.invariant fault) q) :
    Stops s d q.registry fault := by
  obtain ⟨taken, same, rfl⟩ := fails_register_iff.1 h
  cases same
  exact .taken taken

/-- Reading a scalar breaks no condition. -/
theorem not_fails_scalarBinding {name : String} :
    ¬ Fails (scalarBinding settings name) p (.invariant fault) q := by
  intro h
  unfold scalarBinding at h
  split at h
  · obtain ⟨_, _, -, h⟩ := (fails_bind_iff.1 h).resolve_left not_fails_pure
    obtain ⟨_, _, -, h⟩ := (fails_bind_iff.1 h).resolve_left not_fails_modify
    exact not_fails_pure h
  · split at h
    · rcases fails_bind_iff.1 h with unbound | ⟨_, _, unbound, -⟩
      · cases (fails_throw_iff.1 unbound).1
      · exact not_yields_throw unbound
    · obtain ⟨_, _, -, h⟩ := (fails_bind_iff.1 h).resolve_left not_fails_pure
      obtain ⟨_, _, -, h⟩ := (fails_bind_iff.1 h).resolve_left not_fails_modify
      exact not_fails_pure h

/-- Reading an enum stops only at a taken class name. -/
theorem enumClass_stops {name : String} {values : List EnumValueDefinition}
    (h : Fails (enumClass name values) p (.invariant fault) q) : Stops s d q.registry fault := by
  unfold enumClass at h
  obtain ⟨_, _, -, h⟩ := (fails_bind_iff.1 h).resolve_left not_fails_get
  split at h
  · exact absurd h not_fails_pure
  · obtain ⟨className, _, -, h⟩ := (fails_bind_iff.1 h).resolve_left not_fails_named
    rcases fails_bind_iff.1 h with registers | ⟨_, _, -, h⟩
    · exact register_stops registers
    · obtain ⟨_, _, -, h⟩ := (fails_bind_iff.1 h).resolve_left not_fails_modify
      exact absurd h not_fails_pure

/-- Writing how a value is sent breaks no condition. -/
theorem not_fails_wrapInput {type : TypeRef} {name : String} {core : TypedInput} :
    ¬ Fails (wrapInput type name core) p (.invariant fault) q := by
  intro h
  rcases fails_bind_iff.1 h with written | ⟨_, _, -, h⟩
  · obtain ⟨label, unknown⟩ := fails_converted written
    exact inputConversion_known unknown
  · exact absurd h not_fails_pure

mutual

/-- Reading a type of variables stops only at a taken class name. -/
theorem coreInput_stops (valid : settings.schema.Valid) (available : List String) (name : String)
    (known : (settings.schema.find? name).isSome) {p q : Progress}
    (h : Fails (coreInput settings available name) p (.invariant fault) q) :
    Stops s d q.registry fault := by
  unfold coreInput at h
  split at h
  · obtain ⟨_, _, -, h⟩ := (fails_bind_iff.1 h).resolve_left not_fails_scalarBinding
    exact absurd h not_fails_pure
  · rcases fails_bind_iff.1 h with read | ⟨_, _, -, h⟩
    · exact enumClass_stops read
    · exact absurd h not_fails_pure
  · rename_i found
    rcases fails_bind_iff.1 h with read | ⟨_, _, -, h⟩
    · exact inputClassOf_stops valid available name _ found read
    · exact absurd h not_fails_pure
  · cases (fails_throw_iff.1 h).1
  · rename_i missing
    rw [missing] at known
    cases known
termination_by (available.length, 2, 0)

/-- Reading an input object type stops only at a taken class name. -/
theorem inputClassOf_stops (valid : settings.schema.Valid) (available : List String) (name : String)
    {typeName : String} {directives : List Directive} (fields : List InputDefinition)
    (found : settings.schema.find? name = some ⟨typeName, directives, .input fields⟩) {p q : Progress}
    (h : Fails (inputClassOf settings available name fields) p (.invariant fault) q) :
    Stops s d q.registry fault := by
  unfold inputClassOf at h
  obtain ⟨_, _, -, h⟩ := (fails_bind_iff.1 h).resolve_left not_fails_get
  split at h
  · exact absurd h not_fails_pure
  · obtain ⟨className, _, -, h⟩ := (fails_bind_iff.1 h).resolve_left not_fails_named
    obtain ⟨_, _, -, h⟩ := (fails_bind_iff.1 h).resolve_left not_fails_modify
    split at h
    · rename_i listed
      have smaller := length_erase_lt listed
      have known : ∀ f ∈ fields, (settings.schema.core? f.type).isSome := by
        intro f hf
        obtain ⟨u, type, -⟩ := valid.input (Schema.mem_types_of_find? found) (f := f) hf
        rw [type]
        rfl
      rcases fails_bind_iff.1 h with read | ⟨_, _, -, h⟩
      · exact inputFields_stops valid (available.erase name) fields known read
      · rcases fails_bind_iff.1 h with registers | ⟨_, _, -, h⟩
        · exact register_stops registers
        · exact absurd h not_fails_pure
    · exact absurd h not_fails_pure
termination_by (available.length, 1, 0)
decreasing_by exact Prod.Lex.left _ _ smaller

/-- Reading the fields of an input object type stops only at a taken class name. -/
theorem inputFields_stops (valid : settings.schema.Valid) (available : List String)
    (fields : List InputDefinition) (known : ∀ f ∈ fields, (settings.schema.core? f.type).isSome)
    {p q : Progress} (h : Fails (inputFields settings available fields) p (.invariant fault) q) :
    Stops s d q.registry fault := by
  match fields with
  | [] =>
    rw [inputFields] at h
    exact absurd h not_fails_pure
  | field :: rest =>
    obtain ⟨knownFirst, knownRest⟩ := List.forall_mem_cons.1 known
    unfold inputFields at h
    obtain ⟨_, _, -, h⟩ := (fails_bind_iff.1 h).resolve_left not_fails_named
    rcases fails_bind_iff.1 h with read | ⟨_, _, -, h⟩
    · exact coreInput_stops valid available field.type.core knownFirst read
    · obtain ⟨_, _, -, h⟩ := (fails_bind_iff.1 h).resolve_left not_fails_wrapInput
      rcases fails_bind_iff.1 h with others | ⟨_, _, -, h⟩
      · exact inputFields_stops valid available rest knownRest others
      · exact absurd h not_fails_pure
termination_by (available.length, 3, fields.length)

end

/-- Reading a variable of an operation stops only at a taken class name. -/
theorem declaredVariable_stops (valid : settings.schema.Valid) {v : VariableDeclaration}
    (known : (settings.schema.core? v.type).isSome)
    (h : Fails (declaredVariable settings v) p (.invariant fault) q) : Stops s d q.registry fault := by
  unfold declaredVariable at h
  split at h
  · unfold variableDefinition resolveInput at h
    obtain ⟨_, _, -, h⟩ := (fails_bind_iff.1 h).resolve_left not_fails_named
    rcases fails_bind_iff.1 h with resolves | ⟨_, _, -, h⟩
    · rcases fails_bind_iff.1 resolves with read | ⟨_, _, -, wraps⟩
      · exact coreInput_stops valid _ _ known read
      · exact absurd wraps not_fails_wrapInput
    · exact absurd h not_fails_pure
  · rename_i missing
    rw [missing] at known
    cases known

/-- Reading the variables of an operation stops only at a taken class name. -/
theorem declaredVariables_stops (valid : settings.schema.Valid) {vs : List VariableDeclaration}
    (known : ∀ v ∈ vs, (settings.schema.core? v.type).isSome)
    (h : Fails (vs.mapM (declaredVariable settings)) p (.invariant fault) q) :
    Stops s d q.registry fault := by
  induction vs generalizing p with
  | nil => exact absurd h not_fails_pure
  | cons v rest ih =>
    obtain ⟨knownFirst, knownRest⟩ := List.forall_mem_cons.1 known
    rcases fails_mapM_cons_iff.1 h with first | ⟨_, _, -, later⟩
    · exact declaredVariable_stops valid knownFirst first
    · exact ih knownRest later

/-! ### Adding accessors -/

/-- The accessor of a field that has the name of the one of the type name shares it. -/
theorem SharesTypename.of_paths {name : String} {paths : List Path}
    (named : Naming.accessorName typenameField.name = .ok name) (some_ : paths ≠ [])
    (all : ∀ path ∈ paths, path.name = name ∧ OfField s d path) : SharesTypename s d name := by
  obtain ⟨path, hpath⟩ := List.exists_mem_of_ne_nil _ some_
  obtain ⟨same, o, occurs, notTypename, named'⟩ := all path hpath
  exact ⟨named, o, occurs, notTypename, by rw [named', same]⟩

/-- Accessors that nobody has read can be merged, unless one is that of the type name and the other that
    of a field. -/
theorem Method.Made.merge_stops {m other : Method} (h : m.Made (OfField s d))
    (h' : other.Made (OfField s d)) (same : m.name = other.name) :
    (∀ fault, m.merge other ≠ .error fault)
      ∧ (m.merge other = .ok none → SharesTypename s d other.name) := by
  cases h with
  | @fixed name named =>
    refine ⟨fun fault fails => (by cases fails), fun merges => ?_⟩
    cases h' with
    | fixed named' =>
      rw [named] at named'
      cases named'
      simp [Method.merge, pure, Except.pure] at merges
    | @field name' paths some_ all =>
      cases show name = name' from same
      exact .of_paths named some_ all
  | @field name paths some_ all =>
    cases h' with
    | @fixed name' named' =>
      cases show name = name' from same
      exact ⟨fun fault fails => (by cases fails), fun _ => .of_paths named' some_ all⟩
    | field => exact ⟨fun fault fails => (by cases fails), fun merges => by cases merges⟩

/-- An accessor of a selection set is added unless it shares the name of the type name. -/
theorem Accessors.add_stops {a : Accessors} {owner : String} {m : Method}
    (old : ∀ x ∈ a.methods, x.Made (OfField s d)) (new : m.Made (OfField s d))
    (h : Fails (a.add owner m) p (.invariant fault) q) : Stops s d q.registry fault := by
  unfold Accessors.add at h
  split at h
  · exact absurd h not_fails_pure
  · rename_i existing found
    obtain ⟨hexisting, same⟩ := Method.mem_of_find? found
    obtain ⟨merges, conflict⟩ := (old existing hexisting).merge_stops new same
    rcases fails_bind_iff.1 h with failed | ⟨merged, _, yields, h⟩
    · obtain ⟨fault', failed, -, -⟩ := fails_invariant_iff.1 failed
      exact absurd failed (merges fault')
    · obtain ⟨fits, rfl⟩ := yields_invariant_iff.1 yields
      cases merged with
      | some merged => exact absurd h not_fails_pure
      | none =>
        cases (fails_throw_iff.1 h).1
        exact .inSet (conflict fits)

/-- Accessors are added to those of a class unless one shares the name of the type name. -/
theorem ObjectClass.addMethods_stops {owner : String} {extras methods added : List Method} {r : Registry}
    (h : addMethods owner methods extras = (added, some fault))
    (old : ∀ x ∈ methods, x.Made (OfField s d)) (new : ∀ x ∈ extras, x.Made (OfField s d)) :
    Stops s d r fault := by
  induction extras generalizing methods with
  | nil => cases h
  | cons extra rest ih =>
    obtain ⟨newFirst, newRest⟩ := List.forall_mem_cons.1 new
    unfold addMethods at h
    split at h
    · refine ih h (fun x hx => ?_) newRest
      rcases List.mem_append.1 hx with hx | hx
      · exact old x hx
      · rwa [List.mem_singleton.1 hx]
    · rename_i m found
      obtain ⟨hm, same⟩ := Method.mem_of_find? found
      obtain ⟨merges, conflict⟩ := (old m hm).merge_stops newFirst same
      split at h
      · rename_i merged fits
        refine ih h (fun x hx => ?_) newRest
        rcases Method.mem_of_mem_put hx with rfl | hx
        · exact (old m hm).merge newFirst same fits
        · exact old x hx
      · rename_i fits
        cases h
        exact .inClass (conflict fits)
      · rename_i fault' failed
        exact absurd failed (merges fault')

/-- A class takes further accessors if they can be added to its own. -/
theorem ObjectClass.mergeMethods_fault {c : ObjectClass} {extras : List Method}
    {dependencies : List String} :
    (c.mergeMethods extras dependencies).2 = (addMethods c.name c.methods extras).2 := by
  unfold mergeMethods
  split
  · rename_i added
    rw [added]
  · rename_i added
    rw [added]

/-- The class of a selection set is registered unless its name is taken or an accessor shares the name of
    the type name. -/
theorem registerLeaf_stops {name : String} {type : TypeDefinition} {existing : Option ClassDefinition}
    {methods : List Method} {dependencies : List String} (known : s.find? type.name = some type)
    (composite : type.body.isComposite) (schema : settings.schema = s)
    (before : ∀ c, existing = some c → ∃ c', p.registry.find? name = some c' ∧ c'.role = c.role)
    (old : p.Made fun _ => OfField s d) (new : ∀ m ∈ methods, m.Made (OfField s d))
    (h : Fails (registerLeaf settings name type existing methods dependencies) p (.invariant fault) q) :
    Stops s d q.registry fault := by
  unfold registerLeaf at h
  split at h
  · rename_i isLeaf
    obtain ⟨progress, _, yields, takes⟩ := (fails_bind_iff.1 h).resolve_left not_fails_get
    obtain ⟨rfl, rfl⟩ := yields_get_iff.1 yields
    split at takes
    · rename_i c found
      obtain ⟨_, _, -, told⟩ := (fails_bind_iff.1 takes).resolve_left not_fails_set
      split at told
      · rename_i fault' conflict
        obtain ⟨same, -⟩ := fails_throw_iff.1 told
        cases same
        have own : ∀ m ∈ c.methods, m.Made (OfField s d) :=
          old (.leaf c) (Registry.mem_classes_of_find? found)
        have conflict : (c.mergeMethods methods dependencies).2 = some fault := conflict
        rw [ObjectClass.mergeMethods_fault] at conflict
        exact ObjectClass.addMethods_stops (Prod.ext rfl conflict) own new
      · exact absurd told not_fails_pure
    · rename_i notLeaf
      obtain ⟨c, rfl, leaf⟩ := (Option.any_eq_true _ _).1 isLeaf
      obtain ⟨c', found, same⟩ := before c rfl
      rw [ClassDefinition.isLeafOf_iff, ← same] at leaf
      cases c' with
      | leaf c' => exact absurd found (notLeaf c')
      | enum | input | root => cases leaf
  · rcases fails_bind_iff.1 h with failed | ⟨types, _, -, registers⟩
    · obtain ⟨fault', failed, -, -⟩ := fails_invariant_iff.1 failed
      obtain ⟨types, runtime⟩ := Schema.runtimeTypes_of_composite known composite
      rw [schema, runtime] at failed
      cases failed
    · exact register_stops registers

/-! ### Selection sets -/

/-- The accessor of an occurrence of a field is named after it. -/
theorem Occurrence.method_ofField {name : String} {o : Occurrence} {typed : TypedOutput}
    (occurs : Occurs s d o) (notTypename : ¬ o.isTypename) (named : Naming.accessorName o.key = .ok name) :
    (o.method name typed).Made (OfField s d) := by
  refine .field (List.cons_ne_nil _ _) fun path hpath => ?_
  cases List.mem_singleton.1 hpath
  exact ⟨rfl, o, occurs, notTypename, named⟩

/-- What is read of occurrences in a document is named after them, in the class and in those below it. -/
theorem Builds.ofField {className : String} {found all : Accessors} {os : List Occurrence}
    (h : Builds settings className found os p all q) (occurs : ∀ o ∈ os, Occurs settings.schema d o)
    (old : ∀ m ∈ found.methods, m.Made (OfField settings.schema d))
    (before : p.Made fun _ => OfField settings.schema d) :
    (∀ m ∈ all.methods, m.Made (OfField settings.schema d))
      ∧ q.Made fun _ => OfField settings.schema d := by
  induction h with
  | nil => exact ⟨old, before⟩
  | typename named claims isTypename adds _ ih =>
    obtain ⟨_, others⟩ := List.forall_mem_cons.1 occurs
    rw [← claims.methods] at old
    rw [Occurrence.key_of_isTypename isTypename] at named
    exact ih others (adds.made old (.fixed named)) before
  | value named claims notTypename _ _ _ supports _ adds _ ih =>
    obtain ⟨first, others⟩ := List.forall_mem_cons.1 occurs
    rw [← claims.methods] at old
    exact ih others (adds.made old (Occurrence.method_ofField first notTypename named))
      (before.supports supports)
  | object named claims notTypename type composite selected below _ _ registers _ adds _ ih ih' =>
    obtain ⟨first, others⟩ := List.forall_mem_cons.1 occurs
    rw [← claims.methods] at old
    obtain ⟨owner, outer, os, isSelected, around, mem⟩ := first
    have inner := Selected.under isSelected around mem type composite selected
    obtain ⟨inside, between⟩ := ih (fun o' ho' => ⟨_, _, _, inner, below, ho'⟩)
      (fun m hm => absurd hm List.not_mem_nil) before
    exact ih' others (adds.made old
      (Occurrence.method_ofField ⟨owner, outer, os, isSelected, around, mem⟩ notTypename named))
      (registerLeaf_made registers between inside)

/-- Claiming a name breaks no condition. -/
theorem not_fails_claim {a : Accessors} {owner name key : String} :
    ¬ Fails (a.claim owner name key) p (.invariant fault) q := by
  intro h
  unfold Accessors.claim at h
  split at h
  · exact not_fails_pure h
  · split at h
    · exact not_fails_pure h
    · cases (fails_throw_iff.1 h).1

/-- Writing how a value is read breaks no condition. -/
theorem not_fails_wrapOutput {o : Occurrence} {core : TypedOutput} :
    ¬ Fails (o.wrapOutput core) p (.invariant fault) q := by
  intro h
  rcases fails_bind_iff.1 h with written | ⟨_, _, -, h⟩
  · obtain ⟨label, unknown⟩ := fails_converted written
    exact outputConversion_known unknown
  · exact not_fails_pure h

mutual

/-- Reading a selection set of a document stops only where it may. -/
theorem accessors_stops (faultless : Faultless settings.schema d) (valid : settings.schema.Valid)
    (className : String) (owner : TypeDefinition) (selections : List Resolved)
    (selected : Selected settings.schema d owner selections) {p q : Progress}
    (before : p.Made fun _ => OfField settings.schema d)
    (h : Fails (accessors settings className owner selections) p (.invariant fault) q) :
    Stops settings.schema d q.registry fault := by
  unfold accessors at h
  split at h
  · rename_i failed
    obtain ⟨os, collected, -⟩ := faultless.readable valid selected
    rw [collected] at failed
    cases failed
  · rename_i os collected
    have smaller : ∀ o ∈ os, o.weightBelow < Resolved.weightAll selections := fun o ho =>
      weightBelow_lt collected ho
    rcases fails_bind_iff.1 h with reads | ⟨_, _, -, h⟩
    · exact addOccurrences_stops faultless valid className Accessors.empty os _ smaller
        (fun o ho => ⟨owner, selections, os, selected, collected, ho⟩)
        (fun m hm => absurd hm List.not_mem_nil) before reads
    · exact absurd h not_fails_pure
termination_by (Resolved.weightAll selections, 2, 0)

/-- Reading occurrences in a document stops only where it may. -/
theorem addOccurrences_stops (faultless : Faultless settings.schema d) (valid : settings.schema.Valid)
    (className : String) (found : Accessors) (os : List Occurrence) (bound : Nat)
    (smaller : ∀ o ∈ os, o.weightBelow < bound) (occurs : ∀ o ∈ os, Occurs settings.schema d o)
    (old : ∀ m ∈ found.methods, m.Made (OfField settings.schema d)) {p q : Progress}
    (before : p.Made fun _ => OfField settings.schema d)
    (h : Fails (addOccurrences settings className found os bound smaller) p (.invariant fault) q) :
    Stops settings.schema d q.registry fault := by
  match os with
  | [] =>
    rw [addOccurrences] at h
    exact absurd h not_fails_pure
  | o :: rest =>
    have shorter : o.weightBelow < bound := smaller o List.mem_cons_self
    obtain ⟨first, others⟩ := List.forall_mem_cons.1 occurs
    unfold addOccurrences at h
    rcases fails_bind_iff.1 h with failed | ⟨added, r, yields, later⟩
    · exact addOccurrence_stops faultless valid className found o first old before failed
    · obtain ⟨old, before⟩ := (addOccurrence_builds className found o yields .nil).ofField
        (List.forall_mem_singleton.2 first) old before
      exact addOccurrences_stops faultless valid className added rest bound _ others old before later
termination_by (bound, 1, os.length)
decreasing_by
  · exact Prod.Lex.left _ _ shorter
  · simp [Prod.lex_def]

/-- Reading an occurrence in a document stops only where it may. -/
theorem addOccurrence_stops (faultless : Faultless settings.schema d) (valid : settings.schema.Valid)
    (className : String) (found : Accessors) (o : Occurrence)
    (occurs : Occurs settings.schema d o) (old : ∀ m ∈ found.methods, m.Made (OfField settings.schema d))
    {p q : Progress} (before : p.Made fun _ => OfField settings.schema d)
    (h : Fails (addOccurrence settings className found o) p (.invariant fault) q) :
    Stops settings.schema d q.registry fault := by
  unfold addOccurrence at h
  obtain ⟨name, _, yieldsName, claiming⟩ := (fails_bind_iff.1 h).resolve_left not_fails_named
  obtain ⟨named, rfl⟩ := yields_named_iff.1 yieldsName
  obtain ⟨claimed, _, yieldsClaim, adding⟩ := (fails_bind_iff.1 claiming).resolve_left not_fails_claim
  obtain ⟨claims, rfl⟩ := yields_claim_iff.1 yieldsClaim
  rw [← claims.methods] at old
  split at adding
  · rename_i isTypename
    rw [Occurrence.key_of_isTypename isTypename] at named
    exact Accessors.add_stops old (.fixed named) adding
  · rename_i notTypename
    rcases fails_bind_iff.1 adding with failed | ⟨core, _, read, wrapping⟩
    · exact coreOutput_stops faultless valid (className ++ "_" ++ o.suffix) o occurs before failed
    · obtain ⟨typed, _, -, last⟩ := (fails_bind_iff.1 wrapping).resolve_left not_fails_wrapOutput
      exact Accessors.add_stops (a := claimed.dependOn typed) old
        (Occurrence.method_ofField occurs notTypename named) last
termination_by (o.weightBelow, 4, 0)

/-- Reading a named type stops only where it may. -/
theorem coreOutput_stops (faultless : Faultless settings.schema d) (valid : settings.schema.Valid)
    (wanted : String) (o : Occurrence) (occurs : Occurs settings.schema d o)
    {p q : Progress} (before : p.Made fun _ => OfField settings.schema d)
    (h : Fails (coreOutput settings wanted o) p (.invariant fault) q) :
    Stops settings.schema d q.registry fault := by
  obtain ⟨_, _, _, readable⟩ := faultless.readable_of_occurs valid occurs
  obtain ⟨t, type, selectedBelow⟩ := readable.type
  unfold coreOutput at h
  rw [type] at h
  dsimp only at h
  split at h
  · obtain ⟨_, _, -, h⟩ := (fails_bind_iff.1 h).resolve_left not_fails_scalarBinding
    exact absurd h not_fails_pure
  · rcases fails_bind_iff.1 h with read | ⟨_, _, -, h⟩
    · exact enumClass_stops read
    · exact absurd h not_fails_pure
  · cases (fails_throw_iff.1 h).1
  · rename_i notScalar notEnum notInput
    have composite : t.body.isComposite := by
      cases body : t.body <;> simp_all [TypeBody.isComposite]
    obtain ⟨below, selected, fits⟩ := selectedBelow composite
    have smaller : Resolved.weightAll below = o.weightBelow := by
      simp [Occurrence.weightBelow, selected]
    split at h
    · rename_i missing
      rw [selected] at missing
      cases missing
    · rename_i below' selected'
      rw [selected] at selected'
      cases selected'
      obtain ⟨_, _, got, reading⟩ := (fails_bind_iff.1 h).resolve_left not_fails_get
      obtain ⟨rfl, rfl⟩ := yields_get_iff.1 got
      obtain ⟨owner, outer, os, isSelected, around, mem⟩ := occurs
      have inner := Selected.under isSelected around mem type composite selected
      rcases fails_bind_iff.1 reading with failed | ⟨⟨methods, dependencies⟩, r, yields, registering⟩
      · exact accessors_stops faultless valid _ t below inner before failed
      · obtain ⟨os', all, collected, reads, rfl, rfl⟩ := accessors_builds _ _ _ yields
        obtain ⟨inside, between⟩ := reads.ofField (fun o' ho' => ⟨_, _, _, inner, collected, ho'⟩)
          (fun m hm => absurd hm List.not_mem_nil) before
        rcases fails_bind_iff.1 registering with failed | ⟨_, _, -, done⟩
        · exact registerLeaf_stops (Schema.find?_name type) composite rfl
            (fun c found => reads.grows _ _ found) between inside failed
        · exact absurd done not_fails_pure
termination_by (o.weightBelow, 3, 0)
decreasing_by
  rw [smaller]
  simp [Prod.lex_def]

end

/-! ### Operations -/

/-- Generating an operation of a document stops only where it may. -/
theorem generateOperation_stops (faultless : Faultless settings.schema d) (valid : settings.schema.Valid)
    {o : Operation} (mem : o ∈ d.operations) (before : p.Made fun _ => OfField settings.schema d)
    (h : Fails (generateOperation settings d.fragmentTable o) p (.invariant fault) q) :
    Stops settings.schema d q.registry fault := by
  obtain ⟨root, type, known, object, -⟩ := faultless.operation valid mem
  have composite := Schema.isComposite_of_isObject object
  unfold generateOperation rootTypeOf at h
  rw [type] at h
  obtain ⟨className, _, yieldsName, rooting⟩ := (fails_bind_iff.1 h).resolve_left not_fails_named
  obtain ⟨-, rfl⟩ := yields_named_iff.1 yieldsName
  obtain ⟨owner, _, yieldsRoot, declaring⟩ := (fails_bind_iff.1 rooting).resolve_left not_fails_pure
  obtain ⟨rfl, rfl⟩ := yields_pure_iff.1 yieldsRoot
  rcases fails_bind_iff.1 declaring with failed | ⟨parameters, between, declared, reading⟩
  · exact declaredVariables_stops valid (faultless.declared o mem) failed
  · have before := before.supports (Supporting.declaredVariables.supports declared)
    rcases fails_bind_iff.1 reading with failed | ⟨⟨methods, dependencies⟩, _, -, closing⟩
    · exact accessors_stops faultless valid className owner _ (.root mem type) before failed
    · rcases fails_bind_iff.1 closing with failed | ⟨types, _, -, registering⟩
      · obtain ⟨fault', failed, -, -⟩ := fails_invariant_iff.1 failed
        obtain ⟨types, runtime⟩ := Schema.runtimeTypes_of_composite known composite
        rw [runtime] at failed
        cases failed
      · rcases fails_bind_iff.1 registering with registers | ⟨_, _, -, done⟩
        · exact register_stops registers
        · exact absurd done not_fails_pure

/-- Accessors stay named after fields of the document while its operations are generated. -/
theorem generateOperation_ofField {o : Operation} {x : ClassDefinition} (mem : o ∈ d.operations)
    (before : p.Made fun _ => OfField settings.schema d)
    (h : Yields (generateOperation settings d.fragmentTable o) p x q) :
    q.Made fun _ => OfField settings.schema d := by
  obtain ⟨c, details, all, os, owner, between, last, registry, generates, rfl, rfl⟩ :=
    generateOperation_generates h
  obtain ⟨own, inside⟩ := generates.builds.ofField
    (fun o' ho' => ⟨owner, _, os, .root mem generates.type, generates.occurs, ho'⟩)
    (fun m hm => absurd hm List.not_mem_nil) (before.supports generates.supports)
  refine inside.add generates.added fun m hm => ?_
  rw [ClassDefinition.methods, generates.methods] at hm
  exact own m hm

/-- Generating the operations of a document stops only where it may. -/
theorem generateOperations_stops (faultless : Faultless settings.schema d)
    (valid : settings.schema.Valid) {os : List Operation} (mem : ∀ o ∈ os, o ∈ d.operations)
    (before : p.Made fun _ => OfField settings.schema d)
    (h : Fails (os.mapM (generateOperation settings d.fragmentTable)) p (.invariant fault) q) :
    Stops settings.schema d q.registry fault := by
  induction os generalizing p with
  | nil => exact absurd h not_fails_pure
  | cons o rest ih =>
    obtain ⟨isOperation, mem⟩ := List.forall_mem_cons.1 mem
    rcases fails_mapM_cons_iff.1 h with first | ⟨x, r, yields, later⟩
    · exact generateOperation_stops faultless valid isOperation before first
    · exact ih mem (generateOperation_ofField isOperation before yields) later

/-- A fresh run for a document without faults breaks a condition only at a class name that is taken, or
    at a field with the accessor name of the type name. -/
theorem generateDocument_stops (faultless : Faultless settings.schema d) (valid : settings.schema.Valid)
    (h : Fails (generateDocument settings d) Progress.start (.invariant fault) q) :
    Stops settings.schema d q.registry fault :=
  generateOperations_stops faultless valid (fun _ h => h) Progress.made_start h

end OperationClasses
