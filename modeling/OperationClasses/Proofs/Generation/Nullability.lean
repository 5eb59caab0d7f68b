/-
Module: OperationClasses.Proofs.Generation.Nullability
Purpose: Which variables and input fields may be left out, as their signatures begin: those of a nullable type, and
  those of a required scalar that is bound to an optional signature. They are written last, with a default.
Main exports: Variable.exists_sort_eq_append, Settings.Omits, Settings.Explains, Progress.Explained,
  coreInput_explained, accessors_explained, generateOperation_explained, Generator.optional_iff_omits
-/
import OperationClasses.Module.ClassText
import OperationClasses.Proofs.Accessor.Signature
import OperationClasses.Proofs.Class.VariableOrder
import OperationClasses.Proofs.Generation.EmittedNames
import OperationClasses.Proofs.Generation.Imports

namespace OperationClasses

open Generation

variable {settings : Settings} {s : Schema} {p q : Progress} {name className : String} {type : TypeRef}

/-! ### Signatures -/

theorem opensOptional_optional (signature : String) : OpensOptional ("Optional[" ++ signature ++ "]") := by
  rw [OpensOptional, String.toList_append, String.toList_append, List.append_assoc]
  exact List.prefix_append _ _

/-- The signature of the values of a type begins like an optional one if the type is nullable, or if the signature of
    its named type does and nothing stands around that. -/
theorem opensOptional_rewrap_iff {core : String} :
    OpensOptional (rewrap core type.layers)
      ↔ ¬ type.isRequired ∨ type = .named type.core true ∧ OpensOptional core := by
  cases type with
  | named name required =>
    cases required
    · exact iff_of_true (opensOptional_optional core) (Or.inl Bool.false_ne_true)
    · simp [TypeRef.layers, TypeRef.isRequired, TypeRef.core, rewrap]
  | list item required =>
    cases required
    · exact iff_of_true (opensOptional_optional _) (Or.inl Bool.false_ne_true)
    · refine iff_of_false (FieldAccess.not_opensOptional_list _) ?_
      simp [TypeRef.isRequired]

/-- A bracket is no character of a name. -/
theorem not_opensOptional_of_nameChars {signature : String} (chars : Naming.NameChars signature.toList) :
    ¬ OpensOptional signature := by
  intro opens
  have bracket : Token.isNameChar '[' := chars '[' (opens.subset (by decide))
  exact absurd bracket (by decide)

theorem not_opensOptional_typeClassName (isName : Token.isName name)
    (named : Naming.typeClassName name = .ok className) : ¬ OpensOptional className := by
  unfold Naming.typeClassName at named
  split at named
  · cases named
  · rename_i rotated found
    cases named
    have text : (String.ofList rotated).toList = rotated ++ List.replicate 0 '_' := by simp
    exact not_opensOptional_of_nameChars (Naming.rotated_spec (.of_isName isName) found text).2.1

/-! ### The order of variables -/

namespace Variable

variable {x : Variable} {vs : List Variable}

theorem optional_iff : x.optional ↔ OpensOptional x.signature := List.isPrefixOf_iff_prefix

/-- From the first variable that is not required on, none is. -/
theorem optional_of_mem_dropWhile (sorted : vs.Pairwise fun x y => (!y.lt x) = true) :
    ∀ v ∈ vs.dropWhile (!·.optional), v.optional = true := by
  intro v mem
  have first := List.head?_dropWhile_not (fun v : Variable => !v.optional) vs
  have later := sorted.sublist (List.dropWhile_sublist (!·.optional))
  cases found : vs.dropWhile (!·.optional) with
  | nil =>
    rw [found] at mem
    exact absurd mem List.not_mem_nil
  | cons x rest =>
    rw [found] at mem first later
    have isOptional : x.optional = true := by simpa using first
    rcases List.mem_cons.1 mem with rfl | mem
    · exact isOptional
    · exact (not_lt_iff.1 (List.rel_of_pairwise_cons later mem)).1 isOptional

/-- In the order they are written, all required variables stand before the others, and each part is in order of the
    names. Only the others have a default. -/
theorem exists_sort_eq_append (vs : List Variable) :
    ∃ required others, sort vs = required ++ others
      ∧ (∀ v ∈ required, ¬ v.optional ∧ v.declared = v.name ++ ": " ++ v.signature)
      ∧ (∀ v ∈ others, v.optional ∧ v.declared = v.name ++ ": " ++ v.signature ++ " = None")
      ∧ required.Pairwise (·.name ≤ ·.name) ∧ others.Pairwise (·.name ≤ ·.name) := by
  have sorted := pairwise_sort vs
  refine ⟨(sort vs).takeWhile (!·.optional), (sort vs).dropWhile (!·.optional),
    List.takeWhile_append_dropWhile.symm, fun v mem => ?required, fun v mem => ?others, ?_, ?_⟩
  case required =>
    have isRequired := List.mem_takeWhile_imp mem
    simp only [Bool.not_eq_true'] at isRequired
    simp [declared, isRequired]
  case others =>
    have isOptional := optional_of_mem_dropWhile sorted v mem
    simp [declared, isOptional]
  · refine (sorted.sublist (List.takeWhile_sublist _)).imp_of_mem fun mem mem' before => ?_
    have isRequired := List.mem_takeWhile_imp mem
    have isRequired' := List.mem_takeWhile_imp mem'
    simp only [Bool.not_eq_true'] at isRequired isRequired'
    exact (not_lt_iff.1 before).2 (isRequired.trans isRequired'.symm)
  · refine (sorted.sublist (List.dropWhile_sublist _)).imp_of_mem fun mem mem' before => ?_
    have isOptional := optional_of_mem_dropWhile sorted _ mem
    have isOptional' := optional_of_mem_dropWhile sorted _ mem'
    exact (not_lt_iff.1 before).2 (isOptional.trans isOptional'.symm)

end Variable

/-! ### Types and their variables -/

/-- The values of a type may be left out, as far as the signature tells: the type is nullable, or it is a required
    scalar without a list around it, whose binding has a signature that begins like an optional one. -/
def Settings.Omits (settings : Settings) (type : TypeRef) : Prop :=
  ¬ type.isRequired ∨ type = .named type.core true ∧ settings.schema.isScalar type.core
    ∧ OpensOptional (settings.bindingOf type.core).signature

/-- A variable is for a name and a type: it may be left out exactly if the values of the type may. -/
structure Settings.Gives (settings : Settings) (graphqlName : String) (type : TypeRef) (x : Variable) : Prop where
  source : x.graphqlName = graphqlName
  optional_iff : x.optional ↔ settings.Omits type

/-- What a named type is typed as: a scalar by its binding, and another type by a name that begins like no optional
    signature. -/
inductive Settings.Types (settings : Settings) (name : String) (core : TypedInput) : Prop where
  | scalar (isScalar : settings.schema.isScalar name) (bound : core.signature = (settings.bindingOf name).signature)
  | other (notScalar : ¬ settings.schema.isScalar name) (closed : ¬ OpensOptional core.signature)

/-- What the layers of a type are put around gives its variables. -/
theorem Settings.Types.gives {core typed : TypedInput} {graphqlName : String} (types : settings.Types type.core core)
    (wraps : core.Wraps type name typed) : settings.Gives graphqlName type (typed.variable name graphqlName) where
  source := rfl
  optional_iff := by
    rw [Variable.optional_iff, TypedInput.variable, wraps.signature, opensOptional_rewrap_iff, Omits]
    cases types with
    | scalar isScalar bound => rw [bound, and_iff_right isScalar]
    | other notScalar closed => simp [notScalar, closed]

/-! ### What a run builds -/

/-- A property that all classes have which are made for a schema and the scalars bound in a run, whatever the variables
    of operations are. -/
structure Settings.Explains (settings : Settings) (P : ClassDefinition → Prop) : Prop where
  enum (c : EnumClass) : P (.enum c)
  leaf (c : ObjectClass) : P (.leaf c)
  input {t : TypeDefinition} {fields : List InputDefinition} {xs : List Variable}
    (type : settings.schema.find? t.name = some t) (body : t.body = .input fields)
    (gives : List.Forall₂ (fun f x => settings.Gives f.name f.type x) fields xs)
    (className : String) : P (.input ⟨className, t.name, xs⟩)

/-- No class name that a type got begins like an optional signature, and all classes have a property. -/
structure Progress.Explained (P : ClassDefinition → Prop) (p : Progress) : Prop where
  enums : ∀ name className, p.enumClasses.lookup name = some className → ¬ OpensOptional className
  inputs : ∀ name className, p.inputClasses.lookup name = some className → ¬ OpensOptional className
  classes : ∀ c ∈ p.registry.classes, P c

variable {P : ClassDefinition → Prop}

namespace Progress.Explained

theorem start : Progress.start.Explained P where
  enums _ _ absent := by cases absent
  inputs _ _ absent := by cases absent
  classes _ absent := absurd absent List.not_mem_nil

theorem imp {Q : ClassDefinition → Prop} (h : p.Explained P) (weaker : ∀ c, P c → Q c) : p.Explained Q :=
  ⟨h.enums, h.inputs, fun c hc => weaker c (h.classes c hc)⟩

theorem of_imports {imports : NameSet} (h : p.Explained P) : Progress.Explained P { p with imports := imports } :=
  ⟨h.enums, h.inputs, h.classes⟩

theorem add {c : ClassDefinition} {registry : Registry} (h : p.Explained P) (added : p.registry.add c = .ok registry)
    (new : P c) : Progress.Explained P { p with registry := registry } :=
  ⟨h.enums, h.inputs, Registry.all_of_add added h.classes new⟩

theorem replace {c : ClassDefinition} (h : p.Explained P) (new : P c) :
    Progress.Explained P { p with registry := p.registry.replace c } :=
  ⟨h.enums, h.inputs, Registry.all_of_replace h.classes new⟩

theorem noteEnum (h : p.Explained P) (closed : ¬ OpensOptional className) :
    Progress.Explained P { p with enumClasses := setKey name className p.enumClasses } where
  enums other otherClass got := by
    rw [lookup_setKey] at got
    split at got
    · cases got
      exact closed
    · exact h.enums other otherClass got
  inputs := h.inputs
  classes := h.classes

theorem noteInput (h : p.Explained P) (closed : ¬ OpensOptional className) :
    Progress.Explained P { p with inputClasses := setKey name className p.inputClasses } where
  enums := h.enums
  inputs other otherClass got := by
    rw [lookup_setKey] at got
    split at got
    · cases got
      exact closed
    · exact h.inputs other otherClass got
  classes := h.classes

end Progress.Explained

/-! ### Variables -/

theorem scalarBinding_explained (before : p.Explained P) :
    Leaves (Progress.Explained P) (fun binding => binding = settings.bindingOf name)
      (scalarBinding settings name) p := by
  constructor
  · intro binding q yields
    obtain ⟨binds, rfl⟩ := yields_scalarBinding_iff.1 yields
    exact ⟨before.of_imports, binds.eq_bindingOf⟩
  · intro e q fails
    rw [fails_scalarBinding fails]
    exact before

theorem enumClass_explained (explains : settings.Explains P) (isName : Token.isName name)
    {values : List EnumValueDefinition} (before : p.Explained P) :
    Leaves (Progress.Explained P) (fun className => ¬ OpensOptional className) (enumClass name values) p := by
  constructor
  · intro className q yields
    rcases yields_enumClass_iff.1 yields with ⟨known, rfl⟩ | ⟨-, named, registry, added, rfl⟩
    · exact ⟨before, before.enums _ _ known⟩
    · have closed := not_opensOptional_typeClassName isName named
      exact ⟨(before.add added (explains.enum _)).noteEnum closed, closed⟩
  · intro e q fails
    rw [fails_enumClass fails]
    exact before

theorem Schema.not_isScalar_of_body {t : TypeDefinition} (type : s.find? name = some t) (other : t.body ≠ .scalar) :
    ¬ s.isScalar name := fun scalar => other (body_of_isScalar scalar type)

theorem wrapInput_explained {core : TypedInput} (before : p.Explained P) :
    Leaves (Progress.Explained P) (core.Wraps type name) (wrapInput type name core) p := by
  apply (Leaves.converted before).bind
  exact fun _ _ _ kept written => .pure kept ⟨rfl, written, rfl⟩

mutual

/-- However the reading of a named type ends, what was built is explained. -/
theorem coreInput_explained (explains : settings.Explains P) (spelled : settings.schema.Spelled)
    (available : List String) (name : String) {p : Progress} (before : p.Explained P) :
    Leaves (Progress.Explained P) (settings.Types name) (coreInput settings available name) p := by
  unfold coreInput
  split
  · rename_i type
    refine (scalarBinding_explained before).bind fun binding _ _ kept bound => .pure kept (.scalar ?_ (by rw [bound]))
    exact Schema.isScalar_of_find? type rfl
  · rename_i type
    have isName := spelled.types _ (Schema.mem_types_of_find? type)
    rw [Schema.name_of_find? type] at isName
    refine (enumClass_explained explains isName before).bind fun _ _ _ kept closed => .pure kept (.other ?_ closed)
    exact Schema.not_isScalar_of_body type (by rintro ⟨⟩)
  · rename_i type
    refine (inputClassOf_explained explains spelled available name _ type rfl before).bind fun _ _ _ kept closed =>
      .pure kept (.other ?_ closed)
    exact Schema.not_isScalar_of_body type (by rintro ⟨⟩)
  · exact .throw before
  · exact .throw before
termination_by (available.length, 2, 0)

theorem inputClassOf_explained (explains : settings.Explains P) (spelled : settings.schema.Spelled)
    (available : List String) (name : String) (fields : List InputDefinition) {t : TypeDefinition}
    (type : settings.schema.find? name = some t) (body : t.body = .input fields) {p : Progress}
    (before : p.Explained P) :
    Leaves (Progress.Explained P) (fun className => ¬ OpensOptional className)
      (inputClassOf settings available name fields) p := by
  have sameName := Schema.name_of_find? type
  have isName := spelled.types _ (Schema.mem_types_of_find? type)
  rw [sameName] at isName
  unfold inputClassOf
  apply Leaves.get_bind
  split
  · rename_i className known
    exact .pure before (before.inputs _ _ known)
  · apply (Leaves.named before).bind
    intro className q _ kept named
    have closed := not_opensOptional_typeClassName isName named
    apply (Leaves.modify (kept.noteInput closed)).bind
    intro _ q _ kept _
    split
    · rename_i listed
      have smaller := length_erase_lt listed
      apply (inputFields_explained explains spelled (available.erase name) fields kept).bind
      intro xs q _ kept gives
      subst sameName
      have registers : Leaves (Progress.Explained P) (fun _ => True) (register (.input ⟨className, t.name, xs⟩)) q :=
        .register kept fun _ added => kept.add added (explains.input type body gives className)
      exact registers.bind fun _ _ _ kept _ => .pure kept closed
    · exact .pure kept closed
termination_by (available.length, 1, 0)
decreasing_by exact Prod.Lex.left _ _ smaller

theorem inputFields_explained (explains : settings.Explains P) (spelled : settings.schema.Spelled)
    (available : List String) (fields : List InputDefinition) {p : Progress} (before : p.Explained P) :
    Leaves (Progress.Explained P) (List.Forall₂ (fun f x => settings.Gives f.name f.type x) fields)
      (inputFields settings available fields) p := by
  match fields with
  | [] =>
    rw [inputFields]
    exact .pure before .nil
  | field :: rest =>
    unfold inputFields
    apply (Leaves.named before).bind
    intro name q _ kept _
    apply (coreInput_explained explains spelled available field.type.core kept).bind
    intro core q _ kept types
    apply (wrapInput_explained kept).bind
    intro typed q _ kept wraps
    apply (inputFields_explained explains spelled available rest kept).bind
    exact fun others q _ kept gives => .pure kept (.cons (types.gives wraps) gives)
termination_by (available.length, 3, fields.length)

end

/-- A variable may be left out exactly if the values of its type may. -/
theorem variableDefinition_explained (explains : settings.Explains P) (spelled : settings.schema.Spelled)
    {graphqlName : String} (before : p.Explained P) :
    Leaves (Progress.Explained P) (settings.Gives graphqlName type)
      (variableDefinition settings graphqlName type) p := by
  unfold variableDefinition
  apply (Leaves.named before).bind
  intro name q _ kept _
  have typed : Leaves (Progress.Explained P)
      (fun typed => ∃ core : TypedInput, settings.Types type.core core ∧ core.Wraps type name typed)
      (resolveInput settings type name) q := by
    apply (coreInput_explained explains spelled _ _ kept).bind
    exact fun core _ _ kept types => (wrapInput_explained kept).weaken fun typed wraps => ⟨core, types, wraps⟩
  apply typed.bind
  rintro typed q _ kept ⟨core, types, wraps⟩
  exact .pure kept (types.gives wraps)

theorem declaredVariables_explained (explains : settings.Explains P) (spelled : settings.schema.Spelled)
    {vs : List VariableDeclaration} (before : p.Explained P) :
    Leaves (Progress.Explained P) (List.Forall₂ (fun v x => settings.Gives v.name v.type x) vs)
      (vs.mapM (declaredVariable settings)) p := by
  induction vs generalizing p with
  | nil => exact .pure before .nil
  | cons v rest ih =>
    have first : Leaves (Progress.Explained P) (settings.Gives v.name v.type) (declaredVariable settings v) p := by
      unfold declaredVariable
      split
      · exact variableDefinition_explained explains spelled before
      · exact .throw before
    rw [List.mapM_cons]
    apply first.bind
    intro x q _ kept gives
    exact (ih kept).bind fun xs _ _ kept others => .pure kept (.cons gives others)

/-! ### Result classes -/

theorem registerLeaf_explained (explains : settings.Explains P) {name : String} {owner : TypeDefinition}
    {existing : Option ClassDefinition} {methods : List Method} {dependencies : List String}
    (before : p.Explained P) :
    Leaves (Progress.Explained P) (fun _ => True)
      (registerLeaf settings name owner existing methods dependencies) p := by
  unfold registerLeaf
  split
  · apply Leaves.get_bind
    split
    · refine (Leaves.set (before.replace (explains.leaf _))).bind fun _ _ _ kept _ => ?_
      split
      · exact .throw kept
      · exact .pure kept trivial
    · exact .throw before
  · apply (Leaves.invariant before).bind
    exact fun _ _ _ kept _ => .register kept fun _ added => kept.add added (explains.leaf _)

mutual

/-- However the reading of a selection set ends, what was built is explained: it adds classes for values and enums. -/
theorem accessors_explained (explains : settings.Explains P) (spelled : settings.schema.Spelled) (className : String)
    (owner : TypeDefinition) (selections : List Resolved) {p : Progress} (before : p.Explained P) :
    Leaves (Progress.Explained P) (fun _ => True) (accessors settings className owner selections) p := by
  unfold accessors
  split
  · exact .throw before
  · rename_i os collected
    have smaller : ∀ o ∈ os, o.weightBelow < Resolved.weightAll selections := fun o ho =>
      weightBelow_lt collected ho
    exact (addOccurrences_explained explains spelled className Accessors.empty os _ smaller before).bind
      fun _ _ _ kept _ => .pure kept trivial
termination_by (Resolved.weightAll selections, 2, 0)

theorem addOccurrences_explained (explains : settings.Explains P) (spelled : settings.schema.Spelled)
    (className : String) (found : Accessors) (os : List Occurrence) (bound : Nat)
    (smaller : ∀ o ∈ os, o.weightBelow < bound) {p : Progress} (before : p.Explained P) :
    Leaves (Progress.Explained P) (fun _ => True) (addOccurrences settings className found os bound smaller) p := by
  match os with
  | [] =>
    rw [addOccurrences]
    exact .pure before trivial
  | o :: rest =>
    have shorter : o.weightBelow < bound := smaller o List.mem_cons_self
    unfold addOccurrences
    apply (addOccurrence_explained explains spelled className found o before).bind
    exact fun added _ _ kept _ => addOccurrences_explained explains spelled className added rest bound _ kept
termination_by (bound, 1, os.length)
decreasing_by
  · exact Prod.Lex.left _ _ shorter
  · simp [Prod.lex_def]

theorem addOccurrence_explained (explains : settings.Explains P) (spelled : settings.schema.Spelled)
    (className : String) (found : Accessors) (o : Occurrence) {p : Progress} (before : p.Explained P) :
    Leaves (Progress.Explained P) (fun _ => True) (addOccurrence settings className found o) p := by
  unfold addOccurrence
  apply (Leaves.named before).bind
  intro name q _ kept _
  apply (leaves_claim kept).bind
  intro claimed q _ kept _
  split
  · exact (leaves_add kept).weaken fun _ _ => trivial
  · apply (coreOutput_explained explains spelled (className ++ "_" ++ o.suffix) o kept).bind
    intro core q _ kept _
    have wrapped : Leaves (Progress.Explained P) (fun _ => True) (o.wrapOutput core) q :=
      (Leaves.converted kept).bind fun _ _ _ kept _ => .pure kept trivial
    apply wrapped.bind
    exact fun _ _ _ kept _ => (leaves_add kept).weaken fun _ _ => trivial
termination_by (o.weightBelow, 4, 0)

theorem coreOutput_explained (explains : settings.Explains P) (spelled : settings.schema.Spelled) (wanted : String)
    (o : Occurrence) {p : Progress} (before : p.Explained P) :
    Leaves (Progress.Explained P) (fun _ => True) (coreOutput settings wanted o) p := by
  unfold coreOutput
  split
  · exact .throw before
  · rename_i t type
    split
    · exact (scalarBinding_explained before).bind fun _ _ _ kept _ => .pure kept trivial
    · have isName := spelled.types _ (Schema.mem_types_of_find? type)
      exact (enumClass_explained explains isName before).bind fun _ _ _ kept _ => .pure kept trivial
    · exact .throw before
    · split
      · exact .throw before
      · rename_i below selected
        have smaller : Resolved.weightAll below = o.weightBelow := by
          simp [Occurrence.weightBelow, selected]
        apply Leaves.get_bind
        apply (accessors_explained explains spelled _ t below before).bind
        intro out q _ kept _
        exact (registerLeaf_explained explains kept).bind fun _ _ _ kept _ => .pure kept trivial
termination_by (o.weightBelow, 3, 0)
decreasing_by
  rw [smaller]
  simp [Prod.lex_def]

end

/-- The class of an operation has a property. -/
def Settings.ExplainsRoot (settings : Settings) (P : ClassDefinition → Prop) (o : Operation) : Prop :=
  ∀ c details, Naming.operationClassName o.name = .ok c.name →
    List.Forall₂ (fun v x => settings.Gives v.name v.type x) o.declarations details.parameters → P (.root c details)

theorem generateOperation_explained (explains : settings.Explains P) (spelled : settings.schema.Spelled)
    {table : List Fragment} {o : Operation} (root : settings.ExplainsRoot P o) (before : p.Explained P) :
    Leaves (Progress.Explained P) (fun _ => True) (generateOperation settings table o) p := by
  unfold generateOperation
  apply (Leaves.named before).bind
  intro className q _ kept named
  have owner : Leaves (Progress.Explained P) (fun _ => True) (rootTypeOf settings.schema o.kind) q := by
    unfold rootTypeOf
    split
    · exact .pure kept trivial
    · exact .throw kept
  apply owner.bind
  intro owner q _ kept _
  apply (declaredVariables_explained explains spelled kept).bind
  intro parameters q _ kept gives
  apply (accessors_explained explains spelled className owner _ kept).bind
  intro out q _ kept _
  apply (Leaves.invariant kept).bind
  intro types q _ kept _
  have registers : Leaves (Progress.Explained P) (fun _ => True) (register _) q :=
    .register kept fun _ added => kept.add added (root ⟨className, owner.name, types.toList, out.1, out.2⟩
      ⟨className, o.kind.text, printDocument o (usedFragments table o.selections), parameters⟩ named gives)
  exact registers.bind fun _ _ _ kept _ => .pure kept trivial

/-! ### Calls -/

/-- Settings with other scalars bound. -/
def Settings.withScalars (settings : Settings) (scalars : ScalarTable) : Settings :=
  { settings with scalars := scalars }

/-- The variables of a class are for the fields of its type, or for those that an operation of its name declares, and
    may be left out as their types say, when one of some calls was made. -/
def ClassDefinition.OmitsAsTyped (settings : Settings) (calls : List (Call settings.schema)) : ClassDefinition → Prop
  | .input c => ∃ call ∈ calls, ∃ t fields, settings.schema.find? c.graphqlName = some t ∧ t.body = .input fields
    ∧ List.Forall₂ (fun f x => (settings.withScalars call.scalars).Gives f.name f.type x) fields c.arguments
  | .root c details => ∃ call ∈ calls, ∃ d, call.inquiry = .document d ∧ ∃ o ∈ d.operations,
    Naming.operationClassName o.name = .ok c.name
    ∧ List.Forall₂ (fun v x => (settings.withScalars call.scalars).Gives v.name v.type x) o.declarations
      details.parameters
  | _ => True

theorem ClassDefinition.OmitsAsTyped.snoc {calls : List (Call settings.schema)} {c : ClassDefinition}
    (h : c.OmitsAsTyped settings calls) (last : Call settings.schema) : c.OmitsAsTyped settings (calls ++ [last]) := by
  cases c with
  | enum | leaf => trivial
  | input c =>
    obtain ⟨call, mem, rest⟩ := h
    exact ⟨call, List.mem_append_left _ mem, rest⟩
  | root c details =>
    obtain ⟨call, mem, rest⟩ := h
    exact ⟨call, List.mem_append_left _ mem, rest⟩

/-- What a call builds is explained by it. -/
theorem ClassDefinition.omitsAsTyped_explains (calls : List (Call settings.schema)) (last : Call settings.schema) :
    (settings.withScalars last.scalars).Explains (·.OmitsAsTyped settings (calls ++ [last])) where
  enum _ := trivial
  leaf _ := trivial
  input type body gives _ := ⟨last, List.mem_append_right _ List.mem_cons_self, _, _, type, body, gives⟩

/-- However an inquiry ends, what was built is explained. -/
theorem Inquiry.explained (inquiry : Inquiry s) (schema : settings.schema = s) (explains : settings.Explains P)
    (spelled : settings.schema.Spelled)
    (roots : ∀ d, inquiry = .document d → ∀ o ∈ d.operations, settings.ExplainsRoot P o) (before : p.Explained P) :
    Leaves (Progress.Explained P) (fun _ => True) (inquiry.answer settings) p := by
  subst schema
  cases inquiry with
  | document d =>
    have generated : Leaves (Progress.Explained P) (fun _ => True) (generateDocument settings d) p :=
      Leaves.mapM (fun o mem _ kept => generateOperation_explained explains spelled (roots d rfl o mem) kept) p before
    exact generated.bind fun _ _ _ kept _ => .pure kept trivial
  | typedVariable name type =>
    exact (variableDefinition_explained explains spelled before).bind fun _ _ _ kept _ => .pure kept trivial
  | inputType type fields known isInput =>
    exact (inputClassOf_explained explains spelled _ _ fields known isInput before).bind fun _ _ _ kept _ =>
      .pure kept trivial

namespace Generator

/-- Calls change no settings but the scalars. -/
theorem after_settings (calls : List (Call settings.schema)) :
    ∃ scalars, ((start settings).after calls).settings = settings.withScalars scalars := by
  induction calls using List.reverseRecOn with
  | nil => exact ⟨settings.scalars, rfl⟩
  | append_singleton calls last ih =>
    obtain ⟨scalars, same⟩ := ih
    refine ⟨last.scalars, ?_⟩
    rw [after_snoc, call, run, same]
    rfl

/-- After calls, whatever came of them, everything that was built is explained by them. -/
theorem after_explained (spelled : settings.schema.Spelled) (calls : List (Call settings.schema)) :
    ((start settings).after calls).progress.Explained (·.OmitsAsTyped settings calls) := by
  induction calls using List.reverseRecOn with
  | nil => exact .start
  | append_singleton calls last ih =>
    obtain ⟨scalars, same⟩ := after_settings calls
    have before := ih.imp fun c h => h.snoc last
    have roots : ∀ d, last.inquiry = .document d → ∀ o ∈ d.operations,
        (settings.withScalars last.scalars).ExplainsRoot (·.OmitsAsTyped settings (calls ++ [last])) o :=
      fun d asked o mem c details named gives =>
        ⟨last, List.mem_append_right _ List.mem_cons_self, d, asked, o, mem, named, gives⟩
    have left : Leaves (Progress.Explained (·.OmitsAsTyped settings (calls ++ [last]))) (fun _ => True)
        (last.inquiry.answer (settings.withScalars last.scalars)) ((start settings).after calls).progress :=
      last.inquiry.explained rfl (ClassDefinition.omitsAsTyped_explains calls last) spelled roots before
    have answered : ((start settings).after (calls ++ [last])).progress
        = ((last.inquiry.answer (settings.withScalars last.scalars)).run.run
          ((start settings).after calls).progress).2 := by
      rw [after_snoc, call, run, same]
      rfl
    rw [answered]
    rcases runs : (last.inquiry.answer (settings.withScalars last.scalars)).run.run
      ((start settings).after calls).progress with ⟨e | u, q⟩
    · exact left.fails e q runs
    · exact (left.yields u q runs).1

end Generator

/-- **Optional variables**: after any calls of a new generator, whatever came of them and whatever scalars were bound
    at each, a variable of a type may be left out exactly if the type is nullable, or is a required scalar, not in a
    list, that is bound to a signature which begins like an optional one. So may the fields of all input classes and
    the parameters of all operations. Those that may not be left out are written first, without a default, and each
    of the others has one. -/
theorem Generator.optional_iff_omits (settings : Settings) (spelled : settings.schema.Spelled)
    (calls : List (Call settings.schema)) :
    (∀ scalars graphqlName type x q,
      Yields (variableDefinition (settings.withScalars scalars) graphqlName type)
        ((start settings).after calls).progress x q → (settings.withScalars scalars).Gives graphqlName type x)
    ∧ (∀ c ∈ ((start settings).after calls).progress.registry.classes, c.OmitsAsTyped settings calls)
    ∧ ∀ vs, ∃ required others, Variable.sort vs = required ++ others
      ∧ (∀ v ∈ required, ¬ v.optional ∧ v.declared = v.name ++ ": " ++ v.signature)
      ∧ (∀ v ∈ others, v.optional ∧ v.declared = v.name ++ ": " ++ v.signature ++ " = None")
      ∧ required.Pairwise (·.name ≤ ·.name) ∧ others.Pairwise (·.name ≤ ·.name) := by
  have built := after_explained spelled calls
  refine ⟨fun scalars graphqlName type x q yields => ?_, built.classes, Variable.exists_sort_eq_append⟩
  have explains := ClassDefinition.omitsAsTyped_explains calls ⟨scalars, .typedVariable graphqlName type⟩
  have before := built.imp fun c h => h.snoc ⟨scalars, .typedVariable graphqlName type⟩
  exact ((variableDefinition_explained explains spelled before).yields x q yields).2

/-! A scalar that is bound to an optional signature: the variable for a required value of it gets a default, and comes
after the other one. -/

namespace OptionalScalar

def schema : Schema := ⟨[⟨"Query", [], .object []
    [⟨"n", [⟨"c", .named "Custom" true, none, []⟩, ⟨"z", .named "Int" true, none, []⟩], .named "Int" true, []⟩]⟩,
  ⟨"Custom", [], .scalar⟩, ⟨"Int", [], .scalar⟩, ⟨"String", [], .scalar⟩], [], some "Query", none, none⟩

def setup : Settings :=
  ⟨schema, ⟨none, [("Custom", ⟨"Optional[str]", "$raw_value", "$value", ∅⟩)]⟩, false⟩

def operation : Operation := ⟨none, .query, some "Q",
  [⟨none, "c", .named "Custom" true, none, []⟩, ⟨none, "z", .named "Int" true, none, []⟩], [],
  [.leaf ⟨none, "n", [⟨"c", .variable "c"⟩, ⟨"z", .variable "z"⟩], []⟩]⟩

def document : Document := ⟨[.operation operation]⟩

def asked : Call setup.schema := ⟨setup.scalars, .document document⟩

theorem spelled : schema.Spelled := by
  constructor
  · intro t ht
    fin_cases ht <;> cbv
  · intro t ht fields body
    fin_cases ht <;> cases body
  · intro t ht values body
    fin_cases ht <;> cases body

def root : ObjectClass := ⟨"Q", "Query", ["Query"],
  [.field (.fresh "n" [⟨"n", "int", "return cast(int, self.raw_result[\"n\"])", "Query", []⟩])], []⟩

/-- The variable for the required value of the scalar. -/
def custom : Variable := ⟨"c", "c", "Optional[str]", "c", none⟩

def number : Variable := ⟨"z", "z", "int", "z", none⟩

def details : OperationDetails :=
  ⟨"Q", "query", printDocument operation (usedFragments document.fragmentTable operation.selections), [custom, number]⟩

theorem classes : ((Generator.start setup).after [asked]).progress.registry.classes = [.root root details] := by
  have one : document.operations = [operation] := rfl
  simp only [Generator.after, asked, List.foldl_cons, List.foldl_nil, Generator.call, Generator.run, Inquiry.answer,
    generateDocument, one, List.mapM_cons, List.mapM_nil, generateOperation]
  dsimp only [details]
  -- the classes are the same whatever text is sent
  generalize printDocument operation _ = sent
  cbv

end OptionalScalar

open OptionalScalar in
/-- The variable for a required scalar that is bound to an optional signature has a default, and comes last. -/
theorem Generator.optional_iff_omits_scalar :
    schema.Spelled ∧ (setup.withScalars asked.scalars).Omits (.named "Custom" true)
      ∧ .root root details ∈ ((start setup).after [asked]).progress.registry.classes
      ∧ (ClassDefinition.root root details).OmitsAsTyped setup [asked]
      ∧ custom.declared = "c: Optional[str] = None" ∧ number.declared = "z: int" ∧ number.lt custom := by
  have listed : .root root details ∈ ((start setup).after [asked]).progress.registry.classes := by
    rw [classes]
    exact List.mem_cons_self
  refine ⟨spelled, Or.inr ⟨rfl, rfl, ?_⟩, listed, (optional_iff_omits setup spelled [asked]).2.1 _ listed,
    by decide +kernel, by decide +kernel, by decide +kernel⟩
  unfold OpensOptional
  decide

end OperationClasses
