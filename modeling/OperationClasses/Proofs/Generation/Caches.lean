/-
Module: OperationClasses.Proofs.Generation.Caches
Purpose: The class names that a generator has noted for enum and input object types name classes for these types,
  except where a failed call has left the name of an input object type without a class.
Main exports: Progress.Unbacked, Aftermath, Call, Generator.LeftBehind, Generator.caches_consistent
-/
import OperationClasses.Proofs.Generation.DependencyGraph
import OperationClasses.Proofs.Generation.Representation

namespace OperationClasses

open Generation

variable {α β : Type} {settings : Settings} {s : Schema} {p q r : Progress} {pending : List String}
  {name className : String}

/-! ### What a step leaves behind -/

/-- A type has a class name, and no class. -/
structure Progress.Unbacked (p : Progress) (name : String) : Prop where
  noted : ∃ className, p.inputClasses.lookup name = some className
  absent : ∀ c, .input c ∈ p.registry.classes → c.graphqlName ≠ name

/-- Types without a class stay without one, as they keep their class names and no class is added for them. -/
theorem Progress.Unbacked.mono (unbacked : p.Unbacked name) (keeps : p.Keeps q)
    (inputs : ∀ c, .input c ∈ q.registry.classes → .input c ∈ p.registry.classes ∨ c.graphqlName ≠ name) :
    q.Unbacked name := by
  obtain ⟨className, noted⟩ := unbacked.noted
  refine ⟨⟨className, keeps.inputs _ _ noted⟩, fun c hc => ?_⟩
  exact (inputs c hc).elim (unbacked.absent c) id

/-- A type without a class name had none before. -/
theorem Progress.Keeps.unknown (keeps : p.Keeps q) (unknown : q.inputClasses.lookup name = none) :
    p.inputClasses.lookup name = none := by
  cases known : p.inputClasses.lookup name with
  | none => rfl
  | some className =>
    rw [keeps.inputs _ _ known] at unknown
    cases unknown

/-- What a step leaves behind however it ends: what was there before, and linked classes, but for input object types
    that it began to read and whose class it did not come to register. -/
structure Aftermath (s : Schema) (pending : List String) (p q : Progress) : Prop where
  keeps : p.Keeps q
  unbacked : ∀ name, p.Unbacked name → q.Unbacked name
  linked : ∃ opened, Linked s (opened ++ pending) q
    ∧ ∀ name ∈ opened, p.inputClasses.lookup name = none ∧ q.Unbacked name

namespace Aftermath

/-- A step that registers no input class and leaves none open. -/
theorem of_linked (keeps : p.Keeps q) (linked : Linked s pending q)
    (inputs : ∀ c, .input c ∈ q.registry.classes → .input c ∈ p.registry.classes) : Aftermath s pending p q where
  keeps := keeps
  unbacked _ unbacked := unbacked.mono keeps fun c hc => Or.inl (inputs c hc)
  linked := ⟨[], linked, fun _ absent => absurd absent List.not_mem_nil⟩

theorem refl (linked : Linked s pending p) : Aftermath s pending p p := of_linked .refl linked fun _ h => h

theorem trans (first : Aftermath s pending p q) (rest : Aftermath s pending q r) : Aftermath s pending p r where
  keeps := first.keeps.trans rest.keeps
  unbacked name unbacked := rest.unbacked name (first.unbacked name unbacked)
  linked := by
    obtain ⟨opened, linked, open_⟩ := rest.linked
    exact ⟨opened, linked, fun name hname => (open_ name hname).imp_left first.keeps.unknown⟩

end Aftermath

/-- After a first step that succeeds, a second one leaves behind what the whole does. -/
theorem Leaves.afterwards {Q : α → Prop} {R : β → Prop} {m : Generation α} {k : α → Generation β}
    (first : Leaves (Aftermath s pending p) Q m p)
    (second : ∀ a q, Yields m p a q → Q a → Leaves (Aftermath s pending q) R (k a) q) :
    Leaves (Aftermath s pending p) R (m >>= k) p :=
  first.bind fun a q yields kept value => (second a q yields value).imp fun _ => kept.trans

/-! ### Scalars, enums and variables -/

theorem fails_named {x : Except Naming.NamingFault α} {e : Failure} (h : Fails (named x) p e q) : q = p := by
  cases x with
  | ok a => exact absurd h not_fails_pure
  | error fault => exact (fails_throw_iff.1 h).2

/-- A scalar without a binding changes nothing. -/
theorem fails_scalarBinding {e : Failure} (h : Fails (scalarBinding settings name) p e q) : q = p := by
  have notes : ∀ {r : Progress} (binding : Binding), ¬ Fails (do
      modify fun progress => { progress with imports := progress.imports ∪ binding.imports }
      return binding : Generation Binding) r e q := by
    intro r binding fails
    rcases fails_bind_iff.1 fails with fails | ⟨_, _, _, fails⟩
    · exact not_fails_modify fails
    · exact not_fails_pure fails
  unfold scalarBinding at h
  split at h
  · exact absurd h (notes _)
  · split at h
    · exact ((fails_bind_iff.1 h).resolve_right (by rintro ⟨_, _, ⟨⟩, _⟩) |> fails_throw_iff.1).2
    · exact absurd h (notes _)

theorem scalarBinding_aftermath (linked : Linked s pending p) :
    Leaves (Aftermath s pending p) (fun _ => True) (scalarBinding settings name) p := by
  constructor
  · intro binding q yields
    have adds : Adds s pending [] p q := scalarBinding_adds linked yields
    obtain ⟨-, rfl⟩ := yields_scalarBinding_iff.1 yields
    exact ⟨.of_linked adds.keeps adds.linked fun _ h => h, trivial⟩
  · intro e q fails
    rw [fails_scalarBinding fails]
    exact .refl linked

/-- An enum whose class cannot be registered changes nothing. -/
theorem fails_enumClass {values : List EnumValueDefinition} {e : Failure}
    (h : Fails (enumClass name values) p e q) : q = p := by
  unfold enumClass at h
  obtain ⟨_, _, reads, goes⟩ := (fails_bind_iff.1 h).resolve_left not_fails_get
  obtain ⟨rfl, rfl⟩ := yields_get_iff.1 reads
  split at goes
  · exact absurd goes not_fails_pure
  · rcases fails_bind_iff.1 goes with fails | ⟨className, _, yields, registers⟩
    · exact fails_named fails
    · obtain ⟨-, rfl⟩ := yields_named_iff.1 yields
      rcases fails_bind_iff.1 registers with fails | ⟨_, _, -, notes⟩
      · exact (fails_register_iff.1 fails).2.2
      · obtain ⟨_, _, -, ends⟩ := (fails_bind_iff.1 notes).resolve_left not_fails_modify
        exact absurd ends not_fails_pure

theorem enumClass_aftermath {values : List EnumValueDefinition} (linked : Linked s pending p) :
    Leaves (Aftermath s pending p) (fun _ => True) (enumClass name values) p := by
  constructor
  · intro className q yields
    obtain ⟨adds, -⟩ := enumClass_adds linked yields
    refine ⟨.of_linked adds.keeps adds.linked fun c hc => ?_, trivial⟩
    rcases yields_enumClass_iff.1 yields with ⟨-, rfl⟩ | ⟨-, -, registry, added, rfl⟩
    · exact hc
    · exact (Registry.mem_classes_of_add added hc).resolve_right (by rintro ⟨⟩)
  · intro e q fails
    rw [fails_enumClass fails]
    exact .refl linked

/-- A type that has just got its class name has no class. -/
theorem Linked.unbacked (linked : Linked s pending p) (unknown : p.inputClasses.lookup name = none) :
    Progress.Unbacked { p with inputClasses := setKey name className p.inputClasses } name := by
  refine ⟨⟨className, by simp [lookup_setKey]⟩, ?_⟩
  rintro c listed rfl
  have known := (linked.classes _ listed).1
  rw [unknown] at known
  cases known

/-- What is left behind since a type got its class name is left behind since before that. -/
theorem Aftermath.of_noted (linked : Linked s pending p) (unknown : p.inputClasses.lookup name = none)
    (named : Naming.typeClassName name = .ok className)
    (h : Aftermath s (name :: pending) { p with inputClasses := setKey name className p.inputClasses } q) :
    Aftermath s pending p q := by
  obtain ⟨keeps, -, -⟩ := linked.note unknown named
  refine ⟨keeps.trans h.keeps, fun other unbacked => ?_, ?_⟩
  · exact h.unbacked other (unbacked.mono keeps fun c listed => Or.inl listed)
  · obtain ⟨opened, linked', open_⟩ := h.linked
    refine ⟨opened ++ [name], by rwa [List.append_assoc], fun other hother => ?_⟩
    rcases List.mem_append.1 hother with hother | hother
    · exact (open_ other hother).imp_left keeps.unknown
    · obtain rfl := List.mem_singleton.1 hother
      exact ⟨unknown, h.unbacked _ (linked.unbacked unknown)⟩

/-- Registering the class of a type closes it. -/
theorem Aftermath.close {fields : List InputDefinition} {t : TypeDefinition} {xs : List Variable}
    {registry : Registry} (h : Aftermath s pending p q) (linked : Linked s (name :: pending) q)
    (unknown : p.inputClasses.lookup name = none) (got : q.inputClasses.lookup name = some className)
    (type : s.find? name = some t) (body : t.body = .input fields) (links : FieldLinks s q fields xs)
    (added : q.registry.add (.input ⟨className, name, xs⟩) = .ok registry) :
    Aftermath s pending p { q with registry := registry } := by
  have keeps : q.Keeps { q with registry := registry } := .of_registry (.of_add added)
  refine ⟨h.keeps.trans keeps, fun other unbacked => ?_, [], linked.close got type body links added,
    fun _ absent => absurd absent List.not_mem_nil⟩
  refine (h.unbacked other unbacked).mono keeps fun c listed => ?_
  refine (Registry.mem_classes_of_add added listed).imp_right ?_
  rintro ⟨⟩ rfl
  obtain ⟨otherClass, known⟩ := unbacked.noted
  rw [unknown] at known
  cases known

mutual

/-- However the reading of a type of variables ends, no type is left open but those that it began to read. -/
theorem coreInput_aftermath (available : List String) (name : String) {pending : List String} {p : Progress}
    (linked : Linked settings.schema pending p) (noted : Noted settings.schema available p) :
    Leaves (Aftermath settings.schema pending p) (fun _ => True) (coreInput settings available name) p := by
  unfold coreInput
  split
  · exact (scalarBinding_aftermath linked).bind fun _ _ _ kept _ => .pure kept trivial
  · exact (enumClass_aftermath linked).bind fun _ _ _ kept _ => .pure kept trivial
  · rename_i type
    exact (inputClassOf_aftermath available name _ type rfl linked noted).bind fun _ _ _ kept _ =>
      .pure kept trivial
  · exact .throw (.refl linked)
  · exact .throw (.refl linked)
termination_by (available.length, 2, 0)

theorem inputClassOf_aftermath (available : List String) (name : String) (fields : List InputDefinition)
    {t : TypeDefinition} (type : settings.schema.find? name = some t) (body : t.body = .input fields)
    {pending : List String} {p : Progress} (linked : Linked settings.schema pending p)
    (noted : Noted settings.schema available p) :
    Leaves (Aftermath settings.schema pending p) (fun _ => True)
      (inputClassOf settings available name fields) p := by
  unfold inputClassOf
  apply Leaves.get_bind
  split
  · exact .pure (.refl linked) trivial
  · rename_i unknown
    apply (Leaves.named (.refl linked)).bind
    intro className q yields _ named
    obtain ⟨-, rfl⟩ := yields_named_iff.1 yields
    obtain ⟨keeps, open_, got⟩ := linked.note unknown named
    have since := Aftermath.of_noted linked unknown named (.refl open_)
    apply (Leaves.modify since).bind
    intro _ _ yields _ _
    obtain rfl := yields_modify_iff.1 yields
    split
    · rename_i listed
      have smaller := length_erase_lt listed
      have fields_left := inputFields_aftermath (available.erase name) fields open_ (noted.erase keeps got)
      apply (fields_left.imp fun _ => Aftermath.of_noted linked unknown named).bind
      intro xs q read kept _
      obtain ⟨inside, links⟩ := inputFields_adds _ fields open_ (noted.erase keeps got) read
      have got := inside.keeps.inputs _ _ got
      apply (Leaves.register kept fun _ => kept.close inside.linked unknown got type body links).bind
      exact fun _ _ _ kept _ => .pure kept trivial
    · exact .pure since trivial
termination_by (available.length, 1, 0)
decreasing_by exact Prod.Lex.left _ _ smaller

theorem inputFields_aftermath (available : List String) (fields : List InputDefinition) {pending : List String}
    {p : Progress} (linked : Linked settings.schema pending p) (noted : Noted settings.schema available p) :
    Leaves (Aftermath settings.schema pending p) (fun _ => True) (inputFields settings available fields) p := by
  match fields with
  | [] =>
    rw [inputFields]
    exact .pure (.refl linked) trivial
  | field :: rest =>
    unfold inputFields
    apply (Leaves.named (.refl linked)).bind
    intro name q yields _ _
    obtain ⟨-, rfl⟩ := yields_named_iff.1 yields
    apply (coreInput_aftermath available field.type.core linked noted).afterwards
    intro core r read _
    obtain ⟨adds, -⟩ := coreInput_adds available field.type.core linked noted read
    have wrapped : Leaves (Aftermath settings.schema pending r) (fun _ => True) (wrapInput field.type name core) r :=
      (Leaves.converted (.refl adds.linked)).bind fun _ _ _ kept _ => .pure kept trivial
    apply wrapped.bind
    intro typed r' yields kept _
    obtain ⟨-, rfl⟩ := yields_wrapInput_iff.1 yields
    exact (inputFields_aftermath available rest adds.linked (noted.mono adds.keeps)).bind fun _ _ _ kept _ =>
      .pure kept trivial
termination_by (available.length, 3, fields.length)

end

theorem variableDefinition_aftermath {type : TypeRef} (linked : Linked settings.schema pending p) :
    Leaves (Aftermath settings.schema pending p) (fun _ => True) (variableDefinition settings name type) p := by
  unfold variableDefinition
  apply (Leaves.named (.refl linked)).bind
  intro own q yields _ _
  obtain ⟨-, rfl⟩ := yields_named_iff.1 yields
  have typed : Leaves (Aftermath settings.schema pending q) (fun _ => True) (resolveInput settings type own) q := by
    apply (coreInput_aftermath _ _ linked fun _ isInput => Or.inl isInput).bind
    intro core r _ kept _
    exact (Leaves.converted kept).bind fun _ _ _ kept _ => .pure kept trivial
  exact typed.bind fun _ _ _ kept _ => .pure kept trivial

theorem declaredVariables_aftermath {vs : List VariableDeclaration} (linked : Linked settings.schema pending p) :
    Leaves (Aftermath settings.schema pending p) (fun _ => True) (vs.mapM (declaredVariable settings)) p := by
  induction vs generalizing p with
  | nil => exact .pure (.refl linked) trivial
  | cons v rest ih =>
    have first : Leaves (Aftermath settings.schema pending p) (fun _ => True) (declaredVariable settings v) p := by
      unfold declaredVariable
      split
      · exact variableDefinition_aftermath linked
      · exact .throw (.refl linked)
    rw [List.mapM_cons]
    apply first.afterwards
    intro x q read _
    obtain ⟨_, -, read⟩ := yields_declaredVariable_iff.1 read
    obtain ⟨adds, -⟩ := variableDefinition_adds linked read
    exact (ih adds.linked).bind fun _ _ _ kept _ => .pure kept trivial

/-! ### Result classes -/

/-- Registering a result class leaves classes linked, even if not all accessors fit. -/
theorem registerLeaf_aftermath {type : TypeDefinition} {existing : Option ClassDefinition}
    {methods : List Method} {dependencies : List String} (linked : Linked settings.schema pending p)
    (values : ∀ d ∈ dependencies, p.registry.ValueClass name d) :
    Leaves (Aftermath settings.schema pending p) (fun _ => True)
      (registerLeaf settings name type existing methods dependencies) p := by
  unfold registerLeaf
  split
  · apply Leaves.get_bind
    split
    · rename_i c found
      rcases merges : c.mergeMethods methods dependencies with ⟨merged, fault⟩
      obtain ⟨keeps, linked⟩ := linked.merge found merges values
      have after : Aftermath settings.schema pending p
          { p with registry := p.registry.replace (.leaf merged) } := by
        refine .of_linked keeps linked fun input listed => ?_
        obtain ⟨old, hold, same⟩ := List.mem_map.1 listed
        split at same
        · cases same
        · exact same ▸ hold
      refine (Leaves.set after).bind fun _ q _ kept _ => ?_
      split
      · exact .throw kept
      · exact .pure kept trivial
    · exact .throw (.refl linked)
  · apply (Leaves.invariant (.refl linked)).bind
    intro types q yields _ _
    obtain ⟨-, rfl⟩ := yields_invariant_iff.1 yields
    refine Leaves.register (.refl linked) fun registry added => ?_
    obtain ⟨keeps, linked⟩ := linked.addLeaf added values
    refine .of_linked keeps linked fun input listed => ?_
    exact (Registry.mem_classes_of_add added listed).resolve_right (by rintro ⟨⟩)

mutual

theorem accessors_aftermath (className : String) (owner : TypeDefinition) (selections : List Resolved)
    {p : Progress} (linked : Linked settings.schema pending p) :
    Leaves (Aftermath settings.schema pending p) (fun _ => True)
      (accessors settings className owner selections) p := by
  unfold accessors
  split
  · exact .throw (.refl linked)
  · rename_i os collected
    have smaller : ∀ o ∈ os, o.weightBelow < Resolved.weightAll selections := fun o ho =>
      weightBelow_lt collected ho
    have values : ∀ d ∈ Accessors.empty.dependencies, p.registry.ValueClass className d :=
      fun _ absent => absurd absent List.not_mem_nil
    exact (addOccurrences_aftermath className Accessors.empty os _ smaller linked values).bind
      fun _ _ _ kept _ => .pure kept trivial
termination_by (Resolved.weightAll selections, 2, 0)

theorem addOccurrences_aftermath (className : String) (found : Accessors) (os : List Occurrence)
    (bound : Nat) (smaller : ∀ o ∈ os, o.weightBelow < bound) {p : Progress}
    (linked : Linked settings.schema pending p)
    (values : ∀ d ∈ found.dependencies, p.registry.ValueClass className d) :
    Leaves (Aftermath settings.schema pending p) (fun _ => True)
      (addOccurrences settings className found os bound smaller) p := by
  match os with
  | [] =>
    rw [addOccurrences]
    exact .pure (.refl linked) trivial
  | o :: rest =>
    have shorter : o.weightBelow < bound := smaller o List.mem_cons_self
    unfold addOccurrences
    apply (addOccurrence_aftermath className found o linked).afterwards
    intro added q reads _
    -- what succeeds leaves classes linked, so that the others can be read
    obtain ⟨adds, values⟩ := (addOccurrence_builds className found o reads .nil).adds linked values
    exact addOccurrences_aftermath className added rest bound _ adds.linked values
termination_by (bound, 1, os.length)
decreasing_by
  · exact Prod.Lex.left _ _ shorter
  · simp [Prod.lex_def]

theorem addOccurrence_aftermath (className : String) (found : Accessors) (o : Occurrence) {p : Progress}
    (linked : Linked settings.schema pending p) :
    Leaves (Aftermath settings.schema pending p) (fun _ => True)
      (addOccurrence settings className found o) p := by
  unfold addOccurrence
  apply (Leaves.named (.refl linked)).bind
  intro name q yields _ _
  obtain ⟨-, rfl⟩ := yields_named_iff.1 yields
  apply (leaves_claim (.refl linked)).bind
  intro claimed q' yields _ _
  obtain ⟨-, rfl⟩ := yields_claim_iff.1 yields
  split
  · exact (leaves_add (.refl linked)).weaken fun _ _ => trivial
  · apply (coreOutput_aftermath (className ++ "_" ++ o.suffix) o linked).bind
    intro core r _ kept _
    have wrapped : Leaves (Aftermath settings.schema pending q') (fun _ => True) (o.wrapOutput core) r :=
      (Leaves.converted kept).bind fun _ _ _ kept _ => .pure kept trivial
    apply wrapped.bind
    exact fun _ _ _ kept _ => (leaves_add kept).weaken fun _ _ => trivial
termination_by (o.weightBelow, 4, 0)

theorem coreOutput_aftermath (wanted : String) (o : Occurrence) {p : Progress}
    (linked : Linked settings.schema pending p) :
    Leaves (Aftermath settings.schema pending p) (fun _ => True) (coreOutput settings wanted o) p := by
  unfold coreOutput
  split
  · exact .throw (.refl linked)
  · rename_i t type
    split
    · exact (scalarBinding_aftermath linked).bind fun _ _ _ kept _ => .pure kept trivial
    · exact (enumClass_aftermath linked).bind fun _ _ _ kept _ => .pure kept trivial
    · exact .throw (.refl linked)
    · split
      · exact .throw (.refl linked)
      · rename_i below selected
        have smaller : Resolved.weightAll below = o.weightBelow := by
          simp [Occurrence.weightBelow, selected]
        apply Leaves.get_bind
        apply (accessors_aftermath _ t below linked).afterwards
        intro out q reads _
        obtain ⟨os, all, _, builds, _, dependencies⟩ := accessors_builds _ t below reads
        obtain ⟨adds, values⟩ := builds.adds linked fun _ absent => absurd absent List.not_mem_nil
        rw [← dependencies] at values
        exact (registerLeaf_aftermath adds.linked values).bind fun _ _ _ kept _ => .pure kept trivial
termination_by (o.weightBelow, 3, 0)
decreasing_by
  rw [smaller]
  simp [Prod.lex_def]

end

theorem generateOperation_aftermath {table : List Fragment} {o : Operation}
    (linked : Linked settings.schema pending p) :
    Leaves (Aftermath settings.schema pending p) (fun _ => True) (generateOperation settings table o) p := by
  unfold generateOperation
  apply (Leaves.named (.refl linked)).bind
  intro className q yields _ _
  obtain ⟨-, rfl⟩ := yields_named_iff.1 yields
  have root : Leaves (Aftermath settings.schema pending q) (fun _ => True) (rootTypeOf settings.schema o.kind) q := by
    unfold rootTypeOf
    split
    · exact .pure (.refl linked) trivial
    · exact .throw (.refl linked)
  apply root.bind
  intro owner q' yields _ _
  obtain rfl : q' = q := by
    unfold rootTypeOf at yields
    split at yields
    · exact (yields_pure_iff.1 yields).2
    · exact absurd yields not_yields_throw
  apply (declaredVariables_aftermath linked).afterwards
  intro parameters between declared _
  obtain ⟨variables_, links⟩ := declaredVariables_adds linked declared
  apply (accessors_aftermath className owner _ variables_.linked).afterwards
  intro out last reads _
  obtain ⟨os, all, _, builds, _, dependencies⟩ := accessors_builds _ owner _ reads
  obtain ⟨adds, values⟩ := builds.adds variables_.linked fun _ absent => absurd absent List.not_mem_nil
  apply (Leaves.invariant (.refl adds.linked)).bind
  intro types last' yields _ _
  obtain ⟨-, rfl⟩ := yields_invariant_iff.1 yields
  refine (Leaves.register (.refl adds.linked) fun registry added => ?_).bind fun _ _ _ kept _ => .pure kept trivial
  have kept := Registry.Keeps.of_add added
  refine .of_linked (.of_registry kept) (adds.linked.of_classes kept fun x hx => ?_) fun c hc => ?_
  · refine (Registry.mem_classes_of_add added hx).imp_right ?_
    rintro rfl
    refine ⟨fun d hd => kept.valueClass (values d (dependencies ▸ hd)), fun x hx => ?_⟩
    obtain ⟨name, link⟩ := links x hx
    exact ⟨name, (link.mono adds.keeps).mono (.of_registry kept)⟩
  · exact (Registry.mem_classes_of_add added hc).resolve_right (by rintro ⟨⟩)

theorem generateOperations_aftermath {table : List Fragment} {os : List Operation}
    (linked : Linked settings.schema pending p) :
    Leaves (Aftermath settings.schema pending p) (fun _ => True) (os.mapM (generateOperation settings table)) p
      ∧ ∀ cs q, Yields (os.mapM (generateOperation settings table)) p cs q → Linked settings.schema pending q := by
  induction os generalizing p with
  | nil =>
    refine ⟨.pure (.refl linked) trivial, fun cs q yields => ?_⟩
    obtain ⟨-, rfl⟩ := yields_pure_iff.1 yields
    exact linked
  | cons o rest ih =>
    have after : ∀ x r, Yields (generateOperation settings table o) p x r → Linked settings.schema pending r := by
      intro x r reads
      obtain ⟨c, details, all, os, owner, between, last, registry, generates, -, rfl⟩ :=
        generateOperation_generates reads
      exact (generates.adds linked).linked
    refine ⟨?_, fun cs q yields => ?_⟩
    · rw [List.mapM_cons]
      apply (generateOperation_aftermath linked).afterwards
      intro x r reads _
      exact (ih (after x r reads)).1.bind fun _ _ _ kept _ => .pure kept trivial
    · obtain ⟨x, r, others, reads, later, -⟩ := yields_mapM_cons_iff.1 yields
      exact (ih (after x r reads)).2 others q later

/-! ### Calls -/

/-- What a generator for a schema can be asked: to generate the classes of a document, to type a variable, or to
    generate the class of one of the input object types. -/
inductive Inquiry (s : Schema) where
  | document (d : Document)
  | typedVariable (name : String) (type : TypeRef)
  | inputType (type : TypeDefinition) (fields : List InputDefinition) (known : s.find? type.name = some type)
      (isInput : type.body = .input fields)

/-- How an inquiry is answered. -/
def Inquiry.answer (inquiry : Inquiry s) (settings : Settings) : Generation Unit :=
  match inquiry with
  | .document d => do
    let _ ← generateDocument settings d
  | .typedVariable name type => do
    let _ ← variableDefinition settings name type
  | .inputType type fields _ _ => do
    let _ ← inputClass settings type.name fields

/-- An inquiry, and the scalars that are bound when it is made. -/
structure Call (s : Schema) where
  scalars : ScalarTable
  inquiry : Inquiry s

namespace Generator

/-- Answers a call. -/
def call (g : Generator) (c : Call s) : Except Failure Unit × Generator :=
  { g with settings := { g.settings with scalars := c.scalars } }.run c.inquiry.answer

/-- A generator after calls, whatever came of them. -/
def after (g : Generator) (calls : List (Call s)) : Generator := calls.foldl (fun g c => (g.call c).2) g

/-- One of the calls failed after it had given an input object type its class name, and before it registered
    the class. -/
def LeftBehind (g : Generator) (calls : List (Call s)) (name : String) : Prop :=
  ∃ earlier call later, calls = earlier ++ call :: later
    ∧ (∃ e, ((g.after earlier).call call).1 = .error e)
    ∧ (g.after earlier).progress.inputClasses.lookup name = none
    ∧ ((g.after earlier).call call).2.progress.Unbacked name

end Generator

/-- What an inquiry leaves behind. If it is answered, no type is left open. -/
theorem Inquiry.aftermath (inquiry : Inquiry s) (settings : Settings) (schema : settings.schema = s)
    (linked : Linked s pending p) :
    Leaves (Aftermath s pending p) (fun _ => True) (inquiry.answer settings) p
      ∧ ∀ u q, Yields (inquiry.answer settings) p u q → Linked s pending q := by
  subst schema
  cases inquiry with
  | document d =>
    obtain ⟨left, closed⟩ := generateOperations_aftermath linked
    refine ⟨left.bind fun _ _ _ kept _ => .pure kept trivial, fun u q yields => ?_⟩
    obtain ⟨cs, _, yields, ends⟩ := yields_bind_iff.1 yields
    obtain ⟨-, rfl⟩ := yields_pure_iff.1 ends
    exact closed cs _ yields
  | typedVariable name type =>
    refine ⟨(variableDefinition_aftermath linked).bind fun _ _ _ kept _ => .pure kept trivial, fun u q yields => ?_⟩
    obtain ⟨x, _, yields, ends⟩ := yields_bind_iff.1 yields
    obtain ⟨-, rfl⟩ := yields_pure_iff.1 ends
    exact (variableDefinition_adds linked yields).1.linked
  | inputType type fields known isInput =>
    have noted : Noted settings.schema settings.schema.inputNames p := fun _ isInput => Or.inl isInput
    refine ⟨(inputClassOf_aftermath _ _ fields known isInput linked noted).bind fun _ _ _ kept _ =>
      .pure kept trivial, fun u q yields => ?_⟩
    obtain ⟨className, _, yields, ends⟩ := yields_bind_iff.1 yields
    obtain ⟨-, rfl⟩ := yields_pure_iff.1 ends
    exact (inputClassOf_adds _ _ fields known isInput linked noted yields).1.linked

namespace Generator

variable {g : Generator} {calls : List (Call s)} {c : Call s}

theorem after_snoc : g.after (calls ++ [c]) = ((g.after calls).call c).2 := by
  rw [after, List.foldl_concat]
  rfl

/-- What a call leaves behind. If it does not fail, no type is left open. -/
theorem call_aftermath (c : Call s) (schema : g.settings.schema = s) (linked : Linked s pending g.progress) :
    Aftermath s pending g.progress (g.call c).2.progress
      ∧ ((∃ e, (g.call c).1 = .error e) ∨ Linked s pending (g.call c).2.progress) := by
  obtain ⟨left, closed⟩ := c.inquiry.aftermath { g.settings with scalars := c.scalars } schema linked
  rw [call, run]
  rcases runs : (c.inquiry.answer { g.settings with scalars := c.scalars }).run.run g.progress with ⟨e | u, q⟩
  · exact ⟨left.fails e q runs, Or.inl ⟨e, rfl⟩⟩
  · exact ⟨(left.yields u q runs).1, Or.inr (closed u q runs)⟩

/-- What an earlier call left behind is left behind. -/
theorem LeftBehind.snoc (left : g.LeftBehind calls name) : g.LeftBehind (calls ++ [c]) name := by
  obtain ⟨earlier, call, later, rfl, failed⟩ := left
  exact ⟨earlier, call, later ++ [c], by rw [List.append_assoc, List.cons_append], failed⟩

/-- What is left behind was so before the last call, or is left behind by that. -/
theorem LeftBehind.of_snoc (left : g.LeftBehind (calls ++ [c]) name) :
    g.LeftBehind calls name ∨ (g.after (calls ++ [c])).progress.Unbacked name := by
  obtain ⟨earlier, call, later, all, failed⟩ := left
  rcases List.eq_nil_or_concat later with rfl | ⟨before, last, rfl⟩
  · obtain ⟨rfl, same⟩ := List.append_inj' all rfl
    cases same
    rw [after_snoc]
    exact Or.inr failed.2.2
  · rw [List.concat_eq_append, ← List.cons_append, ← List.append_assoc] at all
    exact Or.inl ⟨earlier, call, before, (List.append_inj' all rfl).1, failed⟩

/-- Between calls, classes are linked but for what was left behind, and that has no classes. -/
theorem after_linked (start : Linked s [] g.progress) (schema : g.settings.schema = s) (calls : List (Call s)) :
    (∃ pending, Linked s pending (g.after calls).progress ∧ ∀ name ∈ pending, g.LeftBehind calls name)
      ∧ ∀ name, g.LeftBehind calls name → (g.after calls).progress.Unbacked name := by
  have kept : ∀ calls : List (Call s), (g.after calls).settings.schema = s := by
    intro calls
    induction calls using List.reverseRecOn with
    | nil => exact schema
    | append_singleton calls c ih => rwa [after_snoc]
  induction calls using List.reverseRecOn with
  | nil =>
    refine ⟨⟨[], start, fun _ absent => absurd absent List.not_mem_nil⟩, fun name left => ?_⟩
    obtain ⟨earlier, call, later, none_, -⟩ := left
    exact absurd none_.symm (List.append_ne_nil_of_right_ne_nil _ (List.cons_ne_nil _ _))
  | append_singleton calls c ih =>
    obtain ⟨⟨pending, linked, left⟩, unbacked⟩ := ih
    obtain ⟨left_, ends⟩ := call_aftermath c (kept calls) linked
    rw [← after_snoc] at left_ ends
    constructor
    · rcases ends with failed | linked
      · obtain ⟨opened, linked, open_⟩ := left_.linked
        refine ⟨opened ++ pending, linked, fun name hname => ?_⟩
        rcases List.mem_append.1 hname with new | old
        · obtain ⟨unknown, unbacked⟩ := open_ name new
          rw [after_snoc] at unbacked
          exact ⟨calls, c, [], rfl, failed, unknown, unbacked⟩
        · exact (left name old).snoc
      · exact ⟨pending, linked, fun name hname => (left name hname).snoc⟩
    · intro name hname
      rcases hname.of_snoc with old | new
      · exact left_.unbacked name (unbacked name old)
      · exact new

end Generator

namespace Linked

/-- What a type of variables links to is a class, unless the type is left open. -/
theorem mem_names_of_link {d : String} (linked : Linked s pending p) (links : Links s p name (some d)) :
    d ∈ p.registry.names ∨ name ∈ pending ∧ p.inputClasses.lookup name = some d := by
  cases links with
  | enum _ _ got =>
    obtain ⟨-, c, found, -⟩ := linked.enums _ _ got
    exact Or.inl (Registry.mem_names_iff.2 ⟨_, found⟩)
  | input _ _ got =>
    obtain ⟨-, open_ | ⟨c, found, -⟩⟩ := linked.inputs _ _ got
    · exact Or.inr ⟨open_, got⟩
    · exact Or.inl (Registry.mem_names_iff.2 ⟨_, found⟩)

/-- What a class refers to is a class, but for types that are left open. -/
theorem mem_names_of_mem_dependencies {c : ClassDefinition} {d : String} (linked : Linked s pending p)
    (listed : c ∈ p.registry.classes) (depends : d ∈ c.dependencies) :
    d ∈ p.registry.names ∨ ∃ name ∈ pending, p.inputClasses.lookup name = some d := by
  have of_value : ∀ owner, p.registry.ValueClass owner d → d ∈ p.registry.names := by
    rintro owner (⟨c, found⟩ | ⟨c, found, -⟩) <;> exact Registry.mem_names_iff.2 ⟨_, found⟩
  have of_variables : ∀ xs : List Variable, (∀ x ∈ xs, ∃ name, Links s p name x.dependency) →
      d ∈ variableDependencies xs →
      d ∈ p.registry.names ∨ ∃ name ∈ pending, p.inputClasses.lookup name = some d := by
    intro xs links hd
    obtain ⟨x, hx, dependency⟩ := List.mem_filterMap.1 (mem_variableDependencies.1 hd).1
    obtain ⟨name, link⟩ := links x hx
    rw [dependency] at link
    exact (linked.mem_names_of_link link).imp_right fun h => ⟨name, h⟩
  cases c with
  | enum => exact absurd depends NameSet.not_mem_empty
  | input c =>
    obtain ⟨-, t, fields, -, -, links⟩ := linked.classes _ listed
    refine of_variables c.arguments (fun x hx => ?_) (NameSet.mem_ofList.1 depends)
    obtain ⟨f, -, link⟩ := links.ofVariable x hx
    exact ⟨_, link⟩
  | leaf c => exact Or.inl (of_value _ (linked.classes _ listed d (NameSet.mem_ofList.1 depends)))
  | root c details =>
    obtain ⟨values, parameters⟩ := linked.classes _ listed
    rcases List.mem_append.1 (NameSet.mem_ofList.1 depends) with selected | parameter
    · exact Or.inl (of_value _ (values d selected))
    · exact of_variables details.parameters parameters parameter

end Linked

/-- **The classes of types between calls**, for any calls of a generator, any of which may fail midway and be
    followed by others: the class name of an enum type is that of a class for that type. The class name of an input
    object type is that of a class for the type exactly if no failed call left it behind. And each name that
    a class depends on is that of a class, or of an input object type that a failed call left behind. -/
theorem Generator.caches_consistent (settings : Settings) (calls : List (Call settings.schema)) :
    let start := Generator.start settings
    let built := (start.after calls).progress
    (∀ name className, built.enumClasses.lookup name = some className →
        ∃ c, built.registry.find? className = some (.enum c) ∧ c.graphqlName = name)
      ∧ (∀ name className, built.inputClasses.lookup name = some className →
        ((∃ c, built.registry.find? className = some (.input c) ∧ c.graphqlName = name)
          ↔ ¬ start.LeftBehind calls name))
      ∧ ∀ c ∈ built.registry.classes, ∀ d ∈ c.dependencies, d ∈ built.registry.names
        ∨ ∃ name, start.LeftBehind calls name ∧ built.inputClasses.lookup name = some d := by
  intro start built
  obtain ⟨⟨pending, linked, left⟩, unbacked⟩ := start.after_linked .start rfl calls
  refine ⟨fun name className got => (linked.enums name className got).2, fun name className got => ?_,
    fun c listed d depends => ?_⟩
  · constructor
    · rintro ⟨c, found, of⟩ behind
      exact (unbacked name behind).absent c (Registry.mem_classes_of_find? found) of
    · intro complete
      exact (linked.inputs name className got).2.resolve_left fun hname => complete (left name hname)
  · refine (linked.mem_names_of_mem_dependencies listed depends).imp_right ?_
    rintro ⟨name, hname, got⟩
    exact ⟨name, left name hname, got⟩

/-! ### A scalar without a binding -/

namespace Unbound

def schema : Schema := ⟨[⟨"Custom", [], .scalar⟩, ⟨"In", [], .input [⟨"d", .named "Custom" true, none, []⟩]⟩,
  ⟨"Around", [], .input [⟨"inner", .named "In" true, none, []⟩]⟩], [], none, none, none⟩

/-- Typing a variable, while no scalar has a binding. -/
def typed (type : String) : Call schema := ⟨.empty none, .typedVariable "v" (.named type true)⟩

/-- The class of a type fails for its scalar, and then that of another type refers to it as if it was there. -/
example : let start := Generator.start ⟨schema, .empty none, true⟩
    let built := start.after [typed "In", typed "Around"]
    (start.call (typed "In")).1 = .error (.unsupported (.unbound "Custom"))
      ∧ built.progress.registry.names = ["Around"]
      ∧ built.sortedClasses = .error (.unknownDependency "Around" "In") := by
  cbv

end Unbound

end OperationClasses
