/-
Module: OperationClasses.Proofs.Generation.VariableSteps
Purpose: A property of steps that is kept when they are put together holds of the steps for scalars, enums and
  variables if it holds of their parts. So these steps register no result class. What each of them does, when it
  succeeds.
Main exports: VariableClosed, VariableClosed.declaredVariable, Supporting, Supporting.closed, Settings.Binds,
  yields_scalarBinding_iff, yields_enumClass_iff, yields_inputClassOf_iff, yields_inputFields_cons_iff
-/
import OperationClasses.Generation.Operations
import OperationClasses.Proofs.Generation.Growth

namespace OperationClasses

open Generation

variable {α β : Type} {settings : Settings} {p q : Progress}

/-! ### Parts and the steps made from them -/

/-- A property of steps that holds of the parts that the steps for scalars, enums and variables are made from, and of
    a sequence if it holds of both of its steps. -/
structure VariableClosed (P : ∀ {α : Type}, Generation α → Prop) : Prop where
  value {α : Type} {a : α} : P (pure a)
  sequence {α β : Type} {m : Generation α} {k : α → Generation β} (first : P m) (second : ∀ a, P (k a)) :
    P (m >>= k)
  unsupported {α : Type} {fault : TypeFault} : P (throw (.unsupported fault) : Generation α)
  broken {α : Type} {fault : InvariantFault} : P (throw (.invariant fault) : Generation α)
  identifier {taken : List String} {name : String} : P (named (Naming.safeIdentifier taken name))
  className {name : String} : P (named (Naming.typeClassName name))
  converted {α : Type} {x : Except ConversionFault α} : P (converted x)
  /-- a class that is not for results is registered -/
  register {c : ClassDefinition} (support : c.role = .support) : P (register c)
  /-- imports are noted -/
  imports {more : NameSet} : P (modify fun progress => { progress with imports := progress.imports ∪ more })
  /-- the class name of an enum is looked up -/
  findEnum {α : Type} {name : String} {there : String → Generation α} {absent : Generation α}
    (known : ∀ className, P (there className)) (unknown : P absent) :
    P (do match (← get).enumClasses.lookup name with
      | some className => there className
      | none => absent)
  /-- the class name of an enum is noted -/
  noteEnum {name className : String} :
    P (modify fun progress => { progress with enumClasses := setKey name className progress.enumClasses })
  /-- the class name of an input object type is looked up -/
  findInput {α : Type} {name : String} {there : String → Generation α} {absent : Generation α}
    (known : ∀ className, P (there className)) (unknown : P absent) :
    P (do match (← get).inputClasses.lookup name with
      | some className => there className
      | none => absent)
  /-- the class name of an input object type is noted -/
  noteInput {name className : String} :
    P (modify fun progress => { progress with inputClasses := setKey name className progress.inputClasses })

namespace VariableClosed

variable {P : ∀ {α : Type}, Generation α → Prop} (closed : VariableClosed P)
include closed

theorem scalarBinding {name : String} : P (scalarBinding settings name) := by
  have noted : ∀ binding : Binding, P (do
      modify fun progress => { progress with imports := progress.imports ∪ binding.imports }
      return binding : Generation Binding) := fun _ => closed.sequence closed.imports fun _ => closed.value
  unfold OperationClasses.scalarBinding
  split
  · exact closed.sequence closed.value noted
  · split
    · exact closed.sequence closed.unsupported noted
    · exact closed.sequence closed.value noted

theorem enumClass {name : String} {values : List EnumValueDefinition} : P (enumClass name values) := by
  unfold OperationClasses.enumClass
  apply closed.findEnum
  · exact fun _ => closed.value
  · apply closed.sequence closed.className
    intro className
    apply closed.sequence (closed.register rfl)
    exact fun _ => closed.sequence closed.noteEnum fun _ => closed.value

theorem wrapInput {type : TypeRef} {name : String} {core : TypedInput} : P (wrapInput type name core) :=
  closed.sequence closed.converted fun _ => closed.value

mutual

theorem coreInput (available : List String) (name : String) : P (coreInput settings available name) := by
  unfold OperationClasses.coreInput
  split
  · exact closed.sequence closed.scalarBinding fun _ => closed.value
  · exact closed.sequence closed.enumClass fun _ => closed.value
  · exact closed.sequence (inputClassOf available name _) fun _ => closed.value
  · exact closed.unsupported
  · exact closed.broken
termination_by (available.length, 2, 0)

theorem inputClassOf (available : List String) (name : String) (fields : List InputDefinition) :
    P (inputClassOf settings available name fields) := by
  unfold OperationClasses.inputClassOf
  apply closed.findInput
  · exact fun _ => closed.value
  · apply closed.sequence closed.className
    intro className
    apply closed.sequence closed.noteInput
    intro _
    split
    · rename_i listed
      have smaller := length_erase_lt listed
      apply closed.sequence (inputFields (available.erase name) fields)
      exact fun _ => closed.sequence (closed.register rfl) fun _ => closed.value
    · exact closed.value
termination_by (available.length, 1, 0)
decreasing_by exact Prod.Lex.left _ _ smaller

theorem inputFields (available : List String) (fields : List InputDefinition) :
    P (inputFields settings available fields) := by
  match fields with
  | [] =>
    rw [OperationClasses.inputFields]
    exact closed.value
  | field :: rest =>
    unfold OperationClasses.inputFields
    apply closed.sequence closed.identifier
    intro name
    apply closed.sequence (coreInput available field.type.core)
    intro core
    apply closed.sequence closed.wrapInput
    exact fun _ => closed.sequence (inputFields available rest) fun _ => closed.value
termination_by (available.length, 3, fields.length)

end

/-- The property holds of the reading of a variable. -/
theorem declaredVariable {v : VariableDeclaration} : P (declaredVariable settings v) := by
  unfold OperationClasses.declaredVariable
  split
  · apply closed.sequence closed.identifier
    intro name
    apply closed.sequence (closed.sequence (closed.coreInput _ _) fun _ => closed.wrapInput)
    exact fun _ => closed.value
  · exact closed.broken

end VariableClosed

/-! ### Classes that are not for results -/

/-- However a step ends, it registers at most classes that are not for results. -/
def Supporting (m : Generation α) : Prop :=
  ∀ p, Leaves (fun q => p.registry.Supports q.registry) (fun _ => True) m p

namespace Supporting

variable {m : Generation α}

theorem supports {a : α} (h : Supporting m) (yields : Yields m p a q) : p.registry.Supports q.registry :=
  ((h p).yields a q yields).1

theorem pure {a : α} : Supporting (pure a : Generation α) := fun _ => .pure .refl trivial

theorem throw {e : Failure} : Supporting (throw e : Generation α) := fun _ => .throw .refl

theorem bind {k : α → Generation β} (first : Supporting m) (second : ∀ a, Supporting (k a)) :
    Supporting (m >>= k) := by
  intro p
  apply (first p).bind
  intro a q _ kept _
  exact (second a q).imp fun _ => kept.trans

theorem get_bind {k : Progress → Generation α} (rest : ∀ p, Supporting (k p)) :
    Supporting ((MonadState.get : Generation Progress) >>= k) := fun p => .get_bind (rest p p)

theorem modify {change : Progress → Progress} (kept : ∀ p, (change p).registry = p.registry) :
    Supporting (modify change : Generation Unit) := by
  intro p
  apply Leaves.modify
  rw [kept]
  exact .refl

theorem named {x : Except Naming.NamingFault α} : Supporting (Generation.named x) := by
  cases x with
  | ok a => exact pure
  | error fault => exact throw

theorem converted {x : Except ConversionFault α} : Supporting (Generation.converted x) := by
  cases x with
  | ok a => exact pure
  | error fault => exact throw

theorem mapM {k : α → Generation β} {xs : List α} (each : ∀ x ∈ xs, Supporting (k x)) :
    Supporting (xs.mapM k) := by
  intro p
  apply Leaves.mapM _ p .refl
  intro x hx q before
  refine ⟨fun a r yields => ⟨before.trans ((each x hx).supports yields), trivial⟩, fun e r fails => ?_⟩
  exact before.trans ((each x hx q).fails e r fails)

/-- The steps for scalars, enums and variables register at most classes that are not for results. -/
theorem closed : VariableClosed @Supporting where
  value := pure
  sequence := bind
  unsupported := throw
  broken := throw
  identifier := named
  className := named
  converted := converted
  register support := fun _ => .register .refl fun _ added => .of_add added support
  imports := modify fun _ => rfl
  findEnum known unknown := get_bind fun p => by
    split
    · exact known _
    · exact unknown
  noteEnum := modify fun _ => rfl
  findInput known unknown := get_bind fun p => by
    split
    · exact known _
    · exact unknown
  noteInput := modify fun _ => rfl

/-- Reading the variables of an operation registers at most classes that are not for results. -/
theorem declaredVariables {vs : List VariableDeclaration} :
    Supporting (vs.mapM (declaredVariable settings)) := mapM fun _ _ => closed.declaredVariable

end Supporting

/-! ### What the steps do -/

/-- The binding that a run takes for a scalar. -/
inductive Settings.Binds (settings : Settings) (name : String) : Binding → Prop where
  | known {binding : Binding} (found : settings.knownBinding? name = some binding) : settings.Binds name binding
  | generic (unknown : settings.knownBinding? name = none) (lenient : ¬ settings.strict) :
      settings.Binds name genericBinding

/-- Reading a scalar only notes the imports of its binding. -/
theorem yields_scalarBinding_iff {name : String} {binding : Binding} :
    Yields (scalarBinding settings name) p binding q
      ↔ settings.Binds name binding ∧ q = { p with imports := p.imports ∪ binding.imports } := by
  unfold scalarBinding
  split
  · rename_i found
    simp only [yields_bind_iff, yields_pure_iff, yields_modify_iff]
    constructor
    · rintro ⟨_, _, ⟨rfl, rfl⟩, _, _, rfl, rfl, rfl⟩
      exact ⟨.known found, rfl⟩
    · rintro ⟨known | ⟨unknown, -⟩, rfl⟩
      · rename_i known
        rw [found] at known
        cases known
        exact ⟨_, _, ⟨rfl, rfl⟩, (), _, rfl, rfl, rfl⟩
      · rw [found] at unknown
        cases unknown
  · rename_i unknown
    split
    · rename_i strict
      simp only [yields_bind_iff, not_yields_throw, false_and, exists_false, false_iff]
      rintro ⟨known | ⟨-, lenient⟩, -⟩
      · rename_i known
        rw [unknown] at known
        cases known
      · exact lenient strict
    · rename_i lenient
      simp only [yields_bind_iff, yields_pure_iff, yields_modify_iff]
      constructor
      · rintro ⟨_, _, ⟨rfl, rfl⟩, _, _, rfl, rfl, rfl⟩
        exact ⟨.generic unknown lenient, rfl⟩
      · rintro ⟨known | ⟨-, -⟩, rfl⟩
        · rename_i known
          rw [unknown] at known
          cases known
        · exact ⟨_, _, ⟨rfl, rfl⟩, (), _, rfl, rfl, rfl⟩

/-- Reading an enum registers its class, unless it is there. -/
theorem yields_enumClass_iff {name className : String} {values : List EnumValueDefinition} :
    Yields (enumClass name values) p className q
      ↔ p.enumClasses.lookup name = some className ∧ q = p
        ∨ p.enumClasses.lookup name = none ∧ Naming.typeClassName name = .ok className
          ∧ ∃ registry, p.registry.add (.enum ⟨className, name, values.map (·.name)⟩) = .ok registry
            ∧ q = { p with registry := registry, enumClasses := setKey name className p.enumClasses } := by
  unfold enumClass
  simp only [yields_bind_iff, yields_get_iff]
  cases known : p.enumClasses.lookup name with
  | some other =>
    constructor
    · rintro ⟨_, p, ⟨rfl, rfl⟩, h⟩
      rw [known] at h
      obtain ⟨rfl, rfl⟩ := yields_pure_iff.1 h
      exact Or.inl ⟨rfl, rfl⟩
    · rintro (⟨same, rfl⟩ | ⟨⟨⟩, -⟩)
      refine ⟨q, q, ⟨rfl, rfl⟩, ?_⟩
      rw [known]
      exact yields_pure_iff.2 ⟨(Option.some.inj same).symm, rfl⟩
  | none =>
    constructor
    · rintro ⟨_, p, ⟨rfl, rfl⟩, h⟩
      rw [known] at h
      simp only [yields_bind_iff, yields_named_iff, yields_register_iff, yields_modify_iff, yields_pure_iff] at h
      obtain ⟨_, p, ⟨named, rfl⟩, _, _, ⟨registry, added, rfl⟩, _, _, rfl, rfl, rfl⟩ := h
      exact Or.inr ⟨rfl, named, registry, added, rfl⟩
    · rintro (⟨⟨⟩, -⟩ | ⟨-, named, registry, added, rfl⟩)
      refine ⟨p, p, ⟨rfl, rfl⟩, ?_⟩
      rw [known]
      simp only [yields_bind_iff, yields_named_iff, yields_register_iff, yields_modify_iff, yields_pure_iff]
      exact ⟨_, p, ⟨named, rfl⟩, (), _, ⟨registry, added, rfl⟩, (), _, rfl, rfl, rfl⟩

/-- Reading an input object type notes its class name, reads its fields and registers its class, unless its name
    is noted already. -/
theorem yields_inputClassOf_iff {available : List String} {name className : String}
    {fields : List InputDefinition} :
    Yields (inputClassOf settings available name fields) p className q
      ↔ p.inputClasses.lookup name = some className ∧ q = p
        ∨ p.inputClasses.lookup name = none ∧ Naming.typeClassName name = .ok className
          ∧ (name ∉ available ∧ q = { p with inputClasses := setKey name className p.inputClasses }
            ∨ name ∈ available ∧ ∃ xs r registry,
              Yields (inputFields settings (available.erase name) fields)
                { p with inputClasses := setKey name className p.inputClasses } xs r
              ∧ r.registry.add (.input ⟨className, name, xs⟩) = .ok registry
              ∧ q = { r with registry := registry }) := by
  unfold inputClassOf
  simp only [yields_bind_iff, yields_get_iff]
  cases known : p.inputClasses.lookup name with
  | some other =>
    constructor
    · rintro ⟨_, p, ⟨rfl, rfl⟩, h⟩
      rw [known] at h
      obtain ⟨rfl, rfl⟩ := yields_pure_iff.1 h
      exact Or.inl ⟨rfl, rfl⟩
    · rintro (⟨same, rfl⟩ | ⟨⟨⟩, -⟩)
      refine ⟨q, q, ⟨rfl, rfl⟩, ?_⟩
      rw [known]
      exact yields_pure_iff.2 ⟨(Option.some.inj same).symm, rfl⟩
  | none =>
    constructor
    · rintro ⟨_, p, ⟨rfl, rfl⟩, h⟩
      rw [known] at h
      simp only [yields_bind_iff, yields_named_iff, yields_modify_iff] at h
      obtain ⟨own, p, ⟨named, rfl⟩, _, _, rfl, h⟩ := h
      split at h
      · rename_i listed
        simp only [yields_bind_iff, yields_register_iff, yields_pure_iff] at h
        obtain ⟨xs, r, read, _, _, ⟨registry, added, rfl⟩, rfl, rfl⟩ := h
        exact Or.inr ⟨rfl, named, Or.inr ⟨listed, xs, r, registry, read, added, rfl⟩⟩
      · rename_i unlisted
        obtain ⟨rfl, rfl⟩ := yields_pure_iff.1 h
        exact Or.inr ⟨rfl, named, Or.inl ⟨unlisted, rfl⟩⟩
    · rintro (⟨⟨⟩, -⟩ | ⟨-, named, ends⟩)
      refine ⟨p, p, ⟨rfl, rfl⟩, ?_⟩
      rw [known]
      simp only [yields_bind_iff, yields_named_iff, yields_modify_iff]
      refine ⟨className, p, ⟨named, rfl⟩, (), _, rfl, ?_⟩
      rcases ends with ⟨unlisted, rfl⟩ | ⟨listed, xs, r, registry, read, added, rfl⟩
      · rw [dif_neg unlisted]
        exact yields_pure_iff.2 ⟨rfl, rfl⟩
      · rw [dif_pos listed]
        simp only [yields_bind_iff, yields_register_iff, yields_pure_iff]
        exact ⟨xs, r, read, (), _, ⟨registry, added, rfl⟩, trivial, rfl⟩

/-- How a value is typed and sent through the layers of its type, given how one of its named type is. -/
structure TypedInput.Wraps (core : TypedInput) (type : TypeRef) (name : String) (typed : TypedInput) : Prop where
  signature : typed.signature = rewrap core.signature type.layers
  serializer : inputConversion type.layers name name (listDepth type.layers) core.serializer = .ok typed.serializer
  dependency : typed.dependency = core.dependency

theorem yields_wrapInput_iff {type : TypeRef} {name : String} {core typed : TypedInput} :
    Yields (wrapInput type name core) p typed q ↔ core.Wraps type name typed ∧ q = p := by
  simp only [wrapInput, yields_bind_iff, yields_converted_iff, yields_pure_iff]
  constructor
  · rintro ⟨_, _, ⟨written, rfl⟩, rfl, rfl⟩
    exact ⟨⟨rfl, written, rfl⟩, rfl⟩
  · rintro ⟨⟨signature, written, dependency⟩, rfl⟩
    refine ⟨_, _, ⟨written, rfl⟩, ?_, rfl⟩
    rw [← signature, ← dependency]

/-- Reading fields reads the type of each and takes it through its layers. -/
theorem yields_inputFields_cons_iff {available : List String} {field : InputDefinition}
    {rest : List InputDefinition} {xs : List Variable} :
    Yields (inputFields settings available (field :: rest)) p xs q
      ↔ ∃ name core typed others r,
        Naming.safeIdentifier inputFieldReserved (Naming.underscore field.name) = .ok name
          ∧ Yields (coreInput settings available field.type.core) p core r ∧ core.Wraps field.type name typed
          ∧ Yields (inputFields settings available rest) r others q
          ∧ xs = typed.variable name field.name :: others := by
  rw [inputFields]
  simp only [yields_bind_iff, yields_named_iff, yields_wrapInput_iff, yields_pure_iff]
  constructor
  · rintro ⟨name, _, ⟨named, rfl⟩, core, r, read, typed, _, ⟨wraps, rfl⟩, others, _, later, rfl, rfl⟩
    exact ⟨name, core, typed, others, _, named, read, wraps, later, rfl⟩
  · rintro ⟨name, core, typed, others, r, named, read, wraps, later, rfl⟩
    exact ⟨name, _, ⟨named, rfl⟩, core, r, read, typed, _, ⟨wraps, rfl⟩, others, _, later, rfl, rfl⟩

/-- Reading a variable reads its type and takes it through its layers. -/
theorem yields_variableDefinition_iff {graphqlName : String} {type : TypeRef} {x : Variable} :
    Yields (variableDefinition settings graphqlName type) p x q
      ↔ ∃ name core typed, Naming.safeIdentifier variableReserved (Naming.underscore graphqlName) = .ok name
        ∧ Yields (coreInput settings settings.schema.inputNames type.core) p core q ∧ core.Wraps type name typed
        ∧ x = typed.variable name graphqlName := by
  simp only [variableDefinition, resolveInput, yields_bind_iff, yields_named_iff, yields_wrapInput_iff,
    yields_pure_iff]
  constructor
  · rintro ⟨name, _, ⟨named, rfl⟩, typed, _, ⟨core, _, read, wraps, rfl⟩, rfl, rfl⟩
    exact ⟨name, core, typed, named, read, wraps, rfl⟩
  · rintro ⟨name, core, typed, named, read, wraps, rfl⟩
    exact ⟨name, _, ⟨named, rfl⟩, typed, _, ⟨core, _, read, wraps, rfl⟩, rfl, rfl⟩

/-- A variable that an operation declares is read as any other, if its type is there. -/
theorem yields_declaredVariable_iff {v : VariableDeclaration} {x : Variable} :
    Yields (declaredVariable settings v) p x q
      ↔ ∃ t, settings.schema.core? v.type = some t ∧ Yields (variableDefinition settings v.name v.type) p x q := by
  unfold declaredVariable
  cases settings.schema.core? v.type with
  | none => simp
  | some t => simp

end OperationClasses
