/-
Module: OperationClasses.Generation.State
Purpose: What a run of generation is given and what it builds up, failures included.
Main exports: Settings, Progress, Generation, scalarBinding, enumClass
-/
import OperationClasses.Class.Registry
import OperationClasses.Scalar.Binding

namespace OperationClasses

/-- What a run is given. With `strict`, every scalar needs a binding. -/
structure Settings where
  schema : Schema
  scalars : ScalarTable
  strict : Bool
deriving Inhabited

/-- What a run has built: the classes, the class names of the enum and input types it met, and the import
    statements that the module needs. -/
structure Progress where
  registry : Registry
  enumClasses : List (String × String)
  inputClasses : List (String × String)
  imports : NameSet
deriving Inhabited

/-- The progress of a run that has done nothing. -/
def Progress.start : Progress := ⟨Registry.empty, [], [], ∅⟩

/-- A step of a run. A step that fails leaves behind what it did before. -/
abbrev Generation := ExceptT Failure (StateM Progress)

namespace Generation

/-- Fails if a condition is broken. -/
def invariant {α : Type} : Except InvariantFault α → Generation α
  | .ok a => pure a
  | .error fault => throw (.invariant fault)

/-- Fails if a name is no use. -/
def named {α : Type} : Except Naming.NamingFault α → Generation α
  | .ok a => pure a
  | .error fault => throw (.naming fault)

/-- Fails if a conversion cannot be written. -/
def converted {α : Type} : Except ConversionFault α → Generation α
  | .ok a => pure a
  | .error fault => throw (Failure.ofConversion fault)

/-- Adds a class to the registry. -/
def register (c : ClassDefinition) : Generation Unit := do
  let progress ← get
  let registry ← invariant (progress.registry.add c)
  set { progress with registry := registry }

end Generation

open Generation

/-- The binding that a scalar has without looking at strictness: registered, else built in. -/
def Settings.knownBinding? (settings : Settings) (name : String) : Option Binding :=
  (settings.scalars.find? name).orElse fun _ => builtinBinding? name

/-- The binding of a scalar: registered, else built in, else generic. Its imports are noted. -/
def scalarBinding (settings : Settings) (name : String) : Generation Binding := do
  let binding ←
    match settings.knownBinding? name with
    | some binding => pure binding
    | none => if settings.strict then throw (.unsupported (.unbound name)) else pure genericBinding
  modify fun progress => { progress with imports := progress.imports ∪ binding.imports }
  return binding

/-- The name of the class of an enum type, which is generated on first use. -/
def enumClass (name : String) (values : List EnumValueDefinition) : Generation String := do
  match (← get).enumClasses.lookup name with
  | some className => return className
  | none =>
    let className ← named (Naming.typeClassName name)
    register (.enum ⟨className, name, values.map (·.name)⟩)
    modify fun progress =>
      { progress with enumClasses := setKey name className progress.enumClasses }
    return className

end OperationClasses
