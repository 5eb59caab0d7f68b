/-
Module: OperationClasses.Generation.Inputs
Purpose: Signatures and serializers of variables and input fields, and the classes of input objects.
Main exports: TypedInput, resolveInput, variableDefinition, inputClass
-/
import OperationClasses.Generation.State
import OperationClasses.Conversion.Input

namespace OperationClasses

open Generation

/-- How a value is typed and sent, and the generated class that its signature refers to. -/
structure TypedInput where
  signature : String
  serializer : String
  dependency : Option String
deriving DecidableEq, Repr, Inhabited

/-- The names of the input object types of a schema. -/
def Schema.inputNames (s : Schema) : List String :=
  s.types.filterMap fun t =>
    match t.body with
    | .input _ => some t.name
    | _ => none

/-- How a value of a reference is typed and sent, given how one of its named type is. -/
def wrapInput (type : TypeRef) (name : String) (core : TypedInput) : Generation TypedInput := do
  let serializer ← converted
    (inputConversion type.layers name name (listDepth type.layers) core.serializer)
  return ⟨rewrap core.signature type.layers, serializer, core.dependency⟩

/-- A variable that is typed and sent in a given way. -/
def TypedInput.variable (typed : TypedInput) (name graphqlName : String) : Variable :=
  ⟨name, graphqlName, typed.signature, typed.serializer, typed.dependency⟩

/-- The names that the fields of an input class must not take. -/
def inputFieldReserved : List String := Naming.inputNames ++ Naming.expressionNames

/-- The names that the variables of an operation must not take. -/
def variableReserved : List String := Naming.resultNames ++ Naming.expressionNames

mutual

/-- How a value of a named type is typed and sent. `available` are the input object types whose class is
    not being generated already. -/
def coreInput (settings : Settings) (available : List String) (name : String) :
    Generation TypedInput := do
  match settings.schema.find? name with
  | some ⟨_, _, .scalar⟩ =>
    let binding ← scalarBinding settings name
    return ⟨binding.signature, binding.serialize, none⟩
  | some ⟨_, _, .enum values⟩ =>
    let className ← enumClass name values
    return ⟨className, "$value.value", some className⟩
  | some ⟨_, _, .input fields⟩ =>
    let className ← inputClassOf settings available name fields
    return ⟨className, "$value.serialize()", some className⟩
  | some _ => throw (.unsupported (.notInput name))
  | none => throw (.invariant (.unknownType name))
termination_by (available.length, 2, 0)

/-- The name of the class of an input object type, which is generated on first use. The name is noted
    before the fields are resolved, so that a type may contain itself. -/
def inputClassOf (settings : Settings) (available : List String) (name : String)
    (fields : List InputDefinition) : Generation String := do
  match (← get).inputClasses.lookup name with
  | some className => return className
  | none =>
    let className ← named (Naming.typeClassName name)
    modify fun progress =>
      { progress with inputClasses := setKey name className progress.inputClasses }
    if _h : name ∈ available then
      let arguments ← inputFields settings (available.erase name) fields
      register (.input ⟨className, name, arguments⟩)
    return className
termination_by (available.length, 1, 0)
decreasing_by
  have := List.length_pos_of_mem _h
  simp only [Prod.lex_def, List.length_erase_of_mem _h]; omega

/-- The fields of an input class in the order of the schema. -/
def inputFields (settings : Settings) (available : List String) :
    List InputDefinition → Generation (List Variable)
  | [] => return []
  | field :: rest => do
    let name ← named (Naming.safeIdentifier inputFieldReserved (Naming.underscore field.name))
    let core ← coreInput settings available field.type.core
    let typed ← wrapInput field.type name core
    return typed.variable name field.name :: (← inputFields settings available rest)
termination_by fields => (available.length, 3, fields.length)

end

/-- How a value of a type is typed and sent under the name of a variable. -/
def resolveInput (settings : Settings) (type : TypeRef) (name : String) : Generation TypedInput := do
  wrapInput type name (← coreInput settings settings.schema.inputNames type.core)

/-- The variable for a name and type of a document. -/
def variableDefinition (settings : Settings) (graphqlName : String) (type : TypeRef) :
    Generation Variable := do
  let name ← named (Naming.safeIdentifier variableReserved (Naming.underscore graphqlName))
  let typed ← resolveInput settings type name
  return typed.variable name graphqlName

/-- The name of the class of an input object type, which is generated on first use. -/
def inputClass (settings : Settings) (name : String) (fields : List InputDefinition) :
    Generation String :=
  inputClassOf settings settings.schema.inputNames name fields

end OperationClasses
