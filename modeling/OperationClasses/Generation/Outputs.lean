/-
Module: OperationClasses.Generation.Outputs
Purpose: Accessors of selection sets and the result classes they lead to.
Main exports: TypedOutput, Accessors, accessors, coreOutput
-/
import OperationClasses.Generation.State
import OperationClasses.Generation.Occurrence
import OperationClasses.Conversion.Output

namespace OperationClasses

open Generation

/-- How a raw value is typed and converted, and the generated class that its signature refers to. -/
structure TypedOutput where
  signature : String
  deserializer : String
  dependency : Option String
deriving DecidableEq, Repr, Inhabited

/-- The body of the accessor for the type name of an object. -/
def typenameBody : String := "return self.graphql_typename"

/-- What a field adds to the name of the class for its values: its name, after its alias if that is another
    name. -/
def Occurrence.suffix (o : Occurrence) : String :=
  match o.head.aliasName with
  | some other =>
    if other != "" && other != o.head.name then
      Naming.camelize other ++ Naming.camelize o.head.name
    else Naming.camelize o.head.name
  | none => Naming.camelize o.head.name

/-- Whether an occurrence selects the type name under its own name. -/
def Occurrence.isTypename (o : Occurrence) : Bool :=
  o.head.name == typenameField.name && o.head.aliasName.isNone

/-- How the value of an occurrence is typed and read, given how a raw value of its named type is. -/
def Occurrence.wrapOutput (o : Occurrence) (core : TypedOutput) : Generation TypedOutput := do
  let body ← converted <| outputConversion o.type.layers ("self.raw_result[\"" ++ o.key ++ "\"]")
    (listDepth o.type.layers) 0 core.deserializer
  return ⟨rewrap core.signature o.type.layers, body, core.dependency⟩

/-- The accessor of one occurrence. -/
def Occurrence.method (o : Occurrence) (name : String) (typed : TypedOutput) : Method :=
  .field (FieldAccess.fresh name [⟨name, typed.signature, typed.deserializer, o.owner, o.conditions⟩])

/-- What a selection set has come to: its accessors, the response key of each, and the classes that they
    refer to. -/
structure Accessors where
  methods : List Method
  keys : List (String × String)
  dependencies : List String
deriving Inhabited

namespace Accessors

/-- A selection set that has come to nothing yet. -/
def empty : Accessors := ⟨[], [], []⟩

/-- Gives an accessor name its response key, or fails if it has another. -/
def claim (a : Accessors) (owner name key : String) : Generation Accessors :=
  match a.keys.lookup name with
  | none => return { a with keys := a.keys ++ [(name, key)] }
  | some other =>
    if other = key then return a
    else throw (.naming (.sharedAccessor other key owner name))

/-- Adds an accessor to the one of its name, or as a new one. -/
def add (a : Accessors) (owner : String) (method : Method) : Generation Accessors :=
  match Method.find? a.methods method.name with
  | none => return { a with methods := a.methods ++ [method] }
  | some existing => do
    match ← invariant (existing.merge method) with
    | some merged => return { a with methods := Method.put merged a.methods }
    | none => throw (.invariant (.methodConflict method.name owner))

end Accessors

/-- Whether a class is the result class for values of a type. -/
def ClassDefinition.isLeafOf (type : String) : ClassDefinition → Bool
  | .leaf c => c.typeName == type
  | _ => false

/-- The name of the class for values of a type: the wanted one, or if a class for another type has it, that
    name and the name of the type. -/
def Registry.leafName (r : Registry) (wanted type : String) : String :=
  match r.find? wanted with
  | some c => if c.isLeafOf type then wanted else wanted ++ "_" ++ type
  | none => wanted

/-- Registers the class of a selection set. If its name had a class before the selection set was read,
    that class takes the accessors, provided it is for values of the same type. -/
def registerLeaf (settings : Settings) (name : String) (type : TypeDefinition)
    (existing : Option ClassDefinition) (methods : List Method) (dependencies : List String) :
    Generation Unit := do
  if existing.any (·.isLeafOf type.name) then
    let progress ← get
    match progress.registry.find? name with
    | some (.leaf c) =>
      let (merged, fault) := c.mergeMethods methods dependencies
      set { progress with registry := progress.registry.replace (.leaf merged) }
      match fault with
      | some fault => throw (.invariant fault)
      | none => return
    | _ => throw (.invariant (.classTaken name))
  else
    let types ← invariant (settings.schema.runtimeTypes type.name)
    register (.leaf ⟨name, type.name, types.toList, methods, dependencies⟩)

mutual

/-- The accessors of a selection set on a type, one for each response key, and the classes they refer to. -/
def accessors (settings : Settings) (className : String) (owner : TypeDefinition)
    (selections : List Resolved) : Generation (List Method × List String) := do
  match _h : occurrences settings.schema owner selections with
  | .error fault => throw (.invariant fault)
  | .ok os =>
    let all ← addOccurrences settings className Accessors.empty os (Resolved.weightAll selections)
      fun _ ho => weightBelow_lt _h ho
    return (all.methods, all.dependencies)
termination_by (Resolved.weightAll selections, 2, 0)

/-- Adds the accessors of occurrences, one after the other, to those found so far. What is selected below
    each occurrence is smaller than `bound`. -/
def addOccurrences (settings : Settings) (className : String) (found : Accessors)
    (os : List Occurrence) (bound : Nat) (_h : ∀ o ∈ os, o.weightBelow < bound) :
    Generation Accessors :=
  match os with
  | [] => return found
  | o :: rest => do
    let found ← addOccurrence settings className found o
    addOccurrences settings className found rest bound fun o ho => _h o (List.mem_cons_of_mem _ ho)
termination_by (bound, 1, os.length)
decreasing_by
  · have := _h o List.mem_cons_self
    simp only [Prod.lex_def]; omega
  · simp [Prod.lex_def]

/-- Adds the accessor of one occurrence to those found so far. -/
def addOccurrence (settings : Settings) (className : String) (found : Accessors) (o : Occurrence) :
    Generation Accessors := do
  let name ← named (Naming.accessorName o.key)
  let found ← found.claim className name o.key
  if o.isTypename then found.add className (.fixed name "str" typenameBody)
  else
    let core ← coreOutput settings (className ++ "_" ++ o.suffix) o
    let typed ← o.wrapOutput core
    let found := { found with dependencies := found.dependencies ++ typed.dependency.toList }
    found.add className (o.method name typed)
termination_by (o.weightBelow, 4, 0)

/-- How a raw value of the named type of an occurrence is typed and converted. A composite type gets the
    class `wanted`, unless that name belongs to a class for another type. -/
def coreOutput (settings : Settings) (wanted : String) (o : Occurrence) : Generation TypedOutput := do
  match settings.schema.core? o.type with
  | none => throw (.invariant (.unknownType o.type.core))
  | some type =>
    match type.body with
    | .scalar =>
      let binding ← scalarBinding settings type.name
      return ⟨binding.signature, binding.deserialize, none⟩
    | .enum values =>
      let className ← enumClass type.name values
      return ⟨className, className ++ "($raw_value)", some className⟩
    | .input _ => throw (.unsupported (.notOutput type.name))
    | _ =>
      match _h : o.below with
      | none => throw (.invariant (.noSelections type.name))
      | some below =>
        let registry := (← get).registry
        let className := registry.leafName wanted type.name
        let existing := registry.find? className
        let (methods, dependencies) ← accessors settings className type below
        registerLeaf settings className type existing methods dependencies
        return ⟨className, className ++ "($raw_value)", some className⟩
termination_by (o.weightBelow, 3, 0)
decreasing_by
  simp [Prod.lex_def, Occurrence.weightBelow, _h]

end

end OperationClasses
