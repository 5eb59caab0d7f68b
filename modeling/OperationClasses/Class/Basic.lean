/-
Module: OperationClasses.Class.Basic
Purpose: Descriptions of the classes that a generated module consists of.
Main exports: EnumClass, InputClass, ObjectClass, OperationDetails, ClassDefinition,
  ClassDefinition.dependencies, ObjectClass.mergeMethods
-/
import OperationClasses.Accessor.Method
import OperationClasses.Variable

namespace OperationClasses

/-- A class for an enum type. The values keep the order of the schema. -/
structure EnumClass where
  name : String
  graphqlName : String
  values : List String
deriving DecidableEq, Inhabited

/-- The members of an enum class with their values, sorted by value. -/
def EnumClass.members (c : EnumClass) : Except Naming.NamingFault (List (String × String)) :=
  Naming.enumMembers (c.values.mergeSort fun a b => decide (a ≤ b))

/-- A class for an input object type. -/
structure InputClass where
  name : String
  graphqlName : String
  arguments : List Variable
deriving DecidableEq, Inhabited

/-- What a class for the values of a composite type needs, be it the result of an operation or a value
    below it. `dependencies` are the classes its accessors refer to. -/
structure ObjectClass where
  name : String
  typeName : String
  possibleTypes : List String
  methods : List Method
  dependencies : List String
deriving DecidableEq, Inhabited

/-- What the class of an operation needs besides its accessors. -/
structure OperationDetails where
  operationName : String
  kind : String
  queryText : String
  parameters : List Variable
deriving DecidableEq, Inhabited

/-- A class of the generated module. -/
inductive ClassDefinition where
  | enum (definition : EnumClass)
  | input (definition : InputClass)
  | leaf (definition : ObjectClass)
  | root (definition : ObjectClass) (operation : OperationDetails)
deriving DecidableEq, Inhabited

/-- The names of the classes that variables refer to. -/
def variableDependencies (vs : List Variable) : List String :=
  (vs.filterMap (·.dependency)).filter (· != "")

namespace ObjectClass

/-- The accessors in the order they are written. -/
def sortedMethods (c : ObjectClass) : List Method :=
  c.methods.mergeSort fun a b => decide (a.name ≤ b.name)

/-- Adds accessors one after the other: each to the accessor of its name, or as a new one. The first one
    that does not fit stops the rest, and what was added before stays. -/
def addMethods (owner : String) (methods : List Method) :
    List Method → List Method × Option InvariantFault
  | [] => (methods, none)
  | extra :: rest =>
    match Method.find? methods extra.name with
    | none => addMethods owner (methods ++ [extra]) rest
    | some m =>
      match m.merge extra with
      | .ok (some merged) => addMethods owner (Method.put merged methods) rest
      | .ok none => (methods, some (.mergeConflict extra.name owner))
      | .error fault => (methods, some fault)

/-- Takes the accessors and dependencies of a further selection into the class. Dependencies are added only
    if all accessors fit. -/
def mergeMethods (c : ObjectClass) (extras : List Method) (dependencies : List String) :
    ObjectClass × Option InvariantFault :=
  match addMethods c.name c.methods extras with
  | (methods, none) =>
    ({ c with methods := methods, dependencies := c.dependencies ++ dependencies }, none)
  | (methods, some fault) => ({ c with methods := methods }, some fault)

end ObjectClass

namespace ClassDefinition

/-- The name of a class. -/
def name : ClassDefinition → String
  | .enum c => c.name
  | .input c => c.name
  | .leaf c => c.name
  | .root c _ => c.name

/-- The word for the kind of a class. -/
def kind : ClassDefinition → String
  | .enum _ => "enum"
  | .input _ => "input"
  | .leaf _ => "leaf"
  | .root .. => "root"

/-- The names of the classes that a class refers to. -/
def dependencies : ClassDefinition → NameSet
  | .enum _ => ∅
  | .input c => NameSet.ofList (variableDependencies c.arguments)
  | .leaf c => NameSet.ofList c.dependencies
  | .root c operation => NameSet.ofList (c.dependencies ++ variableDependencies operation.parameters)

/-- The accessors of a class, in the order they were added. -/
def methods : ClassDefinition → List Method
  | .leaf c => c.methods
  | .root c _ => c.methods
  | _ => []

/-- The class with a change to its accessors. -/
def mapMethods (f : List Method → List Method) : ClassDefinition → ClassDefinition
  | .leaf c => .leaf { c with methods := f c.methods }
  | .root c operation => .root { c with methods := f c.methods } operation
  | other => other

end ClassDefinition

end OperationClasses
