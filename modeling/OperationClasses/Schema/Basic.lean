/-
Module: OperationClasses.Schema.Basic
Purpose: Schemas: named types with their fields, the root types of operations, and the lookups that
  reading and validating documents need.
Main exports: Schema, Schema.find?, Schema.rootType, Schema.fieldOf?, Schema.possibleTypes
-/
import OperationClasses.Schema.Definition
import OperationClasses.NameSet

namespace OperationClasses

/-- A schema: its types with the standard ones it uses, its directives, and the names of the root types of
    operations. -/
structure Schema where
  types : List TypeDefinition
  directives : List DirectiveDefinition
  queryType : Option String
  mutationType : Option String
  subscriptionType : Option String
deriving BEq, Repr, Inhabited

namespace TypeBody

/-- Whether a type has selections below it. -/
def isComposite : TypeBody → Bool
  | .object .. => true
  | .interface .. => true
  | .union .. => true
  | _ => false

/-- Whether values of a type are values of one of several object types. -/
def isAbstract : TypeBody → Bool
  | .interface .. => true
  | .union .. => true
  | _ => false

/-- Whether a type is a scalar or an enum. -/
def isLeaf : TypeBody → Bool
  | .scalar => true
  | .enum .. => true
  | _ => false

/-- Whether a variable or an argument can have a type. -/
def isInput : TypeBody → Bool
  | .scalar => true
  | .enum .. => true
  | .input .. => true
  | _ => false

/-- Whether two types are of the same kind. -/
def sameKind : TypeBody → TypeBody → Bool
  | .scalar, .scalar => true
  | .object .., .object .. => true
  | .interface .., .interface .. => true
  | .union .., .union .. => true
  | .enum .., .enum .. => true
  | .input .., .input .. => true
  | _, _ => false

end TypeBody

namespace TypeDefinition

/-- The fields of an object or interface type. -/
def outputFields (t : TypeDefinition) : List FieldDefinition :=
  match t.body with
  | .object _ fields => fields
  | .interface _ fields => fields
  | _ => []

/-- The fields of an input object type. -/
def inputFields (t : TypeDefinition) : List InputDefinition :=
  match t.body with
  | .input fields => fields
  | _ => []

/-- The interfaces that an object or interface type lists. -/
def interfaces (t : TypeDefinition) : List String :=
  match t.body with
  | .object interfaces _ => interfaces
  | .interface interfaces _ => interfaces
  | _ => []

/-- The type of a field by its name, of an input object too. -/
def fieldType? (t : TypeDefinition) (name : String) : Option TypeRef :=
  match t.outputFields.find? (·.name == name) with
  | some field => some field.type
  | none => (t.inputFields.find? (·.name == name)).map (·.type)

end TypeDefinition

/-- Whether an argument or input field must be given. -/
def InputDefinition.isMandatory (d : InputDefinition) : Bool := d.type.isRequired && d.default.isNone

/-- The field that tells the type of a value. -/
def typenameField : FieldDefinition := ⟨"__typename", [], .named "String" true, []⟩

/-- The field of the query root that gives the schema. -/
def schemaField : FieldDefinition := ⟨"__schema", [], .named "__Schema" true, []⟩

/-- The field of the query root that gives one type of the schema. -/
def typeField : FieldDefinition :=
  ⟨"__type", [⟨"name", .named "String" true, none, []⟩], .named "__Type" false, []⟩

namespace Schema

/-- The type of a name. -/
def find? (s : Schema) (name : String) : Option TypeDefinition := s.types.find? (·.name == name)

/-- The name of the root type of a kind of operation. -/
def rootName (s : Schema) : OperationKind → Option String
  | .query => s.queryType
  | .mutation => s.mutationType
  | .subscription => s.subscriptionType

/-- The root type of a kind of operation. -/
def rootType (s : Schema) (kind : OperationKind) : Option TypeDefinition := do s.find? (← s.rootName kind)

/-- The meta field of a name that can be selected on a type: the type name anywhere, the schema and its
    types on the query root. -/
def metaField? (s : Schema) (parent : TypeDefinition) (name : String) : Option FieldDefinition :=
  if name = typenameField.name then some typenameField
  else if s.queryType = some parent.name then
    if name = schemaField.name then some schemaField
    else if name = typeField.name then some typeField
    else none
  else none

/-- The field of a name that can be selected on a composite type. -/
def fieldOf? (s : Schema) (parent : TypeDefinition) (name : String) : Option FieldDefinition :=
  if parent.body.isComposite then
    match s.metaField? parent name with
    | some field => some field
    | none => parent.outputFields.find? (·.name == name)
  else none

/-- The names of the object types that list an interface, once for each time they list it. -/
def listings (s : Schema) (interface : String) : List String :=
  s.types.flatMap fun t =>
    match t.body with
    | .object interfaces _ => (interfaces.filter (· == interface)).map fun _ => t.name
    | _ => []

/-- The names of the object types that list an interface. -/
def implementors (s : Schema) (interface : String) : NameSet := NameSet.ofList (s.listings interface)

/-- The names of the object types of an interface or union in order, as often as they are given. -/
def listedTypes (s : Schema) (t : TypeDefinition) : List String :=
  (match t.body with
    | .interface .. => s.listings t.name
    | .union members => members
    | _ => []).mergeSort fun a b => decide (a ≤ b)

/-- The names of the object types that a value of a composite type can have, or nothing for another
    type. -/
def possibleTypes (s : Schema) (t : TypeDefinition) : Option NameSet :=
  match t.body with
  | .object .. => some (NameSet.singleton t.name)
  | .interface .. => some (s.implementors t.name)
  | .union members => some (NameSet.ofList members)
  | _ => none

/-- The type under the layers of a reference. -/
def core? (s : Schema) (type : TypeRef) : Option TypeDefinition := s.find? type.core

/-- Whether the named type of a reference is a scalar of the schema. -/
def isScalar (s : Schema) (name : String) : Bool :=
  match s.find? name with
  | some ⟨_, _, .scalar⟩ => true
  | _ => false

end Schema

end OperationClasses
