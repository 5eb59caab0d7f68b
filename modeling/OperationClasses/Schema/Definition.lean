/-
Module: OperationClasses.Schema.Definition
Purpose: Type definitions and extensions as a schema text writes them.
Main exports: InputDefinition, FieldDefinition, TypeBody, TypeDefinition, SchemaDefinition,
  DirectiveDefinition, DirectiveExtension, SystemDefinition
-/
import OperationClasses.Document.Basic

namespace OperationClasses

/-- An argument of a field or directive, or a field of an input object. -/
structure InputDefinition where
  name : String
  type : TypeRef
  default : Option Value
  directives : List Directive
deriving BEq, Repr, Inhabited

/-- A field of an object or interface type. -/
structure FieldDefinition where
  name : String
  arguments : List InputDefinition
  type : TypeRef
  directives : List Directive
deriving BEq, Repr, Inhabited

/-- A value of an enum type. -/
structure EnumValueDefinition where
  name : String
  directives : List Directive
deriving BEq, Repr, Inhabited

/-- What a type is made of. -/
inductive TypeBody where
  | scalar
  | object (interfaces : List String) (fields : List FieldDefinition)
  | interface (interfaces : List String) (fields : List FieldDefinition)
  | union (members : List String)
  | enum (values : List EnumValueDefinition)
  | input (fields : List InputDefinition)
deriving BEq, Repr, Inhabited

/-- A type definition, or with the same parts an extension of a type. -/
structure TypeDefinition where
  name : String
  directives : List Directive
  body : TypeBody
deriving BEq, Repr, Inhabited

/-- The root types that a schema names, or with the same parts an extension of them. -/
structure SchemaDefinition where
  directives : List Directive
  roots : List (OperationKind × String)
deriving BEq, Repr, Inhabited

/-- A directive that a schema declares. -/
structure DirectiveDefinition where
  name : String
  arguments : List InputDefinition
  directives : List Directive
  repeatable : Bool
  locations : List String
deriving BEq, Repr, Inhabited

/-- Further directives of a directive that a schema declares. -/
structure DirectiveExtension where
  name : String
  directives : List Directive
deriving BEq, Repr, Inhabited

/-- A definition that belongs to a schema and not to a query. -/
inductive SystemDefinition where
  | schema (definition : SchemaDefinition)
  | type (definition : TypeDefinition)
  | directive (definition : DirectiveDefinition)
  | extendSchema (extension : SchemaDefinition)
  | extendType (extension : TypeDefinition)
  | extendDirective (extension : DirectiveExtension)
deriving BEq, Repr, Inhabited

/-- A definition of a document. -/
inductive Definition where
  | operation (definition : Operation)
  | fragment (definition : Fragment)
  | system (definition : SystemDefinition)
deriving BEq, Repr, Inhabited

/-- A parsed document. -/
structure Document where
  definitions : List Definition
deriving BEq, Repr, Inhabited

/-- The operations of a document in order. -/
def Document.operations (d : Document) : List Operation :=
  d.definitions.filterMap fun
    | .operation definition => some definition
    | _ => none

/-- The fragments of a document in order. -/
def Document.fragments (d : Document) : List Fragment :=
  d.definitions.filterMap fun
    | .fragment definition => some definition
    | _ => none

/-- The definitions of a document that belong to a schema. -/
def Document.systemDefinitions (d : Document) : List SystemDefinition :=
  d.definitions.filterMap fun
    | .system definition => some definition
    | _ => none

end OperationClasses
