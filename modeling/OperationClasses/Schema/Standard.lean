/-
Module: OperationClasses.Schema.Standard
Purpose: The types and directives that every schema may use without defining them.
Main exports: standardScalarNames, standardDirectives, metaTypes
-/
import OperationClasses.Schema.Reader

namespace OperationClasses

/-- The five scalars that need no definition. -/
def standardScalarNames : List String := ["Int", "Float", "String", "Boolean", "ID"]

namespace Standard

/-- A scalar type without directives. -/
def scalarType (name : String) : TypeDefinition := ⟨name, [], .scalar⟩

/-- A field without arguments. -/
def field (name : String) (type : TypeRef) : FieldDefinition := ⟨name, [], type, []⟩

/-- A field with the argument that asks for deprecated members too. -/
def deprecableField (name : String) (type : TypeRef) : FieldDefinition :=
  ⟨name, [⟨"includeDeprecated", .named "Boolean" false, some (.boolean false), []⟩], type, []⟩

/-- A reference to a named type that is never null. -/
def required (name : String) : TypeRef := .named name true

/-- A reference to a named type that may be null. -/
def optional (name : String) : TypeRef := .named name false

/-- A list without missing items. -/
def listOf (name : String) (listRequired : Bool) : TypeRef :=
  .list (.named name true) listRequired

/-- An enum type with the given values. -/
def enumOf (name : String) (values : List String) : TypeDefinition :=
  ⟨name, [], .enum (values.map (⟨·, []⟩))⟩

/-- An object type with the given fields. -/
def objectOf (name : String) (fields : List FieldDefinition) : TypeDefinition :=
  ⟨name, [], .object [] fields⟩

/-- An argument, with its default value if it has one. -/
def argument (name : String) (type : TypeRef) (default : Option Value) : InputDefinition :=
  ⟨name, type, default, []⟩

end Standard

open Standard

/-- The kinds of types. -/
def typeKinds : List String :=
  ["SCALAR", "OBJECT", "INTERFACE", "UNION", "ENUM", "INPUT_OBJECT", "LIST", "NON_NULL"]

/-- The types of the fields that describe a schema. -/
def metaTypes : List TypeDefinition := [
  objectOf "__Schema" [
    field "description" (optional "String"),
    field "types" (listOf "__Type" true),
    field "queryType" (required "__Type"),
    field "mutationType" (optional "__Type"),
    field "subscriptionType" (optional "__Type"),
    deprecableField "directives" (listOf "__Directive" true)],
  objectOf "__Directive" [
    field "name" (required "String"),
    field "description" (optional "String"),
    field "isRepeatable" (required "Boolean"),
    field "locations" (listOf "__DirectiveLocation" true),
    deprecableField "args" (listOf "__InputValue" true),
    field "isDeprecated" (required "Boolean"),
    field "deprecationReason" (optional "String")],
  enumOf "__DirectiveLocation" directiveLocations,
  objectOf "__Type" [
    field "kind" (required "__TypeKind"),
    field "name" (optional "String"),
    field "description" (optional "String"),
    field "specifiedByURL" (optional "String"),
    deprecableField "fields" (listOf "__Field" false),
    field "interfaces" (listOf "__Type" false),
    field "possibleTypes" (listOf "__Type" false),
    deprecableField "enumValues" (listOf "__EnumValue" false),
    deprecableField "inputFields" (listOf "__InputValue" false),
    field "ofType" (optional "__Type"),
    field "isOneOf" (optional "Boolean")],
  objectOf "__Field" [
    field "name" (required "String"),
    field "description" (optional "String"),
    deprecableField "args" (listOf "__InputValue" true),
    field "type" (required "__Type"),
    field "isDeprecated" (required "Boolean"),
    field "deprecationReason" (optional "String")],
  objectOf "__InputValue" [
    field "name" (required "String"),
    field "description" (optional "String"),
    field "type" (required "__Type"),
    field "defaultValue" (optional "String"),
    field "isDeprecated" (required "Boolean"),
    field "deprecationReason" (optional "String")],
  objectOf "__EnumValue" [
    field "name" (required "String"),
    field "description" (optional "String"),
    field "isDeprecated" (required "Boolean"),
    field "deprecationReason" (optional "String")],
  enumOf "__TypeKind" typeKinds]

/-- The directives that need no declaration. -/
def standardDirectives : List DirectiveDefinition := [
  ⟨"include", [argument "if" (required "Boolean") none], [], false,
    ["FIELD", "FRAGMENT_SPREAD", "INLINE_FRAGMENT"]⟩,
  ⟨"skip", [argument "if" (required "Boolean") none], [], false,
    ["FIELD", "FRAGMENT_SPREAD", "INLINE_FRAGMENT"]⟩,
  ⟨"deprecated",
    [argument "reason" (required "String") (some (.string "No longer supported" false))], [], false,
    ["FIELD_DEFINITION", "ARGUMENT_DEFINITION", "INPUT_FIELD_DEFINITION", "ENUM_VALUE",
      "DIRECTIVE_DEFINITION"]⟩,
  ⟨"specifiedBy", [argument "url" (required "String") none], [], false, ["SCALAR"]⟩,
  ⟨"oneOf", [], [], false, ["INPUT_OBJECT"]⟩]

/-- Names of types that a schema may refer to without defining them. -/
def standardTypeNames : List String := standardScalarNames ++ metaTypes.map (·.name)

/-- The standard type of a name. -/
def standardType? (name : String) : Option TypeDefinition :=
  if standardScalarNames.contains name then some (scalarType name)
  else metaTypes.find? (·.name == name)

end OperationClasses
