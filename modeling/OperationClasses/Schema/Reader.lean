/-
Module: OperationClasses.Schema.Reader
Purpose: Reading type definitions and extensions from tokens.
Main exports: Parse.systemDefinition, directiveLocations
-/
import OperationClasses.Document.Parse
import OperationClasses.Schema.Definition

namespace OperationClasses

/-- The places where a directive may be declared to stand. -/
def directiveLocations : List String := [
  "QUERY", "MUTATION", "SUBSCRIPTION", "FIELD", "FRAGMENT_DEFINITION", "FRAGMENT_SPREAD",
  "INLINE_FRAGMENT", "VARIABLE_DEFINITION", "FRAGMENT_VARIABLE_DEFINITION", "SCHEMA", "SCALAR",
  "OBJECT", "FIELD_DEFINITION", "ARGUMENT_DEFINITION", "INTERFACE", "UNION", "ENUM", "ENUM_VALUE",
  "INPUT_OBJECT", "INPUT_FIELD_DEFINITION", "DIRECTIVE_DEFINITION"]

namespace Parse

/-- Reads the definition of an argument or input field. -/
def inputDefinition : Parse InputDefinition := do
  let _ ← description
  let inputName ← name
  mark ':'
  let type ← typeRef maxNesting
  let default ← if ← optionalMark '=' then some <$> value maxNesting true else pure none
  return ⟨inputName, type, default, ← directives maxNesting true⟩

/-- Reads the definition of a field. -/
def fieldDefinition : Parse FieldDefinition := do
  let _ ← description
  let fieldName ← name
  let args ← group '(' ')' inputDefinition
  mark ':'
  let type ← typeRef maxNesting
  return ⟨fieldName, args, type, ← directives maxNesting true⟩

/-- Reads the definition of an enum value. -/
def enumValueDefinition : Parse EnumValueDefinition := do
  let _ ← description
  let valueName ← name
  if ["true", "false", "null"].contains valueName then failure
  return ⟨valueName, ← directives maxNesting true⟩

/-- Reads the interfaces that a type implements. -/
def implemented : Parse (List String) := do
  if ← optionalKeyword "implements" then separated '&' name else return []

/-- Reads the kind of an operation. -/
def operationKind : Parse OperationKind := do
  match ← name with
  | "query" => return .query
  | "mutation" => return .mutation
  | "subscription" => return .subscription
  | _ => failure

/-- Reads one root type of a schema definition. -/
def rootType : Parse (OperationKind × String) := do
  let kind ← operationKind
  mark ':'
  return (kind, ← name)

/-- Reads the root types and directives of a schema definition. -/
def schemaParts : Parse SchemaDefinition := do
  let dirs ← directives maxNesting true
  return ⟨dirs, ← group '\x7b' '\x7d' rootType⟩

/-- Reads a type definition after the keyword that tells its kind. -/
def typeParts (kind : String) : Parse TypeDefinition := do
  let typeName ← name
  match kind with
  | "scalar" => return ⟨typeName, ← directives maxNesting true, .scalar⟩
  | "type" =>
    let interfaces ← implemented
    let dirs ← directives maxNesting true
    return ⟨typeName, dirs, .object interfaces (← group '\x7b' '\x7d' fieldDefinition)⟩
  | "interface" =>
    let interfaces ← implemented
    let dirs ← directives maxNesting true
    return ⟨typeName, dirs, .interface interfaces (← group '\x7b' '\x7d' fieldDefinition)⟩
  | "union" =>
    let dirs ← directives maxNesting true
    let members ← if ← optionalMark '=' then separated '|' name else pure []
    return ⟨typeName, dirs, .union members⟩
  | "enum" =>
    let dirs ← directives maxNesting true
    return ⟨typeName, dirs, .enum (← group '\x7b' '\x7d' enumValueDefinition)⟩
  | "input" =>
    let dirs ← directives maxNesting true
    return ⟨typeName, dirs, .input (← group '\x7b' '\x7d' inputDefinition)⟩
  | _ => failure

/-- Whether an extension of a type adds nothing, which no extension may do. -/
def extensionIsEmpty (extension : TypeDefinition) : Bool :=
  extension.directives.isEmpty &&
    match extension.body with
    | .scalar => true
    | .object interfaces fields => interfaces.isEmpty && fields.isEmpty
    | .interface interfaces fields => interfaces.isEmpty && fields.isEmpty
    | .union members => members.isEmpty
    | .enum values => values.isEmpty
    | .input fields => fields.isEmpty

/-- Reads a place where a directive may stand. -/
def directiveLocation : Parse String := do
  let location ← name
  if directiveLocations.contains location then return location else failure

/-- Reads a directive definition after its keyword. -/
def directiveParts : Parse DirectiveDefinition := do
  mark '@'
  let directiveName ← name
  let args ← group '(' ')' inputDefinition
  let dirs ← directives maxNesting true
  let repeatable ← optionalKeyword "repeatable"
  keyword "on"
  return ⟨directiveName, args, dirs, repeatable, ← separated '|' directiveLocation⟩

/-- Reads an extension after its keyword. -/
def extensionParts : Parse SystemDefinition := do
  match ← name with
  | "schema" =>
    let extension ← schemaParts
    if extension.directives.isEmpty && extension.roots.isEmpty then failure
    return .extendSchema extension
  | "directive" =>
    mark '@'
    let extension : DirectiveExtension := ⟨← name, ← directives maxNesting true⟩
    if extension.directives.isEmpty then failure
    return .extendDirective extension
  | kind =>
    let extension ← typeParts kind
    if extensionIsEmpty extension then failure
    return .extendType extension

/-- Reads a definition that belongs to a schema, after its description. -/
def systemDefinition : Parse SystemDefinition := do
  match ← name with
  | "schema" =>
    let definition ← schemaParts
    if definition.roots.isEmpty then failure
    return .schema definition
  | "directive" => return .directive (← directiveParts)
  | "extend" => extensionParts
  | kind => return .type (← typeParts kind)

end Parse

end OperationClasses
