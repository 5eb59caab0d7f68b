/-
Module: OperationClasses.Schema.Rules
Purpose: What makes a list of schema definitions unfit to become a schema.
Main exports: SchemaFault, schemaFaults
-/
import OperationClasses.Schema.Basic
import OperationClasses.Validation.Directives

namespace OperationClasses

/-- Why definitions do not make a schema. -/
inductive SchemaFault where
  | unreadable
  | schemaRepeated
  | rootRepeated (kind : OperationKind)
  | typeRepeated (name : String)
  | memberRepeated (type member : String)
  | argumentRepeated (owner argument : String)
  | directiveRepeated (name : String)
  | unknownType (name : String)
  | impossibleExtension (name : String)
  | inputFieldRepeated (field : String)
  /-- an argument of a standard directive that is no text -/
  | notText (directive argument : String)
  | directive (fault : DirectiveFault)
  | unreadableDescription (part : String)
deriving DecidableEq, Repr, Inhabited

namespace SystemDefinition

/-- The type definitions among schema definitions. -/
def typesOf (definitions : List SystemDefinition) : List TypeDefinition :=
  definitions.filterMap fun
    | .type t => some t
    | _ => none

/-- The type extensions among schema definitions. -/
def extensionsOf (definitions : List SystemDefinition) : List TypeDefinition :=
  definitions.filterMap fun
    | .extendType t => some t
    | _ => none

/-- The directive definitions among schema definitions. -/
def directivesOf (definitions : List SystemDefinition) : List DirectiveDefinition :=
  definitions.filterMap fun
    | .directive d => some d
    | _ => none

/-- The first schema definition, if there is one. -/
def schemaOf (definitions : List SystemDefinition) : Option SchemaDefinition :=
  definitions.findSome? fun
    | .schema s => some s
    | _ => none

/-- The directive extensions among schema definitions. -/
def directiveExtensionsOf (definitions : List SystemDefinition) : List DirectiveExtension :=
  definitions.filterMap fun
    | .extendDirective e => some e
    | _ => none

/-- Schema definitions and extensions in order. -/
def schemaPartsOf (definitions : List SystemDefinition) : List SchemaDefinition :=
  definitions.filterMap fun
    | .schema s => some s
    | .extendSchema s => some s
    | _ => none

end SystemDefinition

/-- The names of the fields or values that a definition or extension gives its type. -/
def TypeDefinition.memberNames (t : TypeDefinition) : List String :=
  match t.body with
  | .enum values => values.map (·.name)
  | .input fields => fields.map (·.name)
  | _ => t.outputFields.map (·.name)

/-- The names of the types that a definition refers to. -/
def TypeDefinition.references (t : TypeDefinition) : List String :=
  let ofField (f : FieldDefinition) := f.type.core :: f.arguments.map (·.type.core)
  t.interfaces ++ t.outputFields.flatMap ofField ++ t.inputFields.map (·.type.core)
    ++ match t.body with
      | .union members => members
      | _ => []

/-- The names of the types that a schema definition refers to. -/
def SystemDefinition.references : SystemDefinition → List String
  | .schema s => s.roots.map (·.2)
  | .extendSchema s => s.roots.map (·.2)
  | .type t => t.references
  | .extendType t => t.references
  | .directive d => d.arguments.map (·.type.core)
  | .extendDirective _ => []

/-- The directives of an argument or input field. -/
def InputDefinition.site (location : String) (d : InputDefinition) : DirectiveSite :=
  ⟨location, d.directives⟩

/-- Where directives stand in a type definition or extension. -/
def TypeDefinition.sites (t : TypeDefinition) : List DirectiveSite :=
  let argumentSites (f : FieldDefinition) :=
    ⟨"FIELD_DEFINITION", f.directives⟩ :: f.arguments.map (·.site "ARGUMENT_DEFINITION")
  match t.body with
  | .scalar => [⟨"SCALAR", t.directives⟩]
  | .object _ fields => ⟨"OBJECT", t.directives⟩ :: fields.flatMap argumentSites
  | .interface _ fields => ⟨"INTERFACE", t.directives⟩ :: fields.flatMap argumentSites
  | .union _ => [⟨"UNION", t.directives⟩]
  | .enum values => ⟨"ENUM", t.directives⟩ :: values.map fun v => ⟨"ENUM_VALUE", v.directives⟩
  | .input fields =>
    ⟨"INPUT_OBJECT", t.directives⟩ :: fields.map (·.site "INPUT_FIELD_DEFINITION")

/-- Where directives stand in a schema definition. -/
def SystemDefinition.sites : SystemDefinition → List DirectiveSite
  | .schema s => [⟨"SCHEMA", s.directives⟩]
  | .extendSchema s => [⟨"SCHEMA", s.directives⟩]
  | .type t => t.sites
  | .extendType t => t.sites
  | .directive d =>
    ⟨"DIRECTIVE_DEFINITION", d.directives⟩ :: d.arguments.map (·.site "ARGUMENT_DEFINITION")
  | .extendDirective e => [⟨"DIRECTIVE_DEFINITION", e.directives⟩]

/-- The arguments that a field of a type declares more than once. -/
def TypeDefinition.argumentFaults (t : TypeDefinition) : List SchemaFault :=
  t.outputFields.flatMap fun f =>
    (repeats (f.arguments.map (·.name))).map (.argumentRepeated (t.name ++ "." ++ f.name))

/-- The arguments and input fields that a type declares. -/
def TypeDefinition.inputs (t : TypeDefinition) : List InputDefinition :=
  t.outputFields.flatMap (·.arguments) ++ t.inputFields

/-- The arguments and input fields that a schema definition declares. -/
def SystemDefinition.inputs : SystemDefinition → List InputDefinition
  | .type t => t.inputs
  | .extendType t => t.inputs
  | .directive d => d.arguments
  | _ => []

/-- The fault of an argument that the first directive of a name gives and that is no text. -/
def textFault (directive argument : String) (directives : List Directive) : List SchemaFault :=
  match (directives.find? (·.name == directive)).bind (·.argument? argument) with
  | none => []
  | some (.string _ _) => []
  | some _ => [.notText directive argument]

/-- Reasons of deprecation in an own type that are no texts, and the same of where a scalar is specified.
    A definition under the name of a standard type gives way to that type. -/
def TypeDefinition.textFaults (isExtension : Bool) (t : TypeDefinition) : List SchemaFault :=
  if standardTypeNames.contains t.name then []
  else
    let members : List (List Directive) := match t.body with
      | .enum values => values.map (·.directives)
      | _ => t.outputFields.map (·.directives) ++ t.inputs.map (·.directives)
    let specified := match t.body, isExtension with
      | .scalar, false => textFault "specifiedBy" "url" t.directives
      | _, _ => []
    members.flatMap (textFault "deprecated" "reason") ++ specified

/-- Reasons of deprecation in a schema definition that are no texts, and the same of where a scalar is
    specified. -/
def SystemDefinition.textFaults : SystemDefinition → List SchemaFault
  | .type t => t.textFaults false
  | .extendType t => t.textFaults true
  | .directive d =>
    (d.directives :: d.arguments.map (·.directives)).flatMap (textFault "deprecated" "reason")
  | .extendDirective e => textFault "deprecated" "reason" e.directives
  | _ => []

/-- What keeps definitions from making a schema: something given twice, a reference to a type that nobody
    defines, an extension of nothing or of another kind, or a faulty directive. -/
def schemaFaults (definitions : List SystemDefinition) : List SchemaFault :=
  let types := SystemDefinition.typesOf definitions
  let extensions := SystemDefinition.extensionsOf definitions
  let directives := SystemDefinition.directivesOf definitions
  let parts := SystemDefinition.schemaPartsOf definitions
  let declared := directives ++ standardDirectives.filter fun d => !directives.any (·.name == d.name)
  let schemas := definitions.filter fun
    | .schema _ => true
    | _ => false
  let kinds := parts.flatMap fun s => s.roots.map (·.1.text)
  let members (t : TypeDefinition) :=
    t.memberNames ++ (extensions.filter (·.name == t.name)).flatMap (·.memberNames)
  let directivesOn (t : TypeDefinition) :=
    t.directives ++ (extensions.filter (·.name == t.name)).flatMap (·.directives)
  let directiveExtensions := SystemDefinition.directiveExtensionsOf definitions
  let directivesOnDirective (d : DirectiveDefinition) :=
    d.directives ++ (directiveExtensions.filter (·.name == d.name)).flatMap (·.directives)
  let known := types.map (·.name) ++ standardTypeNames
  (if 1 < schemas.length then [.schemaRepeated] else [])
    ++ (parts.flatMap fun s => s.roots.filterMap fun (kind, _) =>
      if (repeats kinds).contains kind.text then some (.rootRepeated kind) else none)
    ++ (repeats (types.map (·.name))).map .typeRepeated
    ++ types.flatMap (fun t => (repeats (members t)).map (.memberRepeated t.name))
    ++ types.flatMap (·.argumentFaults) ++ extensions.flatMap (·.argumentFaults)
    ++ directives.flatMap (fun d =>
      (repeats (d.arguments.map (·.name))).map (.argumentRepeated ("@" ++ d.name)))
    ++ (repeats (directives.map (·.name))).map .directiveRepeated
    ++ (definitions.flatMap (·.references)).filterMap (fun name =>
      if known.contains name then none else some (.unknownType name))
    ++ extensions.filterMap (fun e =>
      match types.find? (·.name == e.name) with
      | some t => if t.body.sameKind e.body then none else some (.impossibleExtension e.name)
      | none => some (.impossibleExtension e.name))
    ++ directiveExtensions.filterMap (fun e =>
      if directives.any (·.name == e.name) then none else some (.impossibleExtension e.name))
    ++ (definitions.flatMap (·.inputs)).flatMap (fun d =>
      (d.default.elim [] (·.repeatedFields)).map .inputFieldRepeated)
    ++ (definitions.flatMap (·.sites)).flatMap (fun site =>
      (directiveFaults declared site).map .directive)
    ++ directives.flatMap (fun d =>
      (repeatedDirectives declared (directivesOnDirective d)).map fun name =>
        .directive (.repeated name))
    ++ types.flatMap (fun t =>
      (repeatedDirectives declared (directivesOn t)).map fun name => .directive (.repeated name))
    ++ (repeatedDirectives declared (parts.flatMap (·.directives))).map
      (fun name => .directive (.repeated name))
    ++ ((definitions.flatMap (·.sites)).flatMap fun site =>
      (repeatedDirectives declared site.directives).map fun name => .directive (.repeated name))
    ++ definitions.flatMap (·.textFaults)

end OperationClasses
