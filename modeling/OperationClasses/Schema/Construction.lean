/-
Module: OperationClasses.Schema.Construction
Purpose: Schemas from schema texts: definitions with their extensions, and the standard types they use. What is asked of
  the operations and fragments that stand among the definitions.
Main exports: executableFaults, Schema.ofDocument, Schema.read
-/
import OperationClasses.Document.Reader
import OperationClasses.Validation.Visit

namespace OperationClasses

/-- A schema without anything, on which no field has a type. -/
def emptySchema : Schema := ⟨[], [], none, none, none⟩

/-- The names of the types that an operation or fragment refers to. -/
def Definition.typeNames (x : Definition) : List String :=
  let conditions := (x.visits emptySchema).filterMap fun
    | .inline _ condition _ _ => condition
    | _ => none
  match x with
  | .operation o => o.declarations.map (·.type.core) ++ conditions
  | .fragment f => f.typeCondition :: conditions
  | .system _ => []

/-- The values that an operation or fragment gives to arguments of fields and variables. -/
def Definition.values (x : Definition) : List Value :=
  let given := ((x.visits emptySchema).filterMap (·.fieldArguments)).flatMap fun site =>
    site.given.map (·.value)
  match x with
  | .operation o => o.declarations.filterMap (·.default) ++ given
  | .fragment _ => given
  | .system _ => []

/-- What keeps the operations and fragments of a document from standing beside the definitions of a schema:
    types that are not defined there, faulty directives, and arguments or fields of objects given twice. -/
def executableFaults (d : Document) : List SchemaFault :=
  let types := SystemDefinition.typesOf d.systemDefinitions
  let directives := SystemDefinition.directivesOf d.systemDefinitions
  let declared := directives ++ standardDirectives.filter fun d => !directives.any (·.name == d.name)
  d.definitions.flatMap fun
    | .system _ => []
    | x =>
      let sites := x.sites emptySchema
      (x.typeNames.filter fun name => !types.any (·.name == name)).map .unknownType
        ++ (sites.flatMap (directiveFaults declared)).map .directive
        ++ (sites.flatMap fun site => repeatedDirectives declared site.directives).map
          (fun name => .directive (.repeated name))
        ++ ((x.visits emptySchema).filterMap (·.fieldArguments)).flatMap (fun site =>
          (repeats (site.given.map (·.name))).map (.argumentRepeated ""))
        ++ (x.values.flatMap (·.repeatedFields)).map .inputFieldRepeated

/-- The body of a type together with what an extension of the same kind adds. -/
def TypeBody.extend : TypeBody → TypeBody → TypeBody
  | .object is fs, .object is' fs' => .object (is ++ is') (fs ++ fs')
  | .interface is fs, .interface is' fs' => .interface (is ++ is') (fs ++ fs')
  | .union ms, .union ms' => .union (ms ++ ms')
  | .enum vs, .enum vs' => .enum (vs ++ vs')
  | .input fs, .input fs' => .input (fs ++ fs')
  | body, _ => body

/-- A type with everything its extensions add, in the order they are written. -/
def TypeDefinition.extendAll (extensions : List TypeDefinition) (t : TypeDefinition) : TypeDefinition :=
  extensions.foldl
    (fun t e =>
      if e.name = t.name then ⟨t.name, t.directives ++ e.directives, t.body.extend e.body⟩ else t) t

/-- The root type of a kind: what the schema definitions name last, or without any definition the type of
    the usual name. -/
def rootOf (definitions : List SystemDefinition) (types : List TypeDefinition) (kind : OperationKind)
    (usual : String) : Option String :=
  let given := (SystemDefinition.schemaPartsOf definitions).foldl
    (fun found s => (s.roots.reverse.lookup kind).orElse fun _ => found) none
  if (SystemDefinition.schemaOf definitions).isNone && types.any (·.name == usual) then some usual
  else given

/-- The standard types that a schema has: those for describing schemas, texts and truth values, and every
    other scalar that is referred to or defined. -/
def standardTypesFor (names : List String) : List TypeDefinition :=
  (standardScalarNames.filter fun name =>
    ["String", "Boolean"].contains name || names.contains name).map Standard.scalarType ++ metaTypes

/-- The schema that a document makes, or the first reason why it makes none. A definition under the name of a
    standard type gives way to the standard type. -/
def Schema.ofDocument (d : Document) : Except SchemaFault Schema :=
  let definitions := d.systemDefinitions
  match schemaFaults definitions ++ executableFaults d with
  | fault :: _ => throw fault
  | [] =>
    let defined := SystemDefinition.typesOf definitions
    let types := (defined.filter fun t => !standardTypeNames.contains t.name).map
      (·.extendAll (SystemDefinition.extensionsOf definitions))
    let names := definitions.flatMap (·.references) ++ defined.map (·.name)
    let directives := SystemDefinition.directivesOf definitions
    return {
      types := types ++ standardTypesFor names
      directives := directives ++ standardDirectives.filter fun d => !directives.any (·.name == d.name)
      queryType := rootOf definitions defined .query "Query"
      mutationType := rootOf definitions defined .mutation "Mutation"
      subscriptionType := rootOf definitions defined .subscription "Subscription" }

/-- The schema of a schema text. Sound operations and fragments in it are passed over. -/
def Schema.read (text : String) : Except SchemaFault Schema :=
  match Document.read text with
  | none => throw .unreadable
  | some document => Schema.ofDocument document

end OperationClasses
