/-
Module: OperationClasses.Schema.Introspection
Purpose: Schemas from the answer of a server to the query for its own schema.
Main exports: Schema.ofIntrospection
-/
import OperationClasses.Schema.Construction
import OperationClasses.Document.Reader
import OperationClasses.Json.Basic

namespace OperationClasses

/-- A text that is one value without variables. -/
def Value.readConstant (text : String) : Option Value := do
  match ← Parse.value Parse.maxNesting true (← Token.scan text) with
  | (value, []) => return value
  | _ => none

namespace Introspection

/-- The value of a key of an object that is there and not null. -/
def given (key : String) (j : Json) : Option Json :=
  match j.get? key with
  | some .null => none
  | found => found

/-- The items of an array that must be there. An empty object or text counts as an empty array. -/
def itemsOf (key : String) (j : Json) : Option (List Json) :=
  match j.get? key with
  | some (.arr items) => some items
  | some (.obj []) => some []
  | some (.str "") => some []
  | _ => none

/-- Whether a text can be a name. -/
def isName (text : String) : Bool :=
  match text.toList with
  | [] => false
  | c :: rest => (c.isAlpha || c == '_') && rest.all fun d => d.isAlphanum || d == '_'

/-- The name of something that is described. -/
def nameOf (j : Json) : Option String := do
  let name ← (← given "name" j).str?
  if isName name then some name else none

/-- The kind that a described type says it has. -/
def kindOf (j : Json) : Option String := (j.get? "kind").bind (·.str?)

/-- What is described last under each name, in the order in which the names come first. -/
def lastOfEach {α : Type} (name : α → String) (items : List α) : List α :=
  (items.foldl (fun found a => setKey (name a) a found) []).map (·.2)

/-- A described enum value. -/
def enumValue (j : Json) : Option EnumValueDefinition := do
  let name ← nameOf j
  if ["true", "false", "null"].contains name then none else some ⟨name, []⟩

/-- A described type without what refers to other types. An object type, scalar or enum under the name of a
    standard type is that type, and no type of another kind may have such a name. -/
def outline (j : Json) : Option TypeDefinition := do
  let name ← nameOf j
  let reserved := standardType? name
  let own (body : TypeBody) : Option TypeDefinition :=
    if reserved.isNone then some ⟨name, [], body⟩ else none
  match ← kindOf j with
  | "SCALAR" => reserved <|> own .scalar
  | "OBJECT" => reserved <|> own (.object [] [])
  | "INTERFACE" => own (.interface [] [])
  | "UNION" => do
    let _ ← given "possibleTypes" j
    own (.union [])
  | "ENUM" => do
    let _ ← given "enumValues" j
    match reserved with
    | some standard => some standard
    | none => do own (.enum (lastOfEach (·.name) (← (← itemsOf "enumValues" j).mapM enumValue)))
  | "INPUT_OBJECT" => do
    let _ ← given "inputFields" j
    let exclusive := ((given "isOneOf" j).map (·.isTruthy)).getD false
    (own (.input [])).map fun t =>
      if exclusive then { t with directives := [⟨"oneOf", []⟩] } else t
  | _ => none

/-- The type of a reference, without two required layers around each other. `depth` bounds its layers. -/
def typeRef (known : List TypeDefinition) (depth : Nat) (j : Json) : Option TypeRef :=
  match depth with
  | 0 => none
  | depth + 1 =>
    match kindOf j with
    | some "LIST" => do return .list (← typeRef known depth (← given "ofType" j)) false
    | some "NON_NULL" => do
      match ← typeRef known depth (← given "ofType" j) with
      | .named name false => return .named name true
      | .list item false => return .list item true
      | _ => none
    | _ => do
      let name ← (← given "name" j).str?
      if known.any (·.name == name) then return .named name false else none

/-- The number of objects inside each other in a value. -/
def depthOf : Json → Nat
  | .obj members => depthOfMembers members + 1
  | _ => 1
where
  /-- The greatest depth among members. -/
  depthOfMembers : List (String × Json) → Nat
    | [] => 0
    | (_, value) :: rest => max (depthOf value) (depthOfMembers rest)

/-- The type of a reference, whose named type must be fit. -/
def typeOf (known : List TypeDefinition) (fit : TypeBody → Bool) (described : Json) :
    Option TypeRef := do
  let type ← typeRef known (depthOf described) described
  let core ← known.find? (·.name == type.core)
  if fit core.body then some type else none

/-- The name of the type of a reference without layers, which must be fit. -/
def namedType (known : List TypeDefinition) (fit : TypeBody → Bool) (described : Json) :
    Option String := do
  match ← typeOf known fit described with
  | .named name false => some name
  | _ => none

/-- Whether a field can have a type. -/
def isOutput : TypeBody → Bool
  | .input _ => false
  | _ => true

/-- Whether a type is an object type. -/
def isObject : TypeBody → Bool
  | .object .. => true
  | _ => false

/-- Whether a type is an interface. -/
def isInterface : TypeBody → Bool
  | .interface .. => true
  | _ => false

/-- A described argument or input field. -/
def inputDefinition (known : List TypeDefinition) (j : Json) : Option InputDefinition := do
  let name ← nameOf j
  let type ← typeOf known (·.isInput) (← j.get? "type")
  match given "defaultValue" j with
  | none => return ⟨name, type, none, []⟩
  | some default => return ⟨name, type, some (← Value.readConstant (← default.str?)), []⟩

/-- The described arguments or input fields under a key. -/
def inputDefinitions (known : List TypeDefinition) (key : String) (j : Json) :
    Option (List InputDefinition) := do
  return lastOfEach (·.name) (← (← itemsOf key j).mapM (inputDefinition known))

/-- A described field. -/
def fieldDefinition (known : List TypeDefinition) (j : Json) : Option FieldDefinition := do
  let name ← nameOf j
  let type ← typeOf known isOutput (← j.get? "type")
  return ⟨name, ← inputDefinitions known "args" j, type, []⟩

/-- The described fields of a type. -/
def fieldDefinitions (known : List TypeDefinition) (j : Json) : Option (List FieldDefinition) := do
  return lastOfEach (·.name) (← (← itemsOf "fields" j).mapM (fieldDefinition known))

/-- The described interfaces of a type. Only an interface may leave them out. -/
def interfacesOf (known : List TypeDefinition) (j : Json) : Option (List String) :=
  if (given "interfaces" j).isNone && kindOf j = some "INTERFACE" then some []
  else do (← itemsOf "interfaces" j).mapM (namedType known isInterface)

/-- A described type with what it refers to. -/
def typeDefinition (known : List TypeDefinition) (j : Json) : Option TypeDefinition := do
  let t ← outline j
  match t.body with
  | .object .. => return { t with body := .object (← interfacesOf known j) (← fieldDefinitions known j) }
  | .interface .. =>
    return { t with body := .interface (← interfacesOf known j) (← fieldDefinitions known j) }
  | .union _ =>
    return { t with
      body := .union (← (← itemsOf "possibleTypes" j).mapM (namedType known isObject)) }
  | .input _ => return { t with body := .input (← inputDefinitions known "inputFields" j) }
  | _ => return t

/-- The places where a described directive may stand. The keys of an object count as its items. -/
def locationsOf (j : Json) : Option (List String) := do
  let locations ← match j.get? "locations" with
    | some (.obj members) => some (members.map (·.1))
    | _ => (← itemsOf "locations" j).mapM (·.str?)
  if locations.all directiveLocations.contains then some locations else none

/-- A described directive. -/
def directive (known : List TypeDefinition) (j : Json) : Option DirectiveDefinition := do
  let name ← nameOf j
  let args ← inputDefinitions known "args" j
  let repeatable := ((given "isRepeatable" j).map (·.isTruthy)).getD false
  return ⟨name, args, [], repeatable, ← locationsOf j⟩

/-- The described directives. -/
def directives (known : List TypeDefinition) (description : Json) :
    Option (List DirectiveDefinition) :=
  match description.get? "directives" with
  | some (.arr items) => items.mapM (directive known)
  | some other => if other.isTruthy then none else some []
  | none => some []

/-- The name of a described root type. Without a description there is none. -/
def root (known : List TypeDefinition) (key : String) (description : Json) :
    Option (Option String) :=
  match given key description with
  | none => some none
  | some described => (namedType known isObject described).map some

end Introspection

open Introspection

/-- The schema that a server describes. Of types described twice the last description counts, and standard
    types stand in the place of their descriptions. -/
def Introspection.schemaOf (description : Json) : Option Schema := do
  let described ← (← itemsOf "types" description).mapM fun j => do return (← outline j, j)
  let last := lastOfEach (fun (t, _) => t.name) described
  let known := last.map (·.1)
  let types ← (last.filter fun (t, _) => !standardTypeNames.contains t.name).mapM
    fun (_, j) => typeDefinition known j
  return {
    types := types ++ standardTypesFor (known.map (·.name))
    directives := ← Introspection.directives known description
    queryType := ← root known "queryType" description
    mutationType := ← root known "mutationType" description
    subscriptionType := ← root known "subscriptionType" description }

/-- The schema in the answer of a server, with or without the rest of its response around it. -/
def Schema.ofIntrospection (answer : Json) : Option Schema :=
  let data := match answer with
    | .obj members => (members.lookup "data").getD answer
    | other => other
  match data.get? "__schema" with
  | some (.obj members) => Introspection.schemaOf (.obj members)
  | _ => none

end OperationClasses
