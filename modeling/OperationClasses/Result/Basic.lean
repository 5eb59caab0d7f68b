/-
Module: OperationClasses.Result.Basic
Purpose: The values that generated classes wrap, read from the responses of a server.
Main exports: ResultClass, ResultObject, Response, Response.ofResult, ResultObject.typename,
  UnexpectedType, Response.sameResult, Response.sameDigest
-/
import OperationClasses.Json.Equality
import OperationClasses.Json.Literal

namespace OperationClasses

/-- A class of results. Classes are told apart by `id`, since several may have one name. The class of an
    operation takes whole responses. -/
structure ResultClass where
  id : Nat
  name : String
  isOperation : Bool
  possibleTypes : List String
deriving DecidableEq, Repr, Inhabited

/-- A part of a response as an object of a class, with the errors that came beside it. -/
structure ResultObject where
  resultClass : ResultClass
  data : Json
  errors : Json
deriving Inhabited

/-- What a response gives: data, or errors and nothing else. -/
inductive Response where
  | object (object : ResultObject)
  | onlyErrors (errors : Json)
deriving Inhabited

/-- Why something cannot be read of a result. -/
inductive ResultFault where
  /-- an object without a key -/
  | missingKey (key : String)
  /-- a value that has no keys -/
  | noKeys (value : Json)
  /-- a response that is not an object -/
  | notAResponse (value : Json)
deriving Inhabited

/-- The message of a result that cannot be read. -/
def ResultFault.message : ResultFault → String
  | .missingKey key => Text.quoted key
  | .noKeys (.str _) => "string indices must be integers, not 'str'"
  | .noKeys (.arr _) => "list indices must be integers or slices, not str"
  | .noKeys value => Text.quoted value.kindName ++ " object is not subscriptable"
  | .notAResponse value => Text.quoted value.kindName ++ " object has no attribute 'get'"

/-- The value of a key that an object must have. -/
def Json.member (key : String) (value : Json) : Except ResultFault Json :=
  match value with
  | .obj members =>
    match members.lookup key with
    | some found => return found
    | none => throw (.missingKey key)
  | _ => throw (.noKeys value)

namespace ResultObject

/-- The name of the runtime type: the only possible one, else what the data says. -/
def typename (o : ResultObject) : Except ResultFault Json :=
  match o.resultClass.possibleTypes with
  | [type] => return .str type
  | _ => o.data.member "__typename"

/-- How an object is shown. -/
def describe (o : ResultObject) : String := o.resultClass.name ++ "(" ++ o.data.literal ++ ")"

end ResultObject

/-- A runtime type that an accessor does not know. -/
structure UnexpectedType where
  field : String
  observed : String
  expected : List String
deriving DecidableEq, Repr, Inhabited

/-- The message of an unknown runtime type. -/
def UnexpectedType.message (u : UnexpectedType) : String :=
  "Expected " ++ u.field ++ " to be one of " ++ ", ".intercalate u.expected ++ ", but got "
    ++ u.observed

/-- The fault of an accessor that does not know a runtime type. -/
def ResultObject.unexpected (o : ResultObject) (field observed : String) : UnexpectedType :=
  ⟨field, observed, o.resultClass.possibleTypes⟩

namespace Response

/-- The response that the class of an operation takes from the JSON that a server sent: its data with the
    errors beside it, or its errors alone if there is no data. -/
def ofResult (c : ResultClass) (result : Json) : Except ResultFault Response :=
  match result with
  | .obj members =>
    let errors := (members.lookup "errors").getD .null
    match (members.lookup "data").getD .null with
    | .null => return .onlyErrors (if errors.isTruthy then errors else .arr [])
    | data => return .object ⟨c, data, errors⟩
  | other => throw (.notAResponse other)

/-- How a response is shown. -/
def describe : Response → String
  | .object o => o.describe
  | .onlyErrors errors => "OnlyErrors(errors=" ++ errors.literal ++ ")"

/-- Whether two responses are equal: objects of one class with the same data, their errors aside. Errors
    alone are equal only to themselves, which `same` tells. -/
def sameResult (same : Bool) : Response → Response → Bool
  | .object a, .object b => a.resultClass == b.resultClass && b.data.sameData a.data
  | .onlyErrors _, .onlyErrors _ => same
  | _, _ => false

/-- Whether two responses have one digest. That of an object is taken from its class and from how its data
    is shown, so equal data may have several. -/
def sameDigest (same : Bool) : Response → Response → Bool
  | .object a, .object b => a.resultClass == b.resultClass && a.data.literal == b.data.literal
  | .onlyErrors _, .onlyErrors _ => same
  | _, _ => false

end Response

end OperationClasses
