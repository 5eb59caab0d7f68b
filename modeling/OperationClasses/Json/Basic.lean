/-
Module: OperationClasses.Json.Basic
Purpose: JSON values with exact integers and ordered objects.
Main exports: Json, Json.get?, Json.isTruthy, Json.kindName
-/
import OperationClasses.Decimal.Binary64
import OperationClasses.KeyedList

namespace OperationClasses

/-- A JSON value. Integers are unbounded and kept apart from other numbers; the members of an object keep
    their order, and a key stands in it once. -/
inductive Json where
  | null
  | bool (value : Bool)
  | int (value : Int)
  | float (value : Binary64)
  | str (value : String)
  | arr (items : List Json)
  | obj (members : List (String × Json))
deriving BEq, Repr, Inhabited

namespace Json

/-- The value of a key of an object. -/
def get? (key : String) : Json → Option Json
  | .obj members => members.lookup key
  | _ => none

/-- The text of a string value. -/
def str? : Json → Option String
  | .str value => some value
  | _ => none

/-- Whether a value counts as present: neither null, false or zero nor an empty text or collection. -/
def isTruthy : Json → Bool
  | .null => false
  | .bool value => value
  | .int value => value != 0
  | .float value => !value.isZero
  | .str value => value != ""
  | .arr items => !items.isEmpty
  | .obj members => !members.isEmpty

mutual

/-- Whether all numbers in a value are finite. -/
def isFinite : Json → Bool
  | .float value => value.isFinite
  | .arr items => areFinite items
  | .obj members => membersAreFinite members
  | _ => true

/-- Whether all numbers in the items of an array are finite. -/
def areFinite : List Json → Bool
  | [] => true
  | item :: rest => item.isFinite && areFinite rest

/-- Whether all numbers in the members of an object are finite. -/
def membersAreFinite : List (String × Json) → Bool
  | [] => true
  | (_, value) :: rest => value.isFinite && membersAreFinite rest

end

/-- The name of the kind of a value, as messages give it. -/
def kindName : Json → String
  | .null => "NoneType"
  | .bool _ => "bool"
  | .int _ => "int"
  | .float _ => "float"
  | .str _ => "str"
  | .arr _ => "list"
  | .obj _ => "dict"

end Json

end OperationClasses
