/-
Module: OperationClasses.Scalar.Value
Purpose: The values that the shipped converters give, and how JSON is converted to them and back.
Main exports: ScalarKind, ScalarValue, ScalarKind.deserialize, ScalarValue.serialize, ValueFault
-/
import OperationClasses.Calendar.DateTime
import OperationClasses.Json.Basic
import OperationClasses.Scalar.Uuid

namespace OperationClasses

/-- What a shipped converter converts to. -/
inductive ScalarKind where
  | dateTime
  | date
  | uuid
  | json
deriving DecidableEq, Repr, Inhabited

/-- A converted value. -/
inductive ScalarValue where
  | dateTime (value : Calendar.DateTime)
  | date (value : Calendar.Date)
  | uuid (value : Uuid)
  | json (value : Json)

/-- Why a JSON value cannot be converted. -/
inductive ValueFault where
  /-- it is not a string -/
  | notText (scalar : String) (value : Json)
  | calendar (fault : Calendar.CalendarFault)
  | uuid (fault : UuidFault)

/-- The message of a value that cannot be converted. -/
def ValueFault.message : ValueFault → String
  | .notText scalar value => "Expected a string for " ++ scalar ++ ", got " ++ value.kindName
  | .calendar fault => fault.message
  | .uuid fault => fault.message

/-- The text of a value of a scalar that is sent as a string. -/
def requireText (scalar : String) : Json → Except ValueFault String
  | .str text => return text
  | value => throw (.notText scalar value)

/-- Converts a JSON value. -/
def ScalarKind.deserialize (kind : ScalarKind) (value : Json) : Except ValueFault ScalarValue :=
  match kind with
  | .dateTime => do
    let text ← requireText "DateTime" value
    return .dateTime (← (Calendar.DateTime.read text).mapError .calendar)
  | .date => do
    let text ← requireText "Date" value
    return .date (← (Calendar.Date.read text).mapError .calendar)
  | .uuid => do
    let text ← requireText "UUID" value
    return .uuid (← (Uuid.read text).mapError .uuid)
  | .json => return .json value

namespace ScalarValue

/-- The JSON value that is sent for a converted value. -/
def serialize : ScalarValue → Json
  | .dateTime d => .str d.text
  | .date d => .str d.text
  | .uuid u => .str u.text
  | .json value => value

/-- How a converted value is shown. JSON is not shown. -/
def describe : ScalarValue → Option String
  | .dateTime d => some (String.ofList (d.chars ' '))
  | .date d => some d.text
  | .uuid u => some u.text
  | .json _ => none

end ScalarValue

end OperationClasses
