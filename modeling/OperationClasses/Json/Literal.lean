/-
Module: OperationClasses.Json.Literal
Purpose: JSON values as literals of the generated modules, which messages and digests show.
Main exports: Json.literal
-/
import OperationClasses.Json.Basic
import OperationClasses.Decimal.Shortest
import OperationClasses.Text.Quoted

namespace OperationClasses.Json

mutual

/-- The literal of a value. -/
def literal : Json → String
  | .null => "None"
  | .bool value => if value then "True" else "False"
  | .int value => toString value
  | .float value => value.text
  | .str value => Text.quoted value
  | .arr items => "[" ++ ", ".intercalate (literalItems items) ++ "]"
  | .obj members => "\x7b" ++ ", ".intercalate (literalMembers members) ++ "\x7d"

/-- The literals of the items of an array. -/
def literalItems : List Json → List String
  | [] => []
  | item :: rest => item.literal :: literalItems rest

/-- The literals of the members of an object. -/
def literalMembers : List (String × Json) → List String
  | [] => []
  | (key, value) :: rest => (Text.quoted key ++ ": " ++ value.literal) :: literalMembers rest

end

end OperationClasses.Json
