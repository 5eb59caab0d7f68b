/-
Module: OperationClasses.Conversion.Output
Purpose: How the conversion of a raw response value is written: statements in an accessor body,
  expressions inside comprehensions.
Main exports: Conversion.text, outputConversion
-/
import OperationClasses.Conversion.Basic

namespace OperationClasses

namespace Conversion

/-- A value as it stands at a level: at level 0, the accessor body, it is returned. -/
def atLevel (level : Int) (value : String) : String := if level = 0 then "return " ++ value else value

/-- A conversion as it is written at a level: at level 0 a block of statements that ends by returning, in
    which a guard for a missing value comes before what handles a present one, and at any other level an
    expression. A comprehension is one level above its items. -/
def text (fill : String → Except Text.HoleError String) (level : Int) :
    Conversion → Except Text.HoleError String
  | .core binding => do return atLevel level (← fill binding)
  | .orNone binding rest => do
    let present ← rest.text fill level
    return if level = 0 then "if " ++ binding ++ " is None:\n    return None\n" ++ present
      else "None if " ++ binding ++ " is None else " ++ present
  | .each element binding rest => do
    let inner ← rest.text fill (level + 1)
    return atLevel level (Text.unlines
      ["[", Text.indent 1 inner, Text.indent 1 ("for " ++ element ++ " in " ++ binding), "]"])
  | .copy binding => return atLevel level ("list(" ++ binding ++ ")")

end Conversion

/-- The hole of an output template. -/
def rawValueHole : String := "raw_value"

/-- A conversion of `binding` through `layers` as it is written at a level, which is 0 for an accessor body. -/
def outputConversion (layers : List Layer) (binding : String) (depth level : Int) (template : String) :
    Except ConversionFault String := do
  let conversion ← Conversion.plan layers binding depth
  let fill := fun value => Text.fillOne rawValueHole value template
  (conversion.text fill level).mapError .template

end OperationClasses
