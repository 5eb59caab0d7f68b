/-
Module: OperationClasses.Conversion.Input
Purpose: How the value of a variable or input field is written for sending: one expression, shortened
  where the items need no change.
Main exports: Conversion.inputText, Conversion.planInput, inputConversion
-/
import OperationClasses.Conversion.Basic

namespace OperationClasses

namespace Conversion

/-- A conversion on one line. `fill` writes the template of the named type for a binding. -/
def inputText (fill : String → Except Text.HoleError String) :
    Conversion → Except Text.HoleError String
  | .core binding => fill binding
  | .orNone binding rest => do
    return "None if " ++ binding ++ " is None else " ++ (← rest.inputText fill)
  | .each element binding rest => do
    return "[" ++ (← rest.inputText fill) ++ " for " ++ element ++ " in " ++ binding ++ "]"
  | .copy binding => return "list(" ++ binding ++ ")"

/-- The name of the items of a list that belongs to a variable, with `depth` list layers left. -/
def itemName (variableName : String) (depth : Int) : String := variableName ++ toString depth

/-- The conversion of `binding` through its layers, shortened where the text of the inner conversion is
    just the name it reads: a list is then copied, and a missing value needs no guard. -/
def planInput (fill : String → Except Text.HoleError String) (variableName : String)
    (layers : List Layer) (binding : String) (depth : Int) : Except ConversionFault Conversion :=
  match layers with
  | [] => return .core binding
  | .nullable :: rest => do
    let inner ← planInput fill variableName rest binding depth
    let text ← (inner.inputText fill).mapError .template
    return if text = binding then inner else .orNone binding inner
  | .list :: rest => do
    let item := itemName variableName depth
    let inner ← planInput fill variableName rest item (depth - 1)
    let text ← (inner.inputText fill).mapError .template
    return if text = item then .copy binding else .each item binding inner
  | .unknown label :: _ => throw (.unknownLayer label)

end Conversion

/-- The hole of an input template. -/
def valueHole : String := "value"

/-- The expression that sends `binding` through its layers. The items of its lists are named after
    `variableName`. -/
def inputConversion (layers : List Layer) (binding variableName : String) (depth : Int)
    (template : String) : Except ConversionFault String := do
  let fill := fun value => Text.fillOne valueHole value template
  let conversion ← Conversion.planInput fill variableName layers binding depth
  (conversion.inputText fill).mapError .template

end OperationClasses
