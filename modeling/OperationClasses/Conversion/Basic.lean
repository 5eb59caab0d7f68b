/-
Module: OperationClasses.Conversion.Basic
Purpose: The shape of the code that takes a value through its layers, apart from how it is written.
Main exports: ConversionFault, Conversion, Conversion.plan
-/
import OperationClasses.Layer
import OperationClasses.Text.Holes

namespace OperationClasses

/-- Why a conversion cannot be written. -/
inductive ConversionFault where
  /-- a layer that no conversion knows -/
  | unknownLayer (label : String)
  /-- the template of the named type cannot be filled -/
  | template (fault : Text.HoleError)
deriving DecidableEq, Repr, Inhabited

/-- The steps of a conversion. Each step reads the value that `binding` names. -/
inductive Conversion where
  /-- convert the value with the template of the named type -/
  | core (binding : String)
  /-- nothing for nothing, otherwise go on -/
  | orNone (binding : String) (rest : Conversion)
  /-- go on with each item of the list, under the name `element` -/
  | each (element binding : String) (rest : Conversion)
  /-- the items of the list as they are -/
  | copy (binding : String)
deriving DecidableEq, Repr, Inhabited

namespace Conversion

/-- The name of the items of a list that has `depth` list layers left below it. -/
def elementName (depth : Int) : String :=
  if depth = 0 then "raw_value" else "inner_value" ++ toString depth

/-- The conversion of a raw value through its layers. `depth` counts the list layers that are left, this
    one included. -/
def plan (layers : List Layer) (binding : String) (depth : Int) : Except ConversionFault Conversion :=
  match layers with
  | [] => return .core binding
  | .nullable :: rest => return .orNone binding (← plan rest binding depth)
  | .list :: rest =>
    return .each (elementName (depth - 1)) binding (← plan rest (elementName (depth - 1)) (depth - 1))
  | .unknown label :: _ => throw (.unknownLayer label)

end Conversion

end OperationClasses
