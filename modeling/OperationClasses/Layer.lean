/-
Module: OperationClasses.Layer
Purpose: The layers around the named type of a reference, outermost first, and the signatures they give.
Main exports: Layer, TypeRef.layers, listDepth, rewrap
-/
import OperationClasses.Schema.TypeRef

namespace OperationClasses

/-- One layer around a named type. -/
inductive Layer where
  /-- the value may be null -/
  | nullable
  /-- the value is a list of what the inner layers describe -/
  | list
  /-- a label that no type reference gives, which no conversion knows -/
  | unknown (label : String)
deriving DecidableEq, Repr, Inhabited

/-- The layers of a type reference, outermost first: a nullable layer for every layer that is not
    required, a list layer for every list. -/
def TypeRef.layers : TypeRef → List Layer
  | .named _ required => if required then [] else [.nullable]
  | .list item required => (if required then [.list] else [.nullable, .list]) ++ item.layers

/-- The number of list layers. -/
def listDepth (layers : List Layer) : Nat := layers.count .list

/-- The signature of one layer around an inner signature. -/
def Layer.wrap : Layer → String → String
  | .list, signature => "List[" ++ signature ++ "]"
  | _, signature => "Optional[" ++ signature ++ "]"

/-- The signature of a value with the given layers around a named type of signature `core`. -/
def rewrap (core : String) (layers : List Layer) : String := layers.foldr Layer.wrap core

end OperationClasses
