/-
Module: OperationClasses.Schema.TypeRef
Purpose: References to types: a named type under any number of list layers, each required or not.
Main exports: TypeRef, TypeRef.core, TypeRef.text
-/

namespace OperationClasses

/-- A reference to a type. `required` says that the value at this layer is never null. -/
inductive TypeRef where
  | named (name : String) (required : Bool)
  | list (item : TypeRef) (required : Bool)
deriving DecidableEq, Repr, Inhabited

namespace TypeRef

/-- The named type under the list layers. -/
def core : TypeRef → String
  | .named name _ => name
  | .list item _ => item.core

/-- Whether the outermost layer is never null. -/
def isRequired : TypeRef → Bool
  | .named _ required => required
  | .list _ required => required

/-- The reference with its outermost layer nullable. -/
def nullable : TypeRef → TypeRef
  | .named name _ => .named name false
  | .list item _ => .list item false

/-- The reference as it is written in a document. -/
def text : TypeRef → String
  | .named name required => name ++ (if required then "!" else "")
  | .list item required => "[" ++ item.text ++ "]" ++ (if required then "!" else "")

end TypeRef

end OperationClasses
