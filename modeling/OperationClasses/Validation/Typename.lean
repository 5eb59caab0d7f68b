/-
Module: OperationClasses.Validation.Typename
Purpose: The rule that selections on interfaces and unions ask for the type name, which accessors need to
  tell runtime types apart.
Main exports: TypenameFault, typenameFaults
-/
import OperationClasses.Validation.Visit

namespace OperationClasses

/-- A field whose values can have several types and whose selections do not ask for the type name. -/
structure TypenameFault where
  field : String
  type : String
  isInterface : Bool
deriving DecidableEq, Repr, Inhabited

/-- The message of a missing type name. -/
def TypenameFault.message (f : TypenameFault) : String :=
  "Interfaces and unions must include the __typename field ('" ++ f.field ++ "' returns "
    ++ (if f.isInterface then "an interface " else "a union ") ++ f.type
    ++ " but doesn't select __typename)"

/-- The code that marks a missing type name among other faults. -/
def TypenameFault.code : String := "interfaceOrUnionMissingTypename"

/-- Whether a selection is the type name under its own name. -/
def Selection.isTypename : Selection → Bool
  | .leaf head => head.name == typenameField.name && head.aliasName.isNone
  | .nested head _ => head.name == typenameField.name && head.aliasName.isNone
  | _ => false

/-- What the rule finds at a member of a selection set. -/
def typenameFaultAt (s : Schema) : Visit → Option TypenameFault
  | .field _ (some definition) head (some below) =>
    match s.core? definition.type with
    | some t =>
      if t.body.isAbstract && !below.isEmpty && !below.any (·.isTypename) then
        some ⟨head.name, t.name,
          match t.body with
          | .interface .. => true
          | _ => false⟩
      else none
    | none => none
  | _ => none

/-- The fields of a document that miss the type name, in document order. -/
def typenameFaults (s : Schema) (d : Document) : List TypenameFault :=
  (d.definitions.flatMap (·.visits s)).filterMap (typenameFaultAt s)

end OperationClasses
