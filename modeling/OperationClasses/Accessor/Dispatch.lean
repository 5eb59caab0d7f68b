/-
Module: OperationClasses.Accessor.Dispatch
Purpose: Conversions and the runtime types that use them; the body of an accessor as a choice by runtime type, what it
  does, and how it is written.
Main exports: Branch, Branch.condition, branchesOf, firstOverlap, Dispatch, Dispatch.run, Dispatch.text
-/
import OperationClasses.Accessor.Path
import OperationClasses.Text.Lines

namespace OperationClasses

/-! ### Branches -/

/-- A conversion and the runtime types that use it. -/
structure Branch where
  typenames : NameSet
  expression : String
deriving DecidableEq, Inhabited

namespace Branch

/-- A name in double quotes. -/
def quotedName (name : String) : String := "\"" ++ name ++ "\""

/-- The test that the runtime type is among those of the branch, or that it is not. One type is compared,
    several are listed. -/
def condition (b : Branch) (negated : Bool) : String :=
  match b.typenames.toList with
  | [name] => "typename " ++ (if negated then "!=" else "==") ++ " " ++ quotedName name
  | names =>
    "typename " ++ (if negated then "not in" else "in") ++ " ("
      ++ ", ".intercalate (names.map quotedName) ++ ")"

/-- Whether one branch is written before another, or either may be: by type names, then by
    conversion. -/
def le (a b : Branch) : Bool :=
  decide (a.typenames.toList < b.typenames.toList)
    || (a.typenames.toList == b.typenames.toList && decide (a.expression ≤ b.expression))

end Branch

/-- Adds the types of a conversion to the branch of that conversion, or a new branch at the end. -/
def addToBranch (types : NameSet) (expression : String) : List Branch → List Branch
  | [] => [⟨types, expression⟩]
  | b :: rest =>
    if b.expression = expression then ⟨b.typenames ∪ types, expression⟩ :: rest
    else b :: addToBranch types expression rest

/-- One branch for each conversion of the paths, in order of first appearance. -/
def branchesOf (paths : List TypedPath) : List Branch :=
  paths.foldl (fun branches p => addToBranch p.types p.path.expression branches) []

/-- The types that the first overlapping pair of branches shares. Pairs are taken in order, the first
    branch with each later one before the second. -/
def firstOverlap : List Branch → Option NameSet
  | [] => none
  | b :: rest =>
    match rest.find? fun other => !(b.typenames ∩ other.typenames).isEmpty with
    | some other => some (b.typenames ∩ other.typenames)
    | none => firstOverlap rest

/-- The branches in the order they are written. -/
def sortBranches (branches : List Branch) : List Branch := branches.mergeSort Branch.le

/-! ### The choice by runtime type -/

/-- How an accessor chooses a conversion by the runtime type of its object. -/
inductive Dispatch where
  /-- no runtime type has the field -/
  | absent
  /-- every runtime type has the field, with the same conversion -/
  | always (expression : String)
  /-- some runtime types have the field, all with the same conversion -/
  | guarded (branch : Branch)
  /-- conversions differ; `exhaustive` says that every runtime type has one -/
  | cases (branches : List Branch) (exhaustive : Bool)
deriving DecidableEq, Inhabited

/-- What an accessor does for an object of some runtime type. -/
inductive Outcome where
  /-- it converts the value -/
  | converts (expression : String)
  /-- there is no value -/
  | nothing
  /-- the runtime type is not one that the schema knows here -/
  | unexpected
deriving DecidableEq, Repr, Inhabited

namespace Dispatch

/-- What the accessor does for a runtime type: the first branch with the type decides. -/
def run (d : Dispatch) (typename : String) : Outcome :=
  match d with
  | .absent => .nothing
  | .always expression => .converts expression
  | .guarded b => if typename ∈ b.typenames then .converts b.expression else .nothing
  | .cases branches exhaustive =>
    match branches.find? fun b => typename ∈ b.typenames with
    | some b => .converts b.expression
    | none => if exhaustive then .unexpected else .nothing

/-- The body of an accessor that never has a value. -/
def absentText : String :=
  "# The fragments this field is selected through rule out every possible\n"
    ++ "# runtime type, so it never has a value.\nreturn None"

/-- The tests and conversions of branches, the first with `if`. -/
def caseLines (keyword : String) : List Branch → List String
  | [] => []
  | b :: rest =>
    (keyword ++ " " ++ b.condition false ++ ":") :: Text.indent 1 b.expression :: caseLines "elif" rest

/-- The body of the accessor of a field. -/
def text (field : String) : Dispatch → String
  | .absent => absentText
  | .always expression => expression
  | .guarded b =>
    Text.unlines ["typename = self.graphql_typename", "if " ++ b.condition true ++ ":",
      "    return None", b.expression]
  | .cases branches exhaustive =>
    let last := if exhaustive then
        ["else:", "    raise self._unexpected_type(\"" ++ field ++ "\", typename)"]
      else ["return None"]
    Text.unlines ("typename = self.graphql_typename" :: caseLines "if" branches ++ last)

end Dispatch

end OperationClasses
