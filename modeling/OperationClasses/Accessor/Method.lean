/-
Module: OperationClasses.Accessor.Method
Purpose: The accessors of a result class: those with a fixed body and those that depend on the selections
  of a field.
Main exports: Method, Method.merge, Method.signature, Method.body, Method.describe
-/
import OperationClasses.Accessor.FieldAccess

namespace OperationClasses

/-- An accessor of a result class. -/
inductive Method where
  | fixed (name signature body : String)
  | field (access : FieldAccess)
deriving DecidableEq, Inhabited

namespace Method

/-- The name of an accessor. -/
def name : Method → String
  | .fixed name _ _ => name
  | .field access => access.name

/-- Adds another accessor of the same name to this one: a fixed one takes only its equal, one of a field
    takes the paths of another of a field. Nothing stands for two accessors that do not fit. -/
def merge (m other : Method) : Except InvariantFault (Option Method) :=
  match m, other with
  | .fixed .., _ => return if m = other then some m else none
  | .field access, .field more => do return some (.field (← access.merge more))
  | .field _, .fixed .. => return none

/-- The signature of an accessor. -/
def signature (s : Schema) : Method → Except InvariantFault String
  | .fixed _ signature _ => return signature
  | .field access => access.signature s

/-- The body of an accessor. -/
def body (s : Schema) : Method → Except InvariantFault String
  | .fixed _ _ body => return body
  | .field access => access.body s

/-- The accessor after something derived was read of it. -/
def observe (s : Schema) (what : FieldAccess.Derived) : Method → Method
  | .field access => .field (access.observe s what)
  | other => other

/-- How an accessor is shown in messages. -/
def describe : Method → String
  | .fixed name signature body =>
    "SimpleMethod(name=" ++ Text.quoted name ++ ", signature=" ++ Text.quoted signature ++ ", body="
      ++ Text.quoted body ++ ")"
  | .field access =>
    "FieldAccessMethod(name=" ++ Text.quoted access.name ++ ", paths=" ++ toString access.paths.length
      ++ ")"

/-- The accessor of a name among accessors. -/
def find? (methods : List Method) (name : String) : Option Method :=
  methods.find? (·.name == name)

/-- Puts an accessor in the place of the one of its name, or at the end. -/
def put (method : Method) : List Method → List Method
  | [] => [method]
  | m :: rest => if m.name = method.name then method :: rest else m :: put method rest

end Method

end OperationClasses
