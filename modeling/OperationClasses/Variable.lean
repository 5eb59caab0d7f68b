/-
Module: OperationClasses.Variable
Purpose: Variables of operations and fields of input objects, and the order they are written in.
Main exports: Variable, Variable.optional, Variable.lt, Variable.sort
-/
import OperationClasses.Layer

namespace OperationClasses

/-- A variable of an operation, or a field of an input object. `dependency` names the generated class
    that its signature refers to. -/
structure Variable where
  name : String
  graphqlName : String
  signature : String
  serializer : String
  dependency : Option String
deriving DecidableEq, Repr, Inhabited

namespace Variable

/-- Whether the variable may be left out: its signature begins as an optional one does. -/
def optional (v : Variable) : Bool := "Optional[".toList.isPrefixOf v.signature.toList

/-- Whether one variable is written before another: required variables first, then by name. -/
def lt (a b : Variable) : Bool :=
  if a.optional = b.optional then decide (a.name < b.name) else b.optional

/-- Before or equal. -/
def le (a b : Variable) : Bool := a.lt b || a == b

/-- Neither before nor equal. -/
def gt (a b : Variable) : Bool := !a.lt b && a != b

/-- Not before. -/
def ge (a b : Variable) : Bool := !a.lt b

/-- The variables in the order they are written. Those that neither precede the other keep the order
    given. -/
def sort (vs : List Variable) : List Variable := vs.mergeSort fun a b => !b.lt a

end Variable

end OperationClasses
