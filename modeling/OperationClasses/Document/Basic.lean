/-
Module: OperationClasses.Document.Basic
Purpose: Query documents: operations and fragments with their selections.
Main exports: Value, Argument, Directive, FieldHead, Selection, Operation, Fragment
-/
import OperationClasses.Schema.TypeRef

namespace OperationClasses

/-- An argument value as it is written. Numbers keep their digits. -/
inductive Value where
  | «variable» (name : String)
  | int (digits : String)
  | float (digits : String)
  | string (text : String) (block : Bool)
  | boolean (value : Bool)
  | null
  | enum (name : String)
  | list (items : List Value)
  | object (fields : List (String × Value))
deriving BEq, Repr, Inhabited

/-- A named argument. -/
structure Argument where
  name : String
  value : Value
deriving BEq, Repr, Inhabited

/-- A directive and its arguments. -/
structure Directive where
  name : String
  arguments : List Argument
deriving BEq, Repr, Inhabited

/-- The value of an argument of a directive. -/
def Directive.argument? (d : Directive) (name : String) : Option Value :=
  (d.arguments.find? (·.name == name)).map (·.value)

/-- A selected field without what is selected below it. -/
structure FieldHead where
  aliasName : Option String
  name : String
  arguments : List Argument
  directives : List Directive
deriving BEq, Repr, Inhabited

/-- The key under which the value of a field stands in the response. -/
def FieldHead.responseKey (head : FieldHead) : String := head.aliasName.getD head.name

/-- A member of a selection set. -/
inductive Selection where
  /-- a field without a selection set -/
  | leaf (head : FieldHead)
  /-- a field with a selection set, which may be empty -/
  | nested (head : FieldHead) (selections : List Selection)
  /-- the selections of a named fragment -/
  | spread (name : String) (directives : List Directive)
  /-- selections that may be limited to the values of a type -/
  | inline (typeCondition : Option String) (directives : List Directive)
      (selections : List Selection)
deriving BEq, Repr, Inhabited

/-- The kinds of operations. -/
inductive OperationKind where
  | query
  | mutation
  | subscription
deriving DecidableEq, Repr, Inhabited

/-- The keyword of a kind of operation. -/
def OperationKind.text : OperationKind → String
  | .query => "query"
  | .mutation => "mutation"
  | .subscription => "subscription"

/-- The description of a definition, which may be written as a block. -/
structure Description where
  text : String
  block : Bool
deriving BEq, Repr, Inhabited

/-- A variable as an operation declares it. -/
structure VariableDeclaration where
  description : Option Description
  name : String
  type : TypeRef
  default : Option Value
  directives : List Directive
deriving BEq, Repr, Inhabited

/-- An operation. -/
structure Operation where
  description : Option Description
  kind : OperationKind
  name : Option String
  declarations : List VariableDeclaration
  directives : List Directive
  selections : List Selection
deriving BEq, Repr, Inhabited

/-- A named fragment: selections for the values of a type. -/
structure Fragment where
  description : Option Description
  name : String
  typeCondition : String
  directives : List Directive
  selections : List Selection
deriving BEq, Repr, Inhabited

/-- The fragment of a name. -/
def findFragment (fragments : List Fragment) (name : String) : Option Fragment :=
  fragments.find? (·.name == name)

end OperationClasses
