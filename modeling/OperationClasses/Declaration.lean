/-
Module: OperationClasses.Declaration
Purpose: Query documents that were checked against a schema, and the collection of them that one module is
  generated from.
Main exports: Declaration, DeclarationFault, Container, Container.declare
-/
import OperationClasses.Validation.Order
import OperationClasses.Document.Reader

namespace OperationClasses

/-- A checked document, its text, and what it was read from. -/
structure Declaration where
  document : Document
  text : String
  source : String
deriving Inhabited

/-- The names of the operations of a declaration. -/
def Declaration.operationNames (d : Declaration) : List String :=
  d.document.operations.filterMap (·.name)

/-- Why a text cannot be declared. -/
inductive DeclarationFault where
  /-- it is not a document -/
  | unreadable
  /-- it breaks standard rules or misses type names, of which the first ones are told -/
  | invalid (rules : List RuleFault) (typenames : List TypenameFault)
  /-- it has only fragments -/
  | noOperations
  /-- it has an operation without a name -/
  | unnamedOperation
deriving DecidableEq, Repr, Inhabited

/-- The message of a text that misses type names but keeps all standard rules, has no operations, or has one
    without a name. Other faults are told by their causes. -/
def DeclarationFault.message (source : String) : DeclarationFault → Option String
  | .unreadable => none
  | .invalid rules typenames =>
    if rules.isEmpty then
      some (source ++ ": the query is invalid:\n"
        ++ Text.unlines (typenames.map fun f => "  - " ++ f.message))
    else none
  | .noOperations => some (source ++ ": the document does not define any operations")
  | .unnamedOperation => some (source ++ ": you must provide a name for each of the operations")

/-- Checks a text against a schema. The checks on operations come last. -/
def declare (s : Schema) (text source : String) : Except DeclarationFault Declaration :=
  match Document.read text with
  | none => throw .unreadable
  | some document =>
    let faults := documentFaults s document
    let told := toldFaults faults
    if !faults.isEmpty then
      throw (.invalid (told.filterMap (·.rule?)) (told.filterMap (·.typename?)))
    else if document.operations.isEmpty then throw .noOperations
    else if document.operations.any (·.name.isNone) then throw .unnamedOperation
    else return ⟨document, text, source⟩

/-- The declarations for one schema, in the order they were made. -/
structure Container where
  schema : Schema
  declarations : List Declaration
deriving Inhabited

/-- Declares a text, and keeps the declaration if it is made. -/
def Container.declare (c : Container) (text source : String) :
    Except DeclarationFault Declaration × Container :=
  match OperationClasses.declare c.schema text source with
  | .ok d => (.ok d, { c with declarations := c.declarations ++ [d] })
  | .error fault => (.error fault, c)

end OperationClasses
