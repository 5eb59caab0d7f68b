/-
Module: OperationClasses.Validation.Directives
Purpose: Rules on directives that hold alike in schemas and in queries, and rules on names that must be
  given once.
Main exports: repeats, DirectiveSite, DirectiveFault, directiveFaults
-/
import OperationClasses.Schema.Basic
import OperationClasses.Schema.Standard

namespace OperationClasses

/-- The names of a list that stand in it before, once for each further time. -/
def repeats : List String → List String
  | [] => []
  | name :: rest => if rest.contains name then name :: repeats rest else repeats rest

mutual

/-- The field names that an object value gives more than once, at any depth. -/
def Value.repeatedFields : Value → List String
  | .list items => Value.repeatedFieldsOfItems items
  | .object fields => repeats (fields.map (·.1)) ++ Value.repeatedFieldsOfFields fields
  | _ => []

/-- The repeated field names of the items of a list value. -/
def Value.repeatedFieldsOfItems : List Value → List String
  | [] => []
  | item :: rest => item.repeatedFields ++ Value.repeatedFieldsOfItems rest

/-- The repeated field names in the fields of an object value. -/
def Value.repeatedFieldsOfFields : List (String × Value) → List String
  | [] => []
  | (_, value) :: rest => value.repeatedFields ++ Value.repeatedFieldsOfFields rest

end

/-- A place where directives stand. -/
structure DirectiveSite where
  location : String
  directives : List Directive
deriving Repr, Inhabited

/-- What can be wrong with a directive. -/
inductive DirectiveFault where
  | unknown (name : String)
  | misplaced (name location : String)
  | repeated (name : String)
  | unknownArgument (directive argument : String)
  | repeatedArgument (directive argument : String)
  | missingArgument (directive argument : String)
  | repeatedInputField (directive field : String)
deriving DecidableEq, Repr, Inhabited

/-- The directives that a list of directives repeats although they may stand only once at a place. A
    directive that is not declared may be repeated. -/
def repeatedDirectives (declared : List DirectiveDefinition) (directives : List Directive) :
    List String :=
  (repeats (directives.map (·.name))).filter fun name =>
    declared.any fun d => d.name == name && !d.repeatable

/-- What is wrong with one directive at a location. -/
def faultsOfDirective (declared : List DirectiveDefinition) (location : String) (d : Directive) :
    List DirectiveFault :=
  let own := (repeats (d.arguments.map (·.name))).map (.repeatedArgument d.name)
    ++ (d.arguments.flatMap (·.value.repeatedFields)).map (.repeatedInputField d.name)
  match declared.find? (·.name == d.name) with
  | none => .unknown d.name :: own
  | some definition =>
    let placed := if definition.locations.contains location then [] else [.misplaced d.name location]
    let unknown := d.arguments.filterMap fun a =>
      if definition.arguments.any (·.name == a.name) then none else some (.unknownArgument d.name a.name)
    let missing := definition.arguments.filterMap fun a =>
      if a.isMandatory && !d.arguments.any (·.name == a.name) then some (.missingArgument d.name a.name)
      else none
    placed ++ unknown ++ missing ++ own

/-- What is wrong with the directives at a site, whether they are repeated aside. -/
def directiveFaults (declared : List DirectiveDefinition) (site : DirectiveSite) : List DirectiveFault :=
  site.directives.flatMap (faultsOfDirective declared site.location)

end OperationClasses
