/-
Module: OperationClasses.Validation.Visit
Purpose: The members of selection sets of a document, each with the types that a schema gives it.
Main exports: Visit, visits, Definition.visits, DirectiveSite.argumentSites, argumentSitesOf
-/
import OperationClasses.Schema.Rules

namespace OperationClasses

/-- A member of a selection set. `parent` is the composite type that the set is on, if it is known. -/
inductive Visit where
  | field (parent : Option TypeDefinition) (definition : Option FieldDefinition) (head : FieldHead)
      (below : Option (List Selection))
  | spread (parent : Option TypeDefinition) (name : String) (directives : List Directive)
  | inline (parent : Option TypeDefinition) (condition : Option String) (directives : List Directive)
      (selections : List Selection)
deriving Inhabited

/-- The composite type of a name, if the schema has one. -/
def Schema.compositeType? (s : Schema) (name : String) : Option TypeDefinition :=
  (s.find? name).filter (·.body.isComposite)

/-- The definition of a field on a type that may be unknown. -/
def Schema.definitionOf? (s : Schema) (parent : Option TypeDefinition) (name : String) :
    Option FieldDefinition := do
  s.fieldOf? (← parent) name

mutual

/-- A member of a selection set and those below it, in document order. -/
def visit (s : Schema) (parent : Option TypeDefinition) : Selection → List Visit
  | .leaf head => [.field parent (s.definitionOf? parent head.name) head none]
  | .nested head selections =>
    let definition := s.definitionOf? parent head.name
    .field parent definition head (some selections)
      :: visits s (definition.bind fun d => s.compositeType? d.type.core) selections
  | .spread name directives => [.spread parent name directives]
  | .inline condition directives selections =>
    .inline parent condition directives selections
      :: visits s (condition.elim parent s.compositeType?) selections

/-- The members of a selection set and those below them, in document order. -/
def visits (s : Schema) (parent : Option TypeDefinition) : List Selection → List Visit
  | [] => []
  | member :: rest => visit s parent member ++ visits s parent rest

end

/-- The members of the selection sets of an operation. -/
def Operation.visits (s : Schema) (o : Operation) : List Visit :=
  OperationClasses.visits s (s.rootType o.kind) o.selections

/-- The members of the selection sets of a fragment. -/
def Fragment.visits (s : Schema) (f : Fragment) : List Visit :=
  OperationClasses.visits s (s.compositeType? f.typeCondition) f.selections

/-- The members of the selection sets of a definition. -/
def Definition.visits (s : Schema) : Definition → List Visit
  | .operation o => o.visits s
  | .fragment f => f.visits s
  | .system _ => []

/-- The directives of a member. -/
def Visit.site : Visit → DirectiveSite
  | .field _ _ head _ => ⟨"FIELD", head.directives⟩
  | .spread _ _ directives => ⟨"FRAGMENT_SPREAD", directives⟩
  | .inline _ _ directives _ => ⟨"INLINE_FRAGMENT", directives⟩

/-- The selection set of a member with the type that it is on. -/
def Visit.set? (s : Schema) : Visit → Option (Option TypeDefinition × List Selection)
  | .field _ definition _ (some below) =>
    some (definition.bind fun d => s.compositeType? d.type.core, below)
  | .inline parent condition _ selections => some (condition.elim parent s.compositeType?, selections)
  | _ => none

/-- Where directives stand in an operation outside its selections. -/
def Operation.sites (o : Operation) : List DirectiveSite :=
  let location := match o.kind with
    | .query => "QUERY"
    | .mutation => "MUTATION"
    | .subscription => "SUBSCRIPTION"
  ⟨location, o.directives⟩ :: o.declarations.map fun v => ⟨"VARIABLE_DEFINITION", v.directives⟩

/-- Where directives stand in a definition. -/
def Definition.sites (s : Schema) : Definition → List DirectiveSite
  | .operation o => o.sites ++ (o.visits s).map (·.site)
  | .fragment f => ⟨"FRAGMENT_DEFINITION", f.directives⟩ :: (f.visits s).map (·.site)
  | .system d => d.sites

/-- Arguments that are given somewhere, with those that are declared there, if that is known. -/
structure ArgumentSite where
  declared : Option (List InputDefinition)
  given : List Argument
deriving Inhabited

/-- Where arguments of directives are given. -/
def DirectiveSite.argumentSites (s : Schema) (site : DirectiveSite) : List ArgumentSite :=
  site.directives.map fun d =>
    ⟨(s.directives.find? (·.name == d.name)).map (·.arguments), d.arguments⟩

/-- Where the arguments of a field are given. -/
def Visit.fieldArguments : Visit → Option ArgumentSite
  | .field _ definition head _ => some ⟨definition.map (·.arguments), head.arguments⟩
  | _ => none

/-- Where arguments are given in members of selection sets. -/
def Visit.argumentSites (s : Schema) (v : Visit) : List ArgumentSite :=
  v.fieldArguments.toList ++ v.site.argumentSites s

/-- Where arguments are given in an operation or fragment with its own directives and members. -/
def argumentSitesOf (s : Schema) (own : List DirectiveSite) (members : List Visit) :
    List ArgumentSite :=
  own.flatMap (·.argumentSites s) ++ members.flatMap (·.argumentSites s)

end OperationClasses
