/-
Module: OperationClasses.Validation.Rules
Purpose: The standard rules that a document must keep for a schema.
Main exports: RuleFault, operationFaults, fragmentFaults, memberFaults, variableFaults
-/
import OperationClasses.Document.UsedFragments
import OperationClasses.Validation.Delivery
import OperationClasses.Validation.Merging
import OperationClasses.Validation.Values

namespace OperationClasses

/-- What breaks a standard rule. -/
inductive RuleFault where
  | notExecutable
  | unsupportedOperation (kind : String)
  | operationRepeated (name : String)
  | anonymousAmongOthers
  | subscriptionFields (operation : Option String)
  | unknownType (name : String)
  | conditionNotComposite (type : String)
  | variableNotInput («variable» : String)
  | selectionOnLeaf (field : String)
  | selectionMissing (field : String)
  | unknownField (type field : String)
  | fragmentRepeated (name : String)
  | unknownFragment (name : String)
  | unusedFragment (name : String)
  | impossibleFragment (type : String)
  | fragmentCycle (name : String)
  | variableRepeated (name : String)
  | undefinedVariable (name : String)
  | unusedVariable (name : String)
  | misusedVariable (name : String)
  | directive (fault : DirectiveFault)
  | unknownArgument (field argument : String)
  | repeatedArgument (field argument : String)
  | missingArgument (field argument : String)
  | repeatedInputField (field : String)
  | wrongValue (argument : String)
  | conflictingFields (key : String)
  | introspectionTooDeep (field : String)
  | delivery (fault : DeliveryFault)
  /-- more selection sets in one another than there may be -/
  | tooDeep (operation : Option String)
  /-- fields under shared response keys in a number that is not compared -/
  | tooManyComparisons
  /-- more faults than are told -/
  | tooManyFaults
deriving DecidableEq, Repr, Inhabited

/-- A fault if a condition holds. -/
def faultIf (condition : Bool) (fault : RuleFault) : List RuleFault :=
  if condition then [fault] else []

/-! ### Operations and fragments as a whole -/

mutual

/-- Whether a selection, or one that takes its place, may be left out by a directive. -/
def skippable (available : List Fragment) : Selection → Bool
  | .leaf head => head.directives.any fun d => ["skip", "include"].contains d.name
  | .nested head _ => head.directives.any fun d => ["skip", "include"].contains d.name
  | .inline _ directives selections =>
    directives.any (fun d => ["skip", "include"].contains d.name)
      || anySkippable available selections
  | .spread name directives =>
    directives.any (fun d => ["skip", "include"].contains d.name)
      || match _h : findFragment available name with
        | some f => anySkippable (withoutFragment available name) f.selections
        | none => false
termination_by selection => (available.length, sizeOf selection)
decreasing_by
  · exact Prod.Lex.right _ (by simp only [Selection.inline.sizeOf_spec]; omega)
  · simp only [Prod.lex_def]; exact Or.inl (length_withoutFragment_lt _h)

/-- Whether one of several selections may be left out by a directive. -/
def anySkippable (available : List Fragment) : List Selection → Bool
  | [] => false
  | member :: rest =>
    skippable available member || anySkippable available rest
termination_by selections => (available.length, sizeOf selections)

end

/-- Whether an operation that delivers events asks for another number of fields of its root than one, for a
    meta field, or for one that may be left out. -/
def subscriptionFaults (s : Schema) (table : List Fragment) (o : Operation) : List RuleFault :=
  match o.kind, s.rootType .subscription with
  | .subscription, some root =>
    let heads := (levelFields s table (some root) o.selections).filterMap fun f =>
      if f.parent.any fun t => t.name == root.name || ((s.possibleTypes t).any (root.name ∈ ·)) then
        some f.head
      else none
    faultIf ((heads.map (·.responseKey)).eraseDups.length != 1
      || heads.any (fun head => "__".toList.isPrefixOf head.name.toList)
      || anySkippable table o.selections) (.subscriptionFields o.name)
  | _, _ => []

/-- Faults in how an operation is named and told apart, and in its selections as a whole. `others` are the
    operations of its document, and `before` those that come before it. -/
def operationFaults (s : Schema) (table : List Fragment) (others before : List Operation)
    (o : Operation) : List RuleFault :=
  faultIf (s.rootName o.kind).isNone (.unsupportedOperation o.kind.text)
    ++ o.name.elim [] (fun name =>
      faultIf (before.any (·.name == some name)) (.operationRepeated name))
    ++ faultIf (1 < others.length && o.name.isNone) .anonymousAmongOthers
    ++ subscriptionFaults s table o
    ++ faultIf (nestsDeeper table (Parse.maxNesting - 1) o.selections) (.tooDeep o.name)

/-- Faults in how a fragment is named and in what it spreads. `before` are the fragments that come before
    it. -/
def fragmentFaults (table before : List Fragment) (f : Fragment) : List RuleFault :=
  faultIf (before.any (·.name == f.name)) (.fragmentRepeated f.name)
    ++ faultIf ((takeSpread table (spreadNames f.selections)).any (·.name == f.name))
      (.fragmentCycle f.name)

/-- The fragments that no operation reaches. -/
def unusedFragmentFaults (d : Document) : List RuleFault :=
  let used := (takeSpread d.fragmentTable
    (d.operations.flatMap fun o => spreadNames o.selections)).map (·.name)
  d.fragments.flatMap fun f => faultIf (!used.contains f.name) (.unusedFragment f.name)

/-! ### Types -/

/-- Faults of the type that a fragment is limited to. -/
def conditionFaults (s : Schema) (name : String) : List RuleFault :=
  match s.find? name with
  | none => [.unknownType name]
  | some t => faultIf (!t.body.isComposite) (.conditionNotComposite name)

/-- Faults of the type of a variable. -/
def variableTypeFaults (s : Schema) (v : VariableDeclaration) : List RuleFault :=
  match s.core? v.type with
  | none => [.unknownType v.type.core]
  | some t => faultIf (!t.body.isInput) (.variableNotInput v.name)

/-- Whether some value can be of both of two composite types. -/
def typesOverlap (s : Schema) (a b : TypeDefinition) : Bool :=
  a.name == b.name ||
    match s.possibleTypes a, s.possibleTypes b with
    | some as, some bs => !(as ∩ bs).isEmpty
    | _, _ => false

/-- Faults of one member of a selection set: fields that a type lacks, selections where there are none or
    missing ones, and fragments that no value of the type matches. -/
def memberFaults (s : Schema) (table : List Fragment) : Visit → List RuleFault
  | .field (some parent) none head _ => [.unknownField parent.name head.name]
  | .field none none _ _ => []
  | .field _ (some definition) head below =>
    match s.core? definition.type with
    | none => []
    | some t =>
      if t.body.isLeaf then faultIf below.isSome (.selectionOnLeaf head.name)
      else faultIf below.isNone (.selectionMissing head.name)
  | .spread parent name _ =>
    match findFragment table name with
    | none => [.unknownFragment name]
    | some f => impossible parent (some f.typeCondition)
  | .inline parent condition _ _ => condition.elim [] (conditionFaults s) ++ impossible parent condition
where
  /-- The fault of a fragment on a type that shares no value with the one around it. -/
  impossible (parent : Option TypeDefinition) (condition : Option String) : List RuleFault :=
    match parent, condition.bind s.compositeType? with
    | some parent, some t => faultIf (!typesOverlap s parent t) (.impossibleFragment t.name)
    | _, _ => []

/-! ### Arguments, values and directives -/

/-- Faults of the arguments of a field. -/
def argumentFaults : Visit → List RuleFault
  | .field _ definition head _ =>
    let given := head.arguments.map (·.name)
    (repeats given).map (.repeatedArgument head.name)
      ++ match definition with
        | none => []
        | some definition =>
          (given.flatMap fun a =>
            faultIf (!definition.arguments.any (·.name == a)) (.unknownArgument head.name a))
            ++ definition.arguments.flatMap fun a =>
              faultIf (a.isMandatory && !given.contains a.name) (.missingArgument head.name a.name)
  | _ => []

/-- Faults of the values that arguments are given. -/
def valueFaults (s : Schema) (site : ArgumentSite) : List RuleFault :=
  site.given.flatMap fun a =>
    (a.value.repeatedFields.map .repeatedInputField)
      ++ faultIf (!valueFits s ((site.typeOf? a.name).map (·.type)) a.value) (.wrongValue a.name)

/-- Faults of the directives at a site, and of what their arguments are given. -/
def siteFaults (s : Schema) (site : DirectiveSite) : List RuleFault :=
  ((repeatedDirectives s.directives site.directives).map fun name => .directive (.repeated name))
    ++ (directiveFaults s.directives site).map .directive
    ++ (site.argumentSites s).flatMap (valueFaults s)

/-! ### Variables -/

/-- The uses of variables in an operation and the fragments it reaches. -/
def usagesOf (s : Schema) (table : List Fragment) (o : Operation) : List Usage :=
  let ofFragment (f : Fragment) : List ArgumentSite :=
    argumentSitesOf s [⟨"FRAGMENT_DEFINITION", f.directives⟩] (f.visits s)
  let own := argumentSitesOf s (o.sites.take 1) (o.visits s)
  (own ++ (usedFragments table o.selections).flatMap ofFragment).flatMap (·.usages s)

/-- The type of a variable if it is one that variables can have. -/
def VariableDeclaration.inputType? (s : Schema) (v : VariableDeclaration) : Option TypeRef :=
  if (s.core? v.type).any (·.body.isInput) then some v.type else none

/-- Faults in how an operation declares its variables. -/
def declarationFaults (s : Schema) (o : Operation) : List RuleFault :=
  (repeats (o.declarations.map (·.name))).map .variableRepeated
    ++ o.declarations.flatMap fun v =>
      variableTypeFaults s v ++ match v.default with
        | none => []
        | some value =>
          (value.repeatedFields.map .repeatedInputField)
            ++ faultIf (!valueFits s (v.inputType? s) value) (.wrongValue v.name)

/-- Faults in how an operation uses its variables. -/
def variableFaults (s : Schema) (table : List Fragment) (o : Operation) : List RuleFault :=
  let usages := usagesOf s table o
  usages.flatMap (fun u =>
      match o.declarations.find? (·.name == u.name) with
      | none => [.undefinedVariable u.name]
      | some v => faultIf ((s.core? v.type).isSome && !u.allows v) (.misusedVariable u.name))
    ++ o.declarations.flatMap fun v =>
      faultIf (!usages.any (·.name == v.name)) (.unusedVariable v.name)

/-! ### Selections as a whole -/

/-- The fields whose lists, nested in each other, make introspection costly. -/
def introspectionLists : List String := ["fields", "interfaces", "possibleTypes", "inputFields"]

mutual

/-- Whether a selection nests three of the costly lists, given how many are around it. Each fragment is
    followed once below a field of that kind. -/
def nestsLists (available : List Fragment) (depth : Nat) : Selection → Bool
  | .leaf head => introspectionLists.contains head.name && 3 ≤ depth + 1
  | .nested head below =>
    if introspectionLists.contains head.name then
      3 ≤ depth + 1 || anyNestsLists available (depth + 1) below
    else anyNestsLists available depth below
  | .inline _ _ selections => anyNestsLists available depth selections
  | .spread name _ =>
    match _h : findFragment available name with
    | some f => anyNestsLists (withoutFragment available name) depth f.selections
    | none => false
termination_by selection => (available.length, sizeOf selection)
decreasing_by
  · exact Prod.Lex.right _ (by simp only [Selection.nested.sizeOf_spec]; omega)
  · exact Prod.Lex.right _ (by simp only [Selection.nested.sizeOf_spec]; omega)
  · exact Prod.Lex.right _ (by simp only [Selection.inline.sizeOf_spec]; omega)
  · simp only [Prod.lex_def]; exact Or.inl (length_withoutFragment_lt _h)

/-- Whether one of several selections nests three of the costly lists. -/
def anyNestsLists (available : List Fragment) (depth : Nat) : List Selection → Bool
  | [] => false
  | member :: rest => nestsLists available depth member || anyNestsLists available depth rest
termination_by selections => (available.length, sizeOf selections)

end

/-- Faults of the selections below a field that describes the schema. -/
def introspectionFaults (table : List Fragment) : Visit → List RuleFault
  | .field _ _ head (some below) =>
    faultIf ((head.name == schemaField.name || head.name == typeField.name)
      && anyNestsLists table 0 below) (.introspectionTooDeep head.name)
  | _ => []

end OperationClasses
