/-
Module: OperationClasses.Validation.Order
Purpose: All faults of a document in the order in which it is read, and which of them are told.
Main exports: DocumentFault, documentFaults, maxFaults, toldFaults
-/
import OperationClasses.Validation.Rules
import OperationClasses.Validation.Typename

namespace OperationClasses

/-- A fault of a document: it breaks a standard rule, or misses a type name. -/
inductive DocumentFault where
  | rule (fault : RuleFault)
  | typename (fault : TypenameFault)
deriving DecidableEq, Repr, Inhabited

/-- The broken standard rule of a fault. -/
def DocumentFault.rule? : DocumentFault → Option RuleFault
  | .rule fault => some fault
  | .typename _ => none

/-- The missing type name of a fault. -/
def DocumentFault.typename? : DocumentFault → Option TypenameFault
  | .rule _ => none
  | .typename fault => some fault

/-- One step in checking a document. -/
inductive CheckStep where
  /-- faults that are found -/
  | report (faults : List DocumentFault)
  /-- a selection set whose fields are to be compared, on a type -/
  | compare (parent : Option TypeDefinition) (selections : List Selection)
deriving Inhabited

/-- The step that reports broken rules. -/
def CheckStep.ofRules (faults : List RuleFault) : CheckStep := .report (faults.map .rule)

/-- The steps at a member of a selection set. -/
def memberSteps (s : Schema) (table : List Fragment) (forEvents : Bool) (v : Visit) :
    List CheckStep :=
  let delivery := deliveryFaults s v ++ if forEvents then eventFaults v.site.directives else []
  [.ofRules (memberFaults s table v), .ofRules (introspectionFaults table v),
    .report ((typenameFaultAt s v).map .typename).toList, .ofRules (argumentFaults v),
    .ofRules (v.fieldArguments.toList.flatMap (valueFaults s)), .ofRules (siteFaults s v.site),
    .ofRules (delivery.map .delivery)]
    ++ ((v.set? s).map fun (parent, selections) => CheckStep.compare parent selections).toList

/-- The fragments that operations delivering events reach. -/
def eventFragments (table : List Fragment) (operations : List Operation) : List String :=
  (takeSpread table ((operations.filter (·.kind == .subscription)).flatMap fun o =>
    spreadNames o.selections)).map (·.name)

/-- The steps at a definition, given those before it in its document. -/
def definitionSteps (s : Schema) (d : Document) (before : Document) : Definition → List CheckStep
  | .operation o =>
    let table := d.fragmentTable
    let forEvents := o.kind == .subscription
    [.ofRules (operationFaults s table d.operations before.operations o),
      .ofRules (declarationFaults s o), .ofRules (o.sites.flatMap (siteFaults s)),
      .compare (s.rootType o.kind) o.selections]
      ++ (o.visits s).flatMap (memberSteps s table forEvents)
      ++ [.ofRules (variableFaults s table o)]
  | .fragment f =>
    let table := d.fragmentTable
    let forEvents := (eventFragments table before.operations).contains f.name
    [.ofRules (fragmentFaults table before.fragments f), .ofRules (conditionFaults s f.typeCondition),
      .ofRules (siteFaults s ⟨"FRAGMENT_DEFINITION", f.directives⟩),
      .compare (s.compositeType? f.typeCondition) f.selections]
      ++ (f.visits s).flatMap (memberSteps s table forEvents)
  | .system definition => [.ofRules (definition.sites.flatMap (siteFaults s))]

/-- The steps at definitions in order, given those before them. -/
def stepsFrom (s : Schema) (d : Document) (before : List Definition) : List Definition → List CheckStep
  | [] => []
  | x :: rest => definitionSteps s d ⟨before⟩ x ++ stepsFrom s d (before ++ [x]) rest

/-- The steps in checking a document. -/
def documentSteps (s : Schema) (d : Document) : List CheckStep :=
  [CheckStep.ofRules (d.systemDefinitions.map fun _ => .notExecutable)]
    ++ stepsFrom s d [] d.definitions
    ++ [.ofRules (unusedFragmentFaults d),
      .ofRules ((labelFaults [] (d.definitions.flatMap (·.sites s) |>.flatMap (·.directives))).map
        .delivery)]

/-- The faults that steps find, with a number of comparisons that may be made. Without any left no more
    fields are compared. -/
def faultsOfSteps (s : Schema) (table : List Fragment) (comparisons : Option Nat) :
    List CheckStep → List DocumentFault
  | [] => []
  | .report faults :: rest => faults ++ faultsOfSteps s table comparisons rest
  | .compare parent selections :: rest =>
    match comparisons with
    | none => faultsOfSteps s table none rest
    | some left =>
      match setConflicts s table parent selections left with
      | none => .rule .tooManyComparisons :: faultsOfSteps s table none rest
      | some (keys, left) =>
        keys.map (.rule ∘ .conflictingFields) ++ faultsOfSteps s table (some left) rest

/-- All faults of a document. -/
def documentFaults (s : Schema) (d : Document) : List DocumentFault :=
  faultsOfSteps s d.fragmentTable (some maxComparisons) (documentSteps s d)

/-- How many faults are told. -/
def maxFaults : Nat := 100

/-- The faults that are told: the first ones, and that there are more if there are. -/
def toldFaults (faults : List DocumentFault) : List DocumentFault :=
  if faults.length ≤ maxFaults then faults
  else faults.take maxFaults ++ [.rule .tooManyFaults]

end OperationClasses
