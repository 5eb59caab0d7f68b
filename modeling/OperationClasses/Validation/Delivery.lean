/-
Module: OperationClasses.Validation.Delivery
Purpose: The rules on directives that have parts of a response delivered later or one by one.
Main exports: Directive.delaysDelivery, deliveryFaults, labelFaults
-/
import OperationClasses.Validation.Visit

namespace OperationClasses

/-- What can be wrong with a directive on delivery. -/
inductive DeliveryFault where
  /-- a field of a root type whose fields are effects or events -/
  | onRoot (directive : String)
  /-- in an operation that delivers events anyway -/
  | inSubscription (directive : String)
  /-- a label that is not written out -/
  | labelNotText (directive : String)
  | labelRepeated (label : String)
  /-- a field that is no list -/
  | withoutList (field : String)
deriving DecidableEq, Repr, Inhabited

/-- Whether a directive has something delivered later or one by one. -/
def Directive.delaysDelivery (d : Directive) : Bool := d.name == "defer" || d.name == "stream"

/-- Whether a condition is the given truth value or a variable. -/
def Value.mayBe (truth : Bool) : Value → Bool
  | .boolean value => value == truth
  | .variable _ => true
  | _ => false

/-- Whether directives may leave out what they stand at. -/
def mayBeLeftOut (directives : List Directive) : Bool :=
  directives.any fun d =>
    (d.name == "skip" && (d.argument? "if").any (·.mayBe true))
      || (d.name == "include" && (d.argument? "if").any (·.mayBe false))

/-- Faults of delivery at a place where events are delivered: there it has to be off, or may be. -/
def eventFaults (directives : List Directive) : List DeliveryFault :=
  (directives.filter (·.delaysDelivery)).filterMap fun d =>
    if (d.argument? "if").any (·.mayBe false) || mayBeLeftOut directives then none
    else some (.inSubscription d.name)

/-- Whether a type is the root of operations with effects or with events. -/
def Schema.isEffectRoot (s : Schema) (t : TypeDefinition) : Bool :=
  s.mutationType == some t.name || s.subscriptionType == some t.name

/-- Faults of delivery at a member of a selection set. -/
def deliveryFaults (s : Schema) (v : Visit) : List DeliveryFault :=
  let delaying := v.site.directives.filter (·.delaysDelivery)
  let parent := match v with
    | .field parent _ _ _ => parent
    | .spread parent _ _ => parent
    | .inline parent _ _ _ => parent
  let onRoot := if parent.any s.isEffectRoot then delaying.map fun d => .onRoot d.name else []
  let withoutList := match v with
    | .field (some _) (some definition) head _ =>
      match definition.type with
      | .list _ _ => []
      | .named _ _ => if head.directives.any (·.name == "stream") then [.withoutList head.name] else []
    | _ => []
  onRoot ++ withoutList

/-- Faults of the labels of deliveries in the order of a document, given the labels before. A label is a
    text that is written out and stands once in a document. -/
def labelFaults (known : List String) : List Directive → List DeliveryFault
  | [] => []
  | d :: rest =>
    match if d.delaysDelivery then d.argument? "label" else none with
    | none => labelFaults known rest
    | some (.string label _) =>
      if known.contains label then .labelRepeated label :: labelFaults known rest
      else labelFaults (label :: known) rest
    | some _ => .labelNotText d.name :: labelFaults known rest

end OperationClasses
