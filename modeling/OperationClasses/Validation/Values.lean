/-
Module: OperationClasses.Validation.Values
Purpose: Whether written values fit the types of their places, and where variables are used.
Main exports: valueFits, Usage, Value.usages, Usage.allows
-/
import OperationClasses.Validation.Visit

namespace OperationClasses

/-- Whether a text of digits is an integer of 32 bits. -/
def fitsInt32 (digits : String) : Bool :=
  match digits.toInt? with
  | some n => -2147483648 ≤ n && n ≤ 2147483647
  | none => false

/-- Whether a literal other than null is one of a scalar. A scalar that is not a standard one takes any. -/
def fitsScalar (name : String) (v : Value) : Bool :=
  match name, v with
  | "Int", .int digits => fitsInt32 digits
  | "Float", .int _ => true
  | "Float", .float _ => true
  | "String", .string .. => true
  | "Boolean", .boolean _ => true
  | "ID", .string .. => true
  | "ID", .int _ => true
  | _, _ => !(["Int", "Float", "String", "Boolean", "ID"].contains name)

/-- Whether a literal other than null is one of a named type that is a scalar or an enum. -/
def fitsLeaf (s : Schema) (name : String) (v : Value) : Bool :=
  match s.find? name with
  | some ⟨_, _, .scalar⟩ => fitsScalar name v
  | some ⟨_, _, .enum values⟩ =>
    match v with
    | .enum written => values.any (·.name == written)
    | _ => false
  | _ => false

/-- Whether an input object type takes exactly one of its fields. -/
def TypeDefinition.takesOne (t : TypeDefinition) : Bool := t.directives.any (·.name == "oneOf")

/-- The type of the items of a list. Another type stands for itself. -/
def TypeRef.itemType : TypeRef → TypeRef
  | .list item _ => item
  | other => other

/-- The fields of an input object type that are not given although they must be. -/
def missingFields (t : TypeDefinition) (given : List String) : List String :=
  t.inputFields.filterMap fun f =>
    if f.isMandatory && !given.contains f.name then some f.name else none

/-- Whether a null stands for a field. -/
def Value.isNull : Value → Bool
  | .null => true
  | _ => false

/-- Whether the fields given to a type that takes exactly one are one, and not null. -/
def oneGiven (fields : List (String × Value)) : Bool :=
  match fields with
  | [(_, v)] => !v.isNull
  | _ => false

mutual

/-- Whether a value fits the type of its place. Where the type is not known, and for a variable, there is
    nothing to check. -/
def valueFits (s : Schema) (expected : Option TypeRef) : Value → Bool
  | .variable _ => true
  | .null => expected.all (!·.isRequired)
  | .list items =>
    match expected with
    | some (.list item _) => itemsFit s item items
    | some (.named name _) => fitsLeaf s name (.list items)
    | none => true
  | .object fields =>
    match expected with
    | none => true
    | some type =>
      match s.find? type.core with
      | some t =>
        match t.body with
        | .input _ =>
          (missingFields t (fields.map (·.1))).isEmpty && (!t.takesOne || oneGiven fields)
            && fieldsFit s t fields
        | _ => fitsLeaf s type.core (.object fields)
      | none => true
  | .int digits => expected.all fun type => fitsLeaf s type.core (.int digits)
  | .float digits => expected.all fun type => fitsLeaf s type.core (.float digits)
  | .string text block => expected.all fun type => fitsLeaf s type.core (.string text block)
  | .boolean value => expected.all fun type => fitsLeaf s type.core (.boolean value)
  | .enum name => expected.all fun type => fitsLeaf s type.core (.enum name)

/-- Whether values fit the type of the items of a list. -/
def itemsFit (s : Schema) (item : TypeRef) : List Value → Bool
  | [] => true
  | v :: rest => valueFits s (some item) v && itemsFit s item rest

/-- Whether the fields of an object are fields of its type and fit them. -/
def fieldsFit (s : Schema) (t : TypeDefinition) : List (String × Value) → Bool
  | [] => true
  | (name, v) :: rest =>
    match t.inputFields.find? (·.name == name) with
    | some f => valueFits s (some f.type) v && fieldsFit s t rest
    | none => false

end

/-- The type that is declared for an argument. -/
def ArgumentSite.typeOf? (site : ArgumentSite) (name : String) : Option InputDefinition := do
  (← site.declared).find? (·.name == name)

/-- Whether all values given at a site fit. -/
def ArgumentSite.fits (s : Schema) (site : ArgumentSite) : Bool :=
  site.given.all fun a => valueFits s ((site.typeOf? a.name).map (·.type)) a.value

/-!
### Variables
-/

/-- One use of a variable: the type of its place if that is known, whether the place has a default value,
    and whether it is a field of an object that takes exactly one. -/
structure Usage where
  name : String
  expected : Option TypeRef
  hasDefault : Bool
  inTakesOne : Bool
deriving Inhabited

mutual

/-- The uses of variables in a value. -/
def Value.usages (s : Schema) (expected : Option TypeRef) (hasDefault inTakesOne : Bool) :
    Value → List Usage
  | .variable name => [⟨name, expected, hasDefault, inTakesOne⟩]
  | .list items => Value.usagesOfItems s (expected.map (·.itemType)) items
  | .object fields => Value.usagesOfFields s (expected.bind fun type => s.find? type.core) fields
  | _ => []

/-- The uses of variables in the items of a list. -/
def Value.usagesOfItems (s : Schema) (item : Option TypeRef) : List Value → List Usage
  | [] => []
  | v :: rest => v.usages s item false false ++ Value.usagesOfItems s item rest

/-- The uses of variables in the fields of an object. -/
def Value.usagesOfFields (s : Schema) (t : Option TypeDefinition) :
    List (String × Value) → List Usage
  | [] => []
  | (name, v) :: rest =>
    let field := t.bind fun t => t.inputFields.find? (·.name == name)
    v.usages s (field.map (·.type)) (field.any (·.default.isSome)) (t.any (·.takesOne))
      ++ Value.usagesOfFields s t rest

end

/-- The uses of variables at a site. -/
def ArgumentSite.usages (s : Schema) (site : ArgumentSite) : List Usage :=
  site.given.flatMap fun a =>
    let declared := site.typeOf? a.name
    a.value.usages s (declared.map (·.type)) (declared.any (·.default.isSome)) false

/-- Whether every value of one type is a value of another, for types of variables. -/
def TypeRef.fitsInto : TypeRef → TypeRef → Bool
  | .named a r, .named b r' => a == b && (r || !r')
  | .list a r, .list b r' => a.fitsInto b && (r || !r')
  | _, _ => false

/-- Whether a variable may stand at a place. A nullable variable may stand where null is not allowed, if
    either it has a default value other than null or the place has one. -/
def Usage.allows (u : Usage) (v : VariableDeclaration) : Bool :=
  match u.expected with
  | none => true
  | some expected =>
    let filled := v.default.any (!·.isNull) || u.hasDefault
    let fits :=
      if expected.isRequired && !v.type.isRequired then
        filled && v.type.fitsInto expected.nullable
      else v.type.fitsInto expected
    fits && !(u.inTakesOne && !v.type.isRequired)

end OperationClasses
