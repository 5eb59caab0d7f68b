/-
Module: OperationClasses.Naming.Identifier
Purpose: Identifiers of the generated modules: accessors, variables, classes and enum members.
Main exports: NamingFault, safeIdentifier, typeClassName, accessorName, operationClassName,
  enumMembers
-/
import OperationClasses.Naming.Words
import OperationClasses.Naming.Reserved
import OperationClasses.Text.Quoted

namespace OperationClasses.Naming

/-- Why a name is no use as an identifier. -/
inductive NamingFault where
  /-- a name of underscores alone, wanted as an attribute -/
  | emptyIdentifier (name : String)
  /-- a name of underscores alone, wanted as a class name -/
  | emptyClassName (name : String)
  /-- an operation without a name, or with one that is not a capitalised ASCII name -/
  | operationName (name : Option String)
  /-- two response keys of one class that would share an accessor -/
  | sharedAccessor (first second owner accessor : String)
deriving DecidableEq, Repr, Inhabited

/-- The message of a naming fault. -/
def NamingFault.message : NamingFault → String
  | .emptyIdentifier name => "Cannot build an identifier from " ++ Text.quoted name
  | .emptyClassName name => "Cannot build a class name from " ++ Text.quoted name
  | .operationName name =>
    "Operation names must start with a capital letter and contain only letters, digits and underscores, got "
      ++ Text.quotedOrNone name
  | .sharedAccessor first second owner accessor =>
    "Response keys " ++ Text.quoted first ++ " and " ++ Text.quoted second ++ " in " ++ owner
      ++ " both map to the accessor " ++ Text.quoted accessor

/-- The name that a naming fault is about. -/
def NamingFault.identifier : NamingFault → Option String
  | .emptyIdentifier name => some name
  | .emptyClassName name => some name
  | .operationName name => name
  | .sharedAccessor _ _ _ accessor => some accessor

/-- Moves the leading underscores of a name to its end. A name without another character has no such
    form. -/
def rotateUnderscores (name : List Char) : Option (List Char) :=
  match name.dropWhile (· == '_') with
  | [] => none
  | stripped => some (stripped ++ name.takeWhile (· == '_'))

/-- Appends underscores until the name is not among the taken ones. A name that was passed over cannot
    come back, so it leaves the list and the search ends. -/
def freeName (taken : List String) (name : String) : String :=
  if name ∈ taken then freeName (taken.erase name) (name.push '_') else name
termination_by taken.length
decreasing_by
  rename_i h
  have := List.length_pos_of_mem h
  simp only [List.length_erase_of_mem h]
  omega

/-- A usable attribute name: leading underscores move to the end, so that the name is neither private nor
    mangled, and keywords and protected names get underscores until they are free. -/
def safeIdentifier («protected» : List String) (name : String) : Except NamingFault String :=
  match rotateUnderscores name.toList with
  | none => throw (.emptyIdentifier name)
  | some rotated => return freeName (keywords ++ «protected») (String.ofList rotated)

/-- The class name of an enum or input type: leading underscores move to the end. -/
def typeClassName (name : String) : Except NamingFault String :=
  match rotateUnderscores name.toList with
  | none => throw (.emptyClassName name)
  | some rotated => return String.ofList rotated

/-- The accessor name of a response key. -/
def accessorName (key : String) : Except NamingFault String :=
  safeIdentifier resultNames (underscore key)

/-- A character of an operation name after its first one. -/
def isOperationNameChar (c : Char) : Bool := c.isAlphanum || c == '_'

/-- A capitalised ASCII name; one newline at the end is let pass. -/
def isOperationName : List Char → Bool
  | [] => false
  | c :: rest =>
    isCapital c &&
      match rest.dropWhile isOperationNameChar with
      | [] => true
      | ['\n'] => true
      | _ => false

/-- The class name of an operation, which is its own name. -/
def operationClassName (name : Option String) : Except NamingFault String :=
  match name with
  | some text => if isOperationName text.toList then return text else throw (.operationName name)
  | none => throw (.operationName none)

/-!
### Enum members

Every value of an enum gets a member in capitals. Values that would share a member get numbers from two
on, in the order given.
-/

/-- The member name that a value would have alone. A value of underscores alone is told by them. A value
    of underscores and hyphens has no member, but no name of a document holds a hyphen. -/
def memberBase (value : String) : Except NamingFault String :=
  if value.toList.all (· == '_') then return "VALUE" ++ value
  else safeIdentifier [] (Text.upper (underscore value))

/-- The first of `base` with number `k`, `k + 1` and so on that is not taken. -/
def numberedName (taken : List String) (base : String) (k : Nat) : String :=
  let candidate := base ++ toString k
  if candidate ∈ taken then numberedName (taken.erase candidate) base (k + 1) else candidate
termination_by taken.length
decreasing_by
  rename_i h
  have := List.length_pos_of_mem h
  simp only [candidate, List.length_erase_of_mem h]
  omega

/-- The member with a given base, given the members that are taken. -/
def memberName (taken : List String) (base : String) : String :=
  if base ∈ taken then numberedName taken base 2 else base

/-- Members of the remaining values, given the members that are taken. -/
def enumMembersFrom (taken : List String) : List String → Except NamingFault (List (String × String))
  | [] => return []
  | value :: rest => do
    let member := memberName taken (← memberBase value)
    return (member, value) :: (← enumMembersFrom (member :: taken) rest)

/-- Each value with its member name, in the order given. -/
def enumMembers (values : List String) : Except NamingFault (List (String × String)) :=
  enumMembersFrom [] values

end OperationClasses.Naming
