/-
Module: OperationClasses.Document.Parse
Purpose: Reading from a list of tokens, and the parts that queries and schemas share: names, values,
  type references, arguments and directives.
Main exports: Parse, Parse.upTo, Parse.group, Parse.value, Parse.typeRef, Parse.directives
-/
import OperationClasses.Document.Token
import OperationClasses.Document.Basic

namespace OperationClasses

/-- Reads something from the start of a list of tokens, or fails. -/
abbrev Parse (α : Type) := StateT (List Token) Option α

namespace Parse

/-- The next token, which stays. -/
def peek? : Parse (Option Token) := fun s => some (s.head?, s)

/-- Reads the given token. -/
def token (t : Token) : Parse Unit := fun
  | [] => none
  | head :: rest => if head = t then some ((), rest) else none

/-- Reads the given token if it comes next, and says whether it did. -/
def optionalToken (t : Token) : Parse Bool := fun
  | [] => some (false, [])
  | head :: rest => if head = t then some (true, rest) else some (false, head :: rest)

/-- Reads a punctuation mark. -/
def mark (c : Char) : Parse Unit := token (.punctuation c)

/-- Reads a punctuation mark if it comes next, and says whether it did. -/
def optionalMark (c : Char) : Parse Bool := optionalToken (.punctuation c)

/-- Reads a keyword. -/
def keyword (word : String) : Parse Unit := token (.name word)

/-- Reads a keyword if it comes next, and says whether it did. -/
def optionalKeyword (word : String) : Parse Bool := optionalToken (.name word)

/-- Reads a name. -/
def name : Parse String := fun
  | .name text :: rest => some (text, rest)
  | _ => none

/-- Reads a name if one comes next. -/
def optionalName : Parse (Option String) := fun
  | .name text :: rest => some (some text, rest)
  | s => some (none, s)

/-- Reads a description if one comes next. -/
def description : Parse (Option Description) := fun
  | .string text block :: rest => some (some ⟨text, block⟩, rest)
  | s => some (none, s)

/-- Reads one thing after another until a closing token, which is read too. A step that reads nothing
    fails, so the reading ends. -/
def upTo {α : Type} (close : Token) (item : Parse α) (s : List Token) :
    Option (List α × List Token) :=
  match s with
  | [] => none
  | head :: rest =>
    if head = close then some ([], rest)
    else
      match item (head :: rest) with
      | none => none
      | some (a, rest') =>
        if rest'.length < (head :: rest).length then
          (upTo close item rest').map fun (more, tail) => (a :: more, tail)
        else none
termination_by s.length
decreasing_by assumption

/-- Reads a group of things between marks, at least one, if the opening mark comes next. -/
def group {α : Type} (opening closing : Char) (item : Parse α) : Parse (List α) := do
  if ← optionalMark opening then
    let items ← upTo (.punctuation closing) item
    if items.isEmpty then failure else return items
  else return []

/-- Reads all tokens that are left, one thing after another. -/
def all {α : Type} (item : Parse α) (s : List Token) : Option (List α) :=
  match s with
  | [] => some []
  | head :: rest =>
    match item (head :: rest) with
    | none => none
    | some (a, rest') =>
      if rest'.length < (head :: rest).length then (all item rest').map (a :: ·) else none
termination_by s.length
decreasing_by assumption

/-- Reads things separated by a mark, which may also stand before the first. -/
def separated {α : Type} (separator : Char) (item : Parse α) : Parse (List α) := do
  let _ ← optionalMark separator
  let first ← item
  let more ← rest
  return first :: more
where
  /-- Reads a separator and a thing as long as separators come. -/
  rest (s : List Token) : Option (List α × List Token) :=
    match s with
    | [] => some ([], [])
    | head :: tail =>
      if head = .punctuation separator then
        match item tail with
        | none => none
        | some (a, tail') =>
          if tail'.length < (head :: tail).length then
            (rest tail').map fun (more, left) => (a :: more, left)
          else none
      else some ([], head :: tail)
  termination_by s.length
  decreasing_by assumption

/-- How deep selection sets, list and object values and list types may stand in one another. -/
def maxNesting : Nat := 200

/-- Reads a type reference with at most `room` list layers. -/
def typeRef : (room : Nat) → List Token → Option (TypeRef × List Token)
  | _, .name text :: rest => do
    let (required, rest) ← optionalMark '!' rest
    return (.named text required, rest)
  | room + 1, .punctuation '[' :: rest => do
    let (item, rest) ← typeRef room rest
    let (_, rest) ← mark ']' rest
    let (required, rest) ← optionalMark '!' rest
    return (.list item required, rest)
  | _, _ => none

mutual

/-- Reads a value in which at most `room` lists and objects stand in one another. A constant one holds
    no variables. -/
def value (room : Nat) (constant : Bool) (s : List Token) : Option (Value × List Token) :=
  match s with
  | .punctuation '$' :: .name text :: rest => if constant then none else some (.variable text, rest)
  | .int digits :: rest => some (.int digits, rest)
  | .float digits :: rest => some (.float digits, rest)
  | .string text block :: rest => some (.string text block, rest)
  | .name text :: rest =>
    match text with
    | "true" => some (.boolean true, rest)
    | "false" => some (.boolean false, rest)
    | "null" => some (.null, rest)
    | _ => some (.enum text, rest)
  | .punctuation '[' :: rest =>
    match room with
    | 0 => none
    | room + 1 => (listItems room constant rest).map fun (items, rest) => (.list items, rest)
  | .punctuation '\x7b' :: rest =>
    match room with
    | 0 => none
    | room + 1 => (objectFields room constant rest).map fun (fields, rest) => (.object fields, rest)
  | _ => none
termination_by (s.length, 0)

/-- Reads the items of a list value and its closing bracket. -/
def listItems (room : Nat) (constant : Bool) (s : List Token) : Option (List Value × List Token) :=
  if s.head? = some (.punctuation ']') then some ([], s.tail)
  else
    match value room constant s with
    | none => none
    | some (item, rest) =>
      if rest.length < s.length then
        (listItems room constant rest).map fun (items, tail) => (item :: items, tail)
      else none
termination_by (s.length, 1)

/-- Reads the fields of an object value and its closing brace. -/
def objectFields (room : Nat) (constant : Bool) (s : List Token) :
    Option (List (String × Value) × List Token) :=
  match s with
  | .punctuation '\x7d' :: rest => some ([], rest)
  | .name field :: .punctuation ':' :: rest =>
    match value room constant rest with
    | none => none
    | some (item, rest') =>
      if rest'.length < rest.length then
        (objectFields room constant rest').map fun (fields, tail) => ((field, item) :: fields, tail)
      else none
  | _ => none
termination_by (s.length, 1)
end

/-- Reads a named argument. -/
def argument (room : Nat) (constant : Bool) : Parse Argument := do
  let argumentName ← name
  mark ':'
  return ⟨argumentName, ← value room constant⟩

/-- Reads a group of arguments if one comes next. -/
def arguments (room : Nat) (constant : Bool) : Parse (List Argument) :=
  group '(' ')' (argument room constant)

/-- Reads the directives that come next. -/
def directives (room : Nat) (constant : Bool) (s : List Token) :
    Option (List Directive × List Token) :=
  match s with
  | .punctuation '@' :: .name text :: rest =>
    match arguments room constant rest with
    | none => none
    | some (args, rest') =>
      if rest'.length ≤ rest.length then
        (directives room constant rest').map fun (more, tail) => (⟨text, args⟩ :: more, tail)
      else none
  | .punctuation '@' :: _ => none
  | _ => some ([], s)
termination_by s.length
decreasing_by simp; omega

end Parse

end OperationClasses
