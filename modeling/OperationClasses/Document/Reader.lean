/-
Module: OperationClasses.Document.Reader
Purpose: Reading documents and type references from text.
Main exports: Document.read, TypeRef.read
-/
import OperationClasses.Schema.Reader

namespace OperationClasses

namespace Parse

/-- Reads the alias, name, arguments and directives of a field. -/
def fieldHead (room : Nat) : Parse FieldHead := do
  let first ← name
  let (aliasName, fieldName) ←
    if ← optionalMark ':' then pure (some first, ← name) else pure (none, first)
  let args ← arguments room false
  return ⟨aliasName, fieldName, args, ← directives room false⟩

/-- Reads the condition of an inline fragment, if it has one, and its directives. -/
def inlineHead (room : Nat) : Parse (Option String × List Directive) := do
  let condition ← if ← optionalKeyword "on" then some <$> name else pure none
  return (condition, ← directives room false)

mutual

/-- Reads a member of a selection set, below which `room` more levels may come. -/
def selection (room : Nat) (s : List Token) : Option (Selection × List Token) :=
  match s with
  | .ellipsis :: .name text :: rest =>
    if text = "on" then inlineFragment room (.name text :: rest)
    else do
      let (dirs, tail) ← directives room false rest
      return (.spread text dirs, tail)
  | .ellipsis :: rest => inlineFragment room rest
  | [] => none
  | first :: others =>
    match fieldHead room (first :: others) with
    | none => none
    | some (head, rest) =>
      match rest with
      | .punctuation '\x7b' :: inner =>
        if inner.length ≤ others.length then
          match room with
          | 0 => none
          | room + 1 => (selections room inner).map fun (below, tail) => (.nested head below, tail)
        else none
      | _ => some (.leaf head, rest)
termination_by (s.length, 0)

/-- Reads an inline fragment after its dots. -/
def inlineFragment (room : Nat) (s : List Token) : Option (Selection × List Token) :=
  match inlineHead room s with
  | none => none
  | some ((condition, dirs), rest) =>
    match rest with
    | .punctuation '\x7b' :: inner =>
      if inner.length < s.length then
        match room with
        | 0 => none
        | room + 1 =>
          (selections room inner).map fun (below, tail) => (.inline condition dirs below, tail)
      else none
    | _ => none
termination_by (s.length, 0)

/-- Reads the members of a selection set and its closing brace. -/
def selections (room : Nat) (s : List Token) : Option (List Selection × List Token) :=
  if s.head? = some (.punctuation '\x7d') then some ([], s.tail)
  else
    match selection room s with
    | none => none
    | some (member, rest) =>
      if rest.length < s.length then
        (selections room rest).map fun (members, tail) => (member :: members, tail)
      else none
termination_by (s.length, 1)

end

/-- Reads a selection set with its braces. -/
def selectionSet : Parse (List Selection) := do
  mark '\x7b'
  selections (maxNesting - 1)

/-- Reads the declaration of a variable. -/
def variableDeclaration : Parse VariableDeclaration := do
  let about ← description
  mark '$'
  let variableName ← name
  mark ':'
  let type ← typeRef maxNesting
  let default ← if ← optionalMark '=' then some <$> value maxNesting true else pure none
  return ⟨about, variableName, type, default, ← directives maxNesting true⟩

/-- Reads an operation that starts with its kind. -/
def operation (about : Option Description) : Parse Operation := do
  let kind ← operationKind
  let operationName ← optionalName
  let declarations ← group '(' ')' variableDeclaration
  let dirs ← directives maxNesting false
  return ⟨about, kind, operationName, declarations, dirs, ← selectionSet⟩

/-- Reads a named fragment after its keyword. -/
def fragment (about : Option Description) : Parse Fragment := do
  let fragmentName ← name
  if fragmentName = "on" then failure
  keyword "on"
  let condition ← name
  let dirs ← directives maxNesting false
  return ⟨about, fragmentName, condition, dirs, ← selectionSet⟩

/-- Reads a definition of a document. -/
def definition : Parse Definition := do
  let about ← description
  match ← peek? with
  | some (.punctuation '\x7b') =>
    if about.isSome then failure
    return .operation ⟨none, .query, none, [], [], ← selectionSet⟩
  | some (.name "fragment") =>
    keyword "fragment"
    return .fragment (← fragment about)
  | some (.name word) =>
    if ["query", "mutation", "subscription"].contains word then return .operation (← operation about)
    else if word = "extend" && about.isSome then failure
    else return .system (← systemDefinition)
  | _ => failure

end Parse

/-- Reads a document of at least one definition. -/
def Document.read (text : String) : Option Document := do
  let definitions ← Parse.all Parse.definition (← Token.scan text)
  if definitions.isEmpty then none else return ⟨definitions⟩

/-- Reads a text that is one type reference. -/
def TypeRef.read (text : String) : Option TypeRef := do
  match ← Parse.typeRef Parse.maxNesting (← Token.scan text) with
  | (type, []) => return type
  | _ => none

end OperationClasses
