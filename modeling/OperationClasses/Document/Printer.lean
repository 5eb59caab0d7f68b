/-
Module: OperationClasses.Document.Printer
Purpose: The text of operations and fragments in canonical layout.
Main exports: Operation.print, Fragment.print, printDocument
-/
import OperationClasses.Document.Basic
import OperationClasses.Document.BlockText

namespace OperationClasses

/-!
Definitions are separated by a blank line and nested by two spaces. Arguments and the items of a value
stand on one line unless that line would be longer than 80 characters before indentation.
-/

/-- The longest line that arguments and items may share. -/
def lineWidth : Nat := 80

/-- Two spaces after every newline and at the start, unless the text is empty. -/
def nest (text : String) : String :=
  if text.isEmpty then ""
  else "  " ++ String.ofList (text.toList.flatMap fun c => if c == '\n' then ['\n', ' ', ' '] else [c])

/-- The texts that are not empty, joined. -/
def joinParts (separator : String) (parts : List String) : String :=
  separator.intercalate (parts.filter (!·.isEmpty))

/-- A text between an opening and a closing one, unless it is empty. -/
def enclose (opening text closing : String) : String :=
  if text.isEmpty then "" else opening ++ text ++ closing

/-- The parts in braces, each on a line of its own. Without parts the braces stand together. -/
def braced (parts : List String) : String :=
  if parts.isEmpty then "\x7b\x7d" else "\x7b\n" ++ nest (joinParts "\n" parts) ++ "\n\x7d"

/-- One character of a string value. -/
def Value.stringChar (c : Char) : List Char :=
  let n := c.toNat
  if c == '"' || c == '\\' then ['\\', c]
  else if n == 8 then ['\\', 'b']
  else if c == '\t' then ['\\', 't']
  else if c == '\n' then ['\\', 'n']
  else if n == 12 then ['\\', 'f']
  else if c == '\r' then ['\\', 'r']
  else if n < 0x20 || (0x7F ≤ n && n < 0xA0) then
    let digits := (Nat.toDigits 16 n).map Char.toUpper
    '\\' :: 'u' :: (List.replicate (4 - digits.length) '0' ++ digits)
  else [c]

/-- A string value with its quotes. -/
def Value.stringText (text : String) : String :=
  String.ofList ('"' :: text.toList.flatMap Value.stringChar ++ ['"'])

/-- A text that is written as a string or as a block. -/
def Value.quotedText (text : String) (block : Bool) : String :=
  if block then BlockText.print text else Value.stringText text

mutual

/-- The text of a value. -/
def Value.print : Value → String
  | .variable name => "$" ++ name
  | .int digits => digits
  | .float digits => digits
  | .string text block => Value.quotedText text block
  | .boolean value => if value then "true" else "false"
  | .null => "null"
  | .enum name => name
  | .list items =>
    let texts := Value.printItems items
    let line := "[" ++ joinParts ", " texts ++ "]"
    if lineWidth < line.length then "[\n" ++ nest (joinParts "\n" texts) ++ "\n]" else line
  | .object fields =>
    let texts := Value.printFields fields
    let line := "\x7b " ++ joinParts ", " texts ++ " \x7d"
    if lineWidth < line.length then braced texts else line

/-- The texts of the items of a list value. -/
def Value.printItems : List Value → List String
  | [] => []
  | item :: rest => item.print :: Value.printItems rest

/-- The texts of the fields of an object value. -/
def Value.printFields : List (String × Value) → List String
  | [] => []
  | (name, value) :: rest => (name ++ ": " ++ value.print) :: Value.printFields rest

end

/-- The text of an argument. -/
def Argument.print (a : Argument) : String := a.name ++ ": " ++ a.value.print

/-- The text of a directive. -/
def Directive.print (d : Directive) : String :=
  "@" ++ d.name ++ enclose "(" (joinParts ", " (d.arguments.map Argument.print)) ")"

/-- The texts of directives, separated by blanks. -/
def printDirectives (directives : List Directive) : String :=
  joinParts " " (directives.map Directive.print)

/-- The text of a field up to its selection set. -/
def FieldHead.print (head : FieldHead) : String :=
  let field := (head.aliasName.elim "" (· ++ ": ")) ++ head.name
  let args := head.arguments.map Argument.print
  let line := field ++ enclose "(" (joinParts ", " args) ")"
  let shown :=
    if lineWidth < line.length then field ++ enclose "(\n" (nest (joinParts "\n" args)) "\n)" else line
  joinParts " " [shown, printDirectives head.directives]

mutual

/-- The text of a member of a selection set. -/
def Selection.print : Selection → String
  | .leaf head => head.print
  | .nested head selections => joinParts " " [head.print, braced (Selection.printAll selections)]
  | .spread name directives => "..." ++ name ++ enclose " " (printDirectives directives) ""
  | .inline condition directives selections =>
    joinParts " " ["...", condition.elim "" ("on " ++ ·), printDirectives directives,
      braced (Selection.printAll selections)]

/-- The texts of the members of a selection set. -/
def Selection.printAll : List Selection → List String
  | [] => []
  | member :: rest => member.print :: Selection.printAll rest

end

/-- A description on a line before what it describes. -/
def printDescription (description : Option Description) : String :=
  description.elim "" fun d => Value.quotedText d.text d.block ++ "\n"

/-- The text of the declaration of a variable. -/
def VariableDeclaration.print (v : VariableDeclaration) : String :=
  printDescription v.description ++ "$" ++ v.name ++ ": " ++ v.type.text
    ++ v.default.elim "" (" = " ++ ·.print) ++ enclose " " (printDirectives v.directives) ""

/-- The declarations of variables in parentheses, on one line unless one of them takes several. Then each
    begins a line. -/
def printDeclarations (declarations : List VariableDeclaration) : String :=
  let texts := declarations.map VariableDeclaration.print
  if texts.any (·.toList.contains '\n') then "(\n" ++ joinParts "\n" texts ++ "\n)"
  else enclose "(" (joinParts ", " texts) ")"

/-- The text of an operation. A query with neither name, variables nor directives is only its selection
    set. -/
def Operation.print (o : Operation) : String :=
  let head := printDescription o.description
    ++ joinParts " " [o.kind.text, o.name.getD "" ++ printDeclarations o.declarations,
      printDirectives o.directives]
  (if head = "query" then "" else head ++ " ") ++ braced (Selection.printAll o.selections)

/-- The text of a fragment. -/
def Fragment.print (f : Fragment) : String :=
  printDescription f.description ++ "fragment " ++ f.name ++ " on " ++ f.typeCondition ++ " "
    ++ enclose "" (printDirectives f.directives) " " ++ braced (Selection.printAll f.selections)

/-- The text of an operation and its fragments. -/
def printDocument (operation : Operation) (fragments : List Fragment) : String :=
  joinParts "\n\n" (operation.print :: fragments.map Fragment.print)

end OperationClasses
