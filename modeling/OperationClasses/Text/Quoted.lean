/-
Module: OperationClasses.Text.Quoted
Purpose: String literals of the generated modules, also used to show a text inside a message.
Main exports: quoted, quotedOrNone
-/
import OperationClasses.Text.Hexadecimal
import OperationClasses.Text.Printable

namespace OperationClasses.Text

/-- One character of a literal in the given quotes: the quote, the backslash and the usual three
    control characters have short escapes, other characters that are not printable have numbers. -/
def quotedChar (quote : Char) (c : Char) : List Char :=
  if c == quote || c == '\\' then ['\\', c]
  else if c == '\n' then ['\\', 'n']
  else if c == '\t' then ['\\', 't']
  else if c == '\r' then ['\\', 'r']
  else if isPrintable c then [c]
  else if c.toNat ≤ 0xFF then '\\' :: 'x' :: hexDigits 2 c.toNat
  else if c.toNat ≤ 0xFFFF then '\\' :: 'u' :: hexDigits 4 c.toNat
  else '\\' :: 'U' :: hexDigits 8 c.toNat

/-- Single quotes, unless the text holds a single quote and no double one. -/
def quoteFor (chars : List Char) : Char :=
  if chars.contains '\'' && !chars.contains '"' then '"' else '\''

/-- The literal that denotes a text. -/
def quoted (text : String) : String :=
  let chars := text.toList
  let quote := quoteFor chars
  String.ofList (quote :: chars.flatMap (quotedChar quote) ++ [quote])

/-- The literal of a text that may be absent. -/
def quotedOrNone : Option String → String
  | none => "None"
  | some text => quoted text

/-- The literal of a tuple of texts: a single one keeps its comma. -/
def quotedTuple : List String → String
  | [] => "()"
  | [text] => "(" ++ quoted text ++ ",)"
  | texts => "(" ++ ", ".intercalate (texts.map quoted) ++ ")"

/-- The literal of a list of texts. -/
def quotedList (texts : List String) : String :=
  "[" ++ ", ".intercalate (texts.map quoted) ++ "]"

end OperationClasses.Text
