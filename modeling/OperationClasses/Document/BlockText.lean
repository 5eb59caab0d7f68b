/-
Module: OperationClasses.Document.BlockText
Purpose: Block strings: the value of the raw text between triple quotes, and the text for a value.
Main exports: BlockText.value, BlockText.print
-/
import OperationClasses.Text.Lines

namespace OperationClasses.BlockText

/-- A blank that counts as indentation. -/
def isIndent (c : Char) : Bool := c == ' ' || c == '\t'

/-- The lines of a raw block text, where each of the three line ends counts. `line` holds the line that is
    being read, last character first. -/
def rawLines (line : List Char) : List Char → List (List Char)
  | [] => [line.reverse]
  | '\r' :: '\n' :: rest => line.reverse :: rawLines [] rest
  | c :: rest =>
    if c == '\n' || c == '\r' then line.reverse :: rawLines [] rest else rawLines (c :: line) rest

/-- A line of indentation only. -/
def isEmptyLine (line : List Char) : Bool := line.all isIndent

/-- The least indentation of the lines that are not empty. -/
def commonIndent (lines : List (List Char)) : Option Nat :=
  ((lines.filter fun line => !isEmptyLine line).map fun line => (line.takeWhile isIndent).length).min?

/-- The lines without the indentation that all but the first share, and without the empty lines at either
    end. -/
def dedent (lines : List (List Char)) : List (List Char) :=
  let cut := (commonIndent (lines.drop 1)).getD 0
  -- a line that has nothing but indentation may be shorter than the cut
  let dedented := lines.take 1 ++ (lines.drop 1).map (·.drop cut)
  let kept := (lines.zip dedented).dropWhile fun (raw, _) => isEmptyLine raw
  ((kept.reverse.dropWhile fun (raw, _) => isEmptyLine raw).reverse).map (·.2)

/-- The value of a raw block text. -/
def value (raw : List Char) : String :=
  Text.unlines ((dedent (rawLines [] raw)).map String.ofList)

/-- Writes a triple quote inside a block text with a backslash before it. -/
def escapeQuotes : List Char → List Char
  | '"' :: '"' :: '"' :: rest => '\\' :: '"' :: '"' :: '"' :: escapeQuotes rest
  | c :: rest => c :: escapeQuotes rest
  | [] => []

/-- A value between triple quotes. It is set on lines of its own if it has several lines, is long, or ends
    in a way that would run into the quotes. -/
def print (text : String) : String :=
  let chars := text.toList
  let escaped := escapeQuotes chars
  let lines := escaped.splitOn '\n'
  let single := lines.length ≤ 1
  let allIndented := 1 < lines.length && (lines.drop 1).all fun line => line.head?.all isIndent
  let endsInTriple := "\\\"\"\"".toList.isSuffixOf escaped
  let endsInQuote := chars.getLast? == some '"' && !endsInTriple
  let endsInSlash := chars.getLast? == some '\\'
  let ownLastLine := endsInQuote || endsInSlash
  let spread := !single || 70 < chars.length || ownLastLine || allIndented || endsInTriple
  let keepFirst := single && chars.head?.any isIndent
  let opening := if (spread && !keepFirst) || allIndented then "\n" else ""
  let closing := if spread || ownLastLine then "\n" else ""
  "\"\"\"" ++ opening ++ String.ofList escaped ++ closing ++ "\"\"\""

end OperationClasses.BlockText
