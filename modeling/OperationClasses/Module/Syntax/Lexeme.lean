/-
Module: OperationClasses.Module.Syntax.Lexeme
Purpose: The lexemes of a generated module: words, literals, marks, and the structure of its lines: how far they are
  indented, and which blocks this opens and closes.
Main exports: Column, Column.ofLine?, BlockChange, blockChange?, Lexeme, Lexeme.scan
-/
import OperationClasses.Module.Syntax.Filling
import OperationClasses.Module.Syntax.Number
import OperationClasses.Text.IdentifierChars

namespace OperationClasses

/-- How far a line is indented: with tabs that lead to multiples of eight, and with tabs as wide as one
    space. The two must agree on which line is indented more, so that the width of tabs does not matter. -/
structure Column where
  wide : Nat
  narrow : Nat
deriving DecidableEq, Repr, Inhabited

namespace Column

/-- The column where lines begin. -/
def start : Column := ⟨0, 0⟩

/-- The column after a space. -/
def afterSpace (c : Column) : Column := ⟨c.wide + 1, c.narrow + 1⟩

/-- The column after a tab. -/
def afterTab (c : Column) : Column := ⟨(c.wide / 8 + 1) * 8, c.narrow + 1⟩

/-- The column of the first lexeme of a line that is read up to a column, or nothing if the line has none. A
    line that is continued on the next one after blanks is as far indented as these blanks reach, which are
    `joined` columns. -/
def reach (here : Column) (joined : Nat) : List Char → Option Column
  | '\\' :: '\n' :: rest => reach here (if joined = 0 then here.wide else joined) rest
  | c :: rest =>
    if c == ' ' then reach here.afterSpace joined rest
    else if c == '\t' then reach here.afterTab joined rest
    else if c == '\x0c' then reach start joined rest
    else if c == '\n' || c == '#' then none
    else some (if joined = 0 then here else ⟨joined, joined⟩)
  | [] => none

/-- The column of the first lexeme of a line, or nothing if it has none. -/
def ofLine? (s : List Char) : Option Column := reach start 0 s

end Column

/-- How many blocks a line closes, and whether it opens one, with the columns of the blocks that are open
    then, innermost first. -/
structure BlockChange where
  closed : Nat
  opened : Bool
  blocks : List Column
deriving DecidableEq, Repr, Inhabited

/-- How many blocks may lie in each other. -/
def maxBlocks : Nat := 99

/-- What a line changes about the open blocks. It closes the blocks that are further indented, and then
    either continues one or opens one, but not after closing others. -/
def blockChange? (column : Column) (blocks : List Column) : Option BlockChange :=
  let left := blocks.dropWhile fun b => column.wide < b.wide
  let top := left.head?.getD .start
  let closed := blocks.length - left.length
  if column = top then some ⟨closed, false, left⟩
  else if closed = 0 && top.wide < column.wide && top.narrow < column.narrow
      && blocks.length < maxBlocks then
    some ⟨0, true, column :: blocks⟩
  else none

/-- A lexeme. A line that is more or less indented than the one before opens or closes blocks. A text literal
    has the expressions that it is filled with. -/
inductive Lexeme where
  | word (text : String)
  | number (imaginary : Bool)
  | text (bytes : Bool) (fillings : List String)
  | mark (text : String)
  | newline
  | indent
  | dedent
deriving DecidableEq, Repr, Inhabited

namespace Lexeme

/-! ### Marks -/

/-- The marks, longer ones first. -/
def marks : List String := [
  "**=", "//=", ">>=", "<<=", "...", "->", ":=", "==", "!=", "<=", ">=", "+=", "-=", "*=", "/=", "%=",
  "@=", "&=", "|=", "^=", "**", "//", "<<", ">>", "+", "-", "*", "/", "%", "@", "&", "|", "^", "~", "<",
  ">", "(", ")", "[", "]", "\x7b", "\x7d", ",", ":", ".", ";", "="]

/-- The mark that a text starts with. -/
def markAt? (s : List Char) : Option String := marks.find? fun m => m.toList.isPrefixOf s

/-- The bracket that closes an opening one. -/
def closing? : String → Option String
  | "(" => some ")"
  | "[" => some "]"
  | "\x7b" => some "\x7d"
  | _ => none

/-- How many brackets may be open. -/
def maxBrackets : Nat := 200

/-- The brackets that are open after a mark, or nothing if it closes one that is not open or opens too
    many. -/
def bracketsAfter (m : String) (opened : List String) : Option (List String) :=
  match closing? m with
  | some close => if opened.length < maxBrackets then some (close :: opened) else none
  | none =>
    if [")", "]", "\x7d"].contains m then
      match opened with
      | close :: rest => if close = m then some rest else none
      | [] => none
    else some opened

/-! ### Lines -/

/-- A blank inside a line. -/
def isLineBlank (c : Char) : Bool := c == ' ' || c == '\t' || c == '\x0c'

/-- A character that a comment goes on with. -/
def isCommentChar (c : Char) : Bool := c != '\n'

/-- Where the reading of a module stands: the brackets and blocks that are open, and whether the line has
    a lexeme, so that it has to be ended. -/
structure Position where
  brackets : List String := []
  blocks : List Column := []
  pending : Bool := false

/-- The lexemes for the blocks that a line closes and opens. -/
def ofBlockChange (change : BlockChange) : List Lexeme :=
  List.replicate change.closed .dedent ++ if change.opened then [.indent] else []

/-- What the line that begins here opens or closes. Lines without lexemes change nothing. -/
def lineChanges (p : Position) (s : List Char) : Option (List Lexeme × Position) :=
  match Column.ofLine? s with
  | none => some ([], p)
  | some column => (blockChange? column p.blocks).map fun change =>
      (ofBlockChange change, { p with blocks := change.blocks })

/-- The lexemes that end a line. -/
def lineEnd (p : Position) : List Lexeme := if p.pending then [.newline] else []

/-! ### Single lexemes -/

/-- What is left of a text after its first characters. -/
abbrev Shorter (s : List Char) := { rest : List Char // rest.length < s.length }

/-- What is left of a text after its first character and so many more. -/
def leftAfter (c : Char) (rest : List Char) (n : Nat) : Shorter (c :: rest) :=
  ⟨rest.drop n, Nat.lt_succ_of_le (List.drop_sublist n rest).length_le⟩

/-- Reads a text literal whose quotes come after some letters. -/
def textAt (letters : List Char) (c : Char) (rest : List Char) :
    Option (Lexeme × Shorter (c :: rest)) := do
  let (literal, length) ← textLiteralAt? letters ((c :: rest).drop letters.length)
  return (.text literal.bytes (← literal.fillings?), leftAfter c rest (letters.length + length - 1))

/-- Reads a word, or a text literal with letters before its quote. -/
def wordAt (c : Char) (rest : List Char) : Option (Lexeme × Shorter (c :: rest)) :=
  let letters := rest.takeWhile Text.isIdentifierContinue
  if TextLiteral.leadingLetters.contains (String.ofList ((c :: letters).map Char.toLower))
      && (rest.drop letters.length).head?.any TextLiteral.isQuote then
    textAt (c :: letters) c rest
  else some (.word (String.ofList (c :: letters)), leftAfter c rest letters.length)

/-- Reads a number or a mark, with the brackets that are open then. -/
def numberOrMarkAt (brackets : List String) (c : Char) (rest : List Char) :
    Option (Lexeme × List String × Shorter (c :: rest)) :=
  if c.isDigit || (c == '.' && rest.head?.any Char.isDigit) then do
    let number ← numberAt? (c :: rest)
    return (.number number.imaginary, brackets, leftAfter c rest (number.length - 1))
  else do
    let m ← markAt? (c :: rest)
    return (.mark m, ← bracketsAfter m brackets, leftAfter c rest (m.length - 1))

/-- Reads one lexeme, blank, comment or line end. A line that is continued on the next one has a next
    one. -/
def step (p : Position) (c : Char) (rest : List Char) :
    Option (List Lexeme × Position × Shorter (c :: rest)) :=
  if isLineBlank c then some ([], p, leftAfter c rest (rest.takeWhile isLineBlank).length)
  else if c == '#' then some ([], p, leftAfter c rest (rest.takeWhile isCommentChar).length)
  else if c == '\n' then
    if p.brackets.isEmpty then do
      let (changes, after) ← lineChanges { p with pending := false } rest
      return (lineEnd p ++ changes, after, leftAfter c rest 0)
    else some ([], p, leftAfter c rest 0)
  else if c == '\\' then
    match rest with
    | '\n' :: d :: more => some ([], p, leftAfter c ('\n' :: d :: more) 1)
    | _ => none
  else
    let p := { p with pending := true }
    if TextLiteral.isQuote c then do
      let (lexeme, left) ← textAt [] c rest
      return ([lexeme], p, left)
    else if Text.isIdentifierStart c then do
      let (lexeme, left) ← wordAt c rest
      return ([lexeme], p, left)
    else do
      let (lexeme, brackets, left) ← numberOrMarkAt p.brackets c rest
      return ([lexeme], { p with brackets := brackets }, left)

/-! ### Whole texts -/

/-- The lexemes of the rest of a module, or nothing if it has none. At the end all lines and blocks are
    ended, and no bracket may be open. -/
def scanFrom (p : Position) (s : List Char) : Option (List Lexeme) :=
  match s with
  | [] =>
    if p.brackets.isEmpty then some (lineEnd p ++ List.replicate p.blocks.length .dedent) else none
  | c :: rest => do
    let (lexemes, p, ⟨left, _h⟩) ← step p c rest
    return lexemes ++ (← scanFrom p left)
termination_by s.length
decreasing_by assumption

/-- Turns the other line ends into newlines. -/
def normalizeLines : List Char → List Char
  | '\r' :: '\n' :: rest => '\n' :: normalizeLines rest
  | '\r' :: rest => '\n' :: normalizeLines rest
  | c :: rest => c :: normalizeLines rest
  | [] => []

/-- The lexemes of a module text. -/
def scan (text : String) : Option (List Lexeme) := do
  let chars := normalizeLines text.toList
  let (changes, p) ← lineChanges {} chars
  return changes ++ (← scanFrom p chars)

end Lexeme

end OperationClasses
