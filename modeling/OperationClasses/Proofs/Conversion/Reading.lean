/-
Module: OperationClasses.Proofs.Conversion.Reading
Purpose: How the code of a conversion is read: the words, marks, literals and brackets of its lines. Reading goes
  character by character, so a text can be read in pieces, and a piece that is complete on its own line reads the
  same wherever it stands.
Main exports: Code.Tree, Code.State, Code.run, Code.ReadsAs, Code.lines?
-/
import OperationClasses.Module.Syntax.TextLiteral
import OperationClasses.Proofs.Naming.Identifier
import OperationClasses.Text.Lines

namespace OperationClasses.Code

/-! ### Trees -/

/-- A piece of code. A word is an identifier, a keyword or a number; whatever is neither a word, a literal nor a
    bracket is a mark of one character. -/
inductive Tree where
  | word (text : String)
  | mark (c : Char)
  /-- a text literal: the letters before its quotes, which quotes they are, and what stands between them -/
  | literal (letters : List Char) (double long : Bool) (content : List Char)
  /-- what stands between an opening bracket and the one that closes it -/
  | group (bracket : Char) (inside : List Tree)
deriving Repr, Inhabited

/-- A line of code and whether it is indented. -/
structure Line where
  indented : Bool
  trees : List Tree
deriving Repr, Inhabited

/-! ### The state of a reader -/

/-- What has been read of the line, last piece first: trees, and the brackets that are still open. -/
inductive Item where
  | tree (t : Tree)
  | opened (bracket : Char)
deriving Repr, Inhabited

/-- What a reader is in the middle of. -/
inductive Mode where
  /-- at the start of a line, maybe after blanks -/
  | lineStart (indented : Bool)
  /-- in a word, last character first, or between two pieces if there is none -/
  | plain (word : List Char)
  | comment
  /-- after a backslash, which continues the line on the next one -/
  | continued
  /-- after the first quotes of a literal: one of them, or two -/
  | opening (letters : List Char) (double two : Bool)
  /-- in a literal, last character first, after so many of the quotes that close a long one -/
  | quoted (letters : List Char) (double long : Bool) (content : List Char) (closing : Nat) (escaped : Bool)
  /-- at something that no code has -/
  | stuck
deriving Repr, Inhabited

/-- The state of a reader: the lines it has ended, last line first, and what it has read of the line it is in. -/
structure State where
  lines : List Line := []
  indented : Bool := false
  items : List Item := []
  mode : Mode
deriving Repr, Inhabited

/-- At the start of a text. -/
def start : State := { mode := .lineStart false }

/-- In the middle of a line, between two pieces of it. -/
def resting : State := { mode := .plain [] }

/-- Whether a character separates pieces on a line. -/
def isSpace (c : Char) : Bool := c == ' ' || c == '\t' || c == '\x0c'

/-- Whether a character ends a line. -/
def isNewline (c : Char) : Bool := c == '\n' || c == '\r'

/-- The quote of a literal. -/
def quoteOf (double : Bool) : Char := if double then '"' else '\''

/-- Whether a character opens a bracket. -/
def isOpening (c : Char) : Bool := c == '(' || c == '[' || c == '\x7b'

/-- The bracket that a character closes, if it closes one. -/
def opens? (c : Char) : Option Char :=
  if c == ')' then some '(' else if c == ']' then some '[' else if c == '\x7d' then some '\x7b' else none

namespace Item

/-- Whether a bracket is still open. -/
def isOpened : Item → Bool
  | .opened _ => true
  | .tree _ => false

/-- The tree of an item that is no open bracket. -/
def tree? : Item → Option Tree
  | .tree t => some t
  | .opened _ => none

/-- Closes the bracket that was opened last with what stands inside it. -/
def close (bracket : Char) : List Tree → List Item → Option (List Item)
  | inside, .tree t :: rest => close bracket (t :: inside) rest
  | inside, .opened own :: rest => if own = bracket then some (.tree (.group own inside) :: rest) else none
  | _, [] => none

end Item

namespace State

/-- The state with one more piece of its line. -/
def push (s : State) (t : Tree) : State := { s with items := .tree t :: s.items, mode := .plain [] }

/-- The state in which a word has ended, or a literal without content. -/
def flush (s : State) : State :=
  match s.mode with
  | .plain (c :: word) => s.push (.word (String.ofList (c :: word).reverse))
  | .opening letters double true => s.push (.literal letters double false [])
  | _ => s

/-- The state after the end of a line. Inside brackets a line does not end. -/
def newline (s : State) : State :=
  if s.items.any Item.isOpened then { s with mode := .plain [] }
  else { s with lines := ⟨s.indented, (s.items.filterMap Item.tree?).reverse⟩ :: s.lines,
                indented := false, items := [], mode := .lineStart false }

/-- The state after a closing bracket, for the bracket that it closes. -/
def close (s : State) (bracket : Char) : State :=
  match Item.close bracket [] s.items with
  | some items => { s with items }
  | none => { s with mode := .stuck }

/-- The state after a character that belongs to no word and opens no literal. -/
def delimiter (s : State) (c : Char) : State :=
  if isSpace c then s
  else if isNewline c then s.newline
  else if c == '#' then { s with mode := .comment }
  else if c == '\\' then { s with mode := .continued }
  else if isOpening c then { s with items := .opened c :: s.items }
  else match opens? c with
    | some bracket => s.close bracket
    | none => s.push (.mark c)

/-- The state after a character that comes after a word, or between two pieces. -/
def plainStep (s : State) (word : List Char) (c : Char) : State :=
  if Text.isIdentifierContinue c then { s with mode := .plain (c :: word) }
  else if TextLiteral.isQuote c then
    if TextLiteral.leadingLetters.contains (String.ofList (word.reverse.map Char.toLower)) then
      { s with mode := .opening word.reverse (c == '"') false }
    else { s.flush with mode := .opening [] (c == '"') false }
  else s.flush.delimiter c

/-- The state after a character of a literal. A reader that is `flat` stops at a literal that spans lines. -/
def quotedStep (flat : Bool) (s : State) (letters : List Char) (double long : Bool) (content : List Char)
    (closing : Nat) (escaped : Bool) (c : Char) : State :=
  if flat && isNewline c then { s with mode := .stuck }
  else if escaped then { s with mode := .quoted letters double long (c :: content) 0 false }
  else if c = '\\' then { s with mode := .quoted letters double long (c :: content) 0 true }
  else if c = quoteOf double then
    if !long then s.push (.literal letters double false content.reverse)
    else if closing = 2 then s.push (.literal letters double true (content.drop 2).reverse)
    else { s with mode := .quoted letters double long (c :: content) (closing + 1) false }
  else if isNewline c && !long then { s with mode := .stuck }
  else { s with mode := .quoted letters double long (c :: content) 0 false }

end State

/-- The state after one more character. -/
def step (flat : Bool) (s : State) (c : Char) : State :=
  match s.mode with
  | .lineStart indented =>
    if isSpace c then { s with mode := .lineStart true }
    else if isNewline c then { s with mode := .lineStart false }
    else { s with indented, mode := .plain [] }.plainStep [] c
  | .plain word => s.plainStep word c
  | .comment => if isNewline c then s.newline else s
  | .continued =>
    if c = '\n' then { s with mode := .plain [] } else if c = '\r' then s else { s with mode := .stuck }
  | .opening letters double false =>
    if c = quoteOf double then { s with mode := .opening letters double true }
    else s.quotedStep flat letters double false [] 0 false c
  | .opening letters double true =>
    if c = quoteOf double then { s with mode := .quoted letters double true [] 0 false }
    else s.flush.plainStep [] c
  | .quoted letters double long content closing escaped =>
    s.quotedStep flat letters double long content closing escaped c
  | .stuck => s

/-- The state after the characters of a text. -/
def run (flat : Bool) (s : State) (text : List Char) : State := text.foldl (step flat) s

/-! ### What a text reads as -/

/-- The state with more trees on its line. -/
def State.add (s : State) (trees : List Tree) : State :=
  { s with items := (trees.map .tree).reverse ++ s.items }

/-- A text that reads as some trees wherever a line goes on with it: it ends no line and leaves no bracket open. If
    it is `flat`, then no literal of it spans lines. -/
def ReadsAs (flat : Bool) (text : String) (trees : List Tree) : Prop :=
  (run flat resting text.toList).flush = resting.add trees

/-- The state in which the line that was read last is ended too. -/
def State.finish (s : State) : State :=
  match s.flush.mode with
  | .plain [] => s.flush.newline
  | _ => s

/-- The lines of a text, if it can be read. -/
def lines? (text : String) : Option (List Line) :=
  let s := (run false start text.toList).finish
  match s.mode with
  | .lineStart _ => some s.lines.reverse
  | _ => none

end OperationClasses.Code
