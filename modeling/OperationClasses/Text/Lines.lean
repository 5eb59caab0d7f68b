/-
Module: OperationClasses.Text.Lines
Purpose: Texts as lists of lines, indentation, and the line and column of a place in a text.
Main exports: lines, unlines, plainNewlines, indent, Place, Place.after
-/
import OperationClasses.Text.Blank

namespace OperationClasses.Text

/-- The pieces of a text between its newlines. A text without a newline is its only line. -/
def lines (text : String) : List String := (text.toList.splitOn '\n').map String.ofList

/-- The lines joined by single newlines, so `unlines (lines text) = text`. -/
def unlines (ls : List String) : String := "\n".intercalate ls

/-- The characters of a text in which a carriage return, with or without a newline after it, is a
    newline. -/
def plainNewlines : List Char → List Char
  | [] => []
  | '\r' :: '\n' :: rest => '\n' :: plainNewlines rest
  | c :: rest => (if c = '\r' then '\n' else c) :: plainNewlines rest

/-- Four blanks per level. -/
def padding (levels : Nat) : String := String.ofList (List.replicate (4 * levels) ' ')

/-- Indents every line that has something other than blanks by four spaces per level, and leaves the
    other lines as they are. -/
def indent (levels : Nat) (text : String) : String :=
  unlines ((lines text).map fun line => if isBlankText line then line else padding levels ++ line)

/-- A place in a text: line and column, both counted from one. -/
structure Place where
  line : Nat
  column : Nat
deriving DecidableEq, Repr, Inhabited

/-- Characters that end a line in the broad sense, not only the newline. -/
def isLineEnd (c : Char) : Bool :=
  let n := c.toNat
  (0x0A ≤ n && n ≤ 0x0D) || (0x1C ≤ n && n ≤ 0x1E) || n == 0x85 || n == 0x2028 || n == 0x2029

/-- The place of the character that follows the given ones, where every line end counts and a carriage
    return with its newline counts once. -/
def Place.after (before : List Char) : Place :=
  go 1 1 false before
where
  /-- Walks on from a line and column; `broken` says that a carriage return has just ended a line. -/
  go (line column : Nat) (broken : Bool) : List Char → Place
    | [] => ⟨line, column⟩
    | c :: rest =>
      if c == '\n' && broken then go line 1 false rest
      else if isLineEnd c then go (line + 1) 1 (c == '\r') rest
      else go line (column + 1) false rest

/-- The place of the character that follows the given ones, where only newlines end a line. -/
def Place.afterNewlines (before : List Char) : Place :=
  ⟨before.count '\n' + 1, (before.reverse.takeWhile (· != '\n')).length + 1⟩

end OperationClasses.Text
