/-
Module: OperationClasses.Module.Syntax.Reading
Purpose: Readers of lexemes: single marks, words and names, and what comes next.
Main exports: Reads
-/
import OperationClasses.Module.Syntax.Lexeme
import OperationClasses.Naming.Reserved

namespace OperationClasses

/-- Reads something from the start of a list of lexemes, or fails. -/
abbrev Reads (α : Type) := StateT (List Lexeme) Option α

namespace Reads

/-- Reads the given lexeme. -/
def lexeme (l : Lexeme) : Reads Unit := fun
  | [] => none
  | head :: rest => if head = l then some ((), rest) else none

/-- Reads one of the given lexemes if one comes next, and says whether it did. -/
def optionalOf (among : List Lexeme) : Reads Bool := fun
  | [] => some (false, [])
  | head :: rest => if among.contains head then some (true, rest) else some (false, head :: rest)

/-- Reads the given lexeme if it comes next, and says whether it did. -/
def optional (l : Lexeme) : Reads Bool := optionalOf [l]

/-- Whether one of the given lexemes comes next. -/
def next (among : List Lexeme) : Reads Bool := fun s => some (s.head?.any among.contains, s)

/-- Reads a mark. -/
def mark (m : String) : Reads Unit := lexeme (.mark m)

/-- Reads a mark if it comes next, and says whether it did. -/
def optionalMark (m : String) : Reads Bool := optional (.mark m)

/-- Whether a mark comes next. -/
def nextMark (m : String) : Reads Bool := next [.mark m]

/-- Reads a keyword. -/
def keyword (w : String) : Reads Unit := lexeme (.word w)

/-- Reads a keyword if it comes next, and says whether it did. -/
def optionalKeyword (w : String) : Reads Bool := optional (.word w)

/-- Reads a word that is not a keyword. -/
def name : Reads Unit := fun
  | .word w :: rest => if Naming.keywords.contains w then none else some ((), rest)
  | _ => none

/-- Whether a name comes next and then a mark. -/
def nextNameAnd (m : String) : Reads Bool := fun s =>
  match s with
  | .word w :: .mark m' :: _ => some (!Naming.keywords.contains w && m' == m, s)
  | _ => some (false, s)

/-- Reads the text literals that come next, which must all be of bytes or all not. -/
def moreTexts (bytes : Bool) : Reads Unit := fun s =>
  match s with
  | .text b _ :: rest => if b = bytes then moreTexts bytes rest else none
  | _ => some ((), s)

/-- Reads something if it comes next, and says whether it did. Nothing is read if it does not. -/
def attempt (r : Reads Unit) : Reads Bool := fun s =>
  match r s with
  | some ((), rest) => some (true, rest)
  | none => some (false, s)

/-- Whether something reads all lexemes, given a bound in proportion to their number. -/
def accepts (r : Nat → Reads Unit) (lexemes : List Lexeme) : Bool :=
  match r (20 * lexemes.length + 20) lexemes with
  | some ((), rest) => rest.isEmpty
  | none => false

end Reads

end OperationClasses
