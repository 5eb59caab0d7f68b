/-
Module: OperationClasses.Text.Holes
Purpose: Templates with named holes, as converters of scalars are written.
Main exports: HoleError, Piece, pieces, fill
-/
import OperationClasses.Text.Lines

namespace OperationClasses.Text

/-!
A template is a text in which `$name` or `${name}` stands for a hole and `$$` for one dollar. A dollar
followed by anything else is misplaced. Names are ASCII: a letter or an underscore, then letters, digits
and underscores.
-/

/-- Why a template cannot be filled. -/
inductive HoleError where
  | unknownName (name : String)
  | misplaced (place : Place)
deriving DecidableEq, Repr, Inhabited

/-- One step of a template. A misplaced dollar ends the template, because nothing after it is read. -/
inductive Piece where
  | char (c : Char)
  | hole (name : String)
  | misplaced (place : Place)
deriving DecidableEq, Repr, Inhabited

/-- A character that may start the name of a hole. -/
def isHoleStart (c : Char) : Bool := c.isAlpha || c == '_'

/-- A character that may continue the name of a hole. -/
def isHoleChar (c : Char) : Bool := c.isAlphanum || c == '_'

/-- The name that a text starts with and what follows it, if it starts with one. -/
def holeName : List Char → Option (List Char × List Char)
  | [] => none
  | c :: rest =>
    if isHoleStart c then some (c :: rest.takeWhile isHoleChar, rest.dropWhile isHoleChar) else none

theorem length_dropWhile_le {α : Type} (p : α → Bool) (l : List α) :
    (l.dropWhile p).length ≤ l.length :=
  (List.dropWhile_sublist p).length_le

theorem holeName_length {chars name rest : List Char} (h : holeName chars = some (name, rest)) :
    rest.length < chars.length := by
  cases chars with
  | nil => simp [holeName] at h
  | cons c cs =>
    simp only [holeName] at h
    split at h
    · simp only [Option.some.injEq, Prod.mk.injEq] at h
      have := length_dropWhile_le isHoleChar cs
      simp only [← h.2, List.length_cons]; omega
    · simp at h

/-- The pieces of a template; `before` holds what was read already, last character first. -/
def piecesFrom (before : List Char) (chars : List Char) : List Piece :=
  match chars with
  | [] => []
  | '$' :: '$' :: rest => .char '$' :: piecesFrom ('$' :: '$' :: before) rest
  | '$' :: '{' :: rest =>
    match _h : holeName rest with
    | some (name, '}' :: rest') =>
      .hole (String.ofList name) :: piecesFrom ('}' :: (name.reverse ++ '{' :: '$' :: before)) rest'
    | _ => [.misplaced (Place.after before.reverse)]
  | '$' :: rest =>
    match _h : holeName rest with
    | some (name, rest') => .hole (String.ofList name) :: piecesFrom (name.reverse ++ '$' :: before) rest'
    | none => [.misplaced (Place.after before.reverse)]
  | c :: rest => .char c :: piecesFrom (c :: before) rest
termination_by chars.length
decreasing_by
  · simp only [List.length_cons]; omega
  · have := holeName_length _h; simp only [List.length_cons] at this ⊢; omega
  · have := holeName_length _h; simp only [List.length_cons] at this ⊢; omega
  · simp only [List.length_cons]; omega

/-- The pieces of a template. -/
def pieces (template : String) : List Piece := piecesFrom [] template.toList

/-- Replaces each hole of a template by the text of its name. The first fault of the template is
    reported: a name without a text or a misplaced dollar. -/
def fill (holes : String → Option String) (template : String) : Except HoleError String := do
  let texts ← (pieces template).mapM fun
    | .char c => pure (String.singleton c)
    | .hole name =>
      match holes name with
      | some text => pure text
      | none => throw (.unknownName name)
    | .misplaced place => throw (.misplaced place)
  return String.join texts

/-- Fills the holes of one name. -/
def fillOne (name value : String) (template : String) : Except HoleError String :=
  fill (fun hole => if hole = name then some value else none) template

end OperationClasses.Text
