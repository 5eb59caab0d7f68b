/-
Module: OperationClasses.Text.Similarity
Purpose: How much of two texts agrees, and the names that a mistyped one may have meant.
Main exports: matchedLength, areSimilar, similarNames
-/

namespace OperationClasses.Text

/-- The number of letters that two lists begin with in common. -/
def sharedStart : List Char → List Char → Nat
  | a :: as, b :: bs => if a = b then sharedStart as bs + 1 else 0
  | _, _ => 0

/-- A run of letters that stands at one place in a text and at another in a second one. -/
structure CommonRun where
  left : Nat
  right : Nat
  length : Nat
deriving DecidableEq, Repr, Inhabited

/-- The runs that begin anywhere in two texts, as far as each goes. -/
def commonRuns (a b : List Char) : List CommonRun :=
  (List.range a.length).flatMap fun i =>
    (List.range b.length).map fun j => ⟨i, j, sharedStart (a.drop i) (b.drop j)⟩

/-- The longest run that two texts have in common: of several, the first in the left text, and of those the
    first in the right one. -/
def longestRun (a b : List Char) : Option CommonRun :=
  ((commonRuns a b).filter (·.length != 0)).foldl (fun best r =>
    match best with
    | none => some r
    | some s => if s.length < r.length then some r else some s) none

/-- The number of letters in the longest run that two texts have in common, in the longest one before it and
    in the longest one after it, and so on. -/
def matchedLength (a b : List Char) : Nat :=
  match longestRun a b with
  | none => 0
  | some r =>
    if _h : r.left < a.length ∧ r.length ≠ 0 then
      r.length + matchedLength (a.take r.left) (b.take r.right)
        + matchedLength (a.drop (r.left + r.length)) (b.drop (r.right + r.length))
    else 0
termination_by a.length
decreasing_by
  · simp only [List.length_take]; omega
  · simp only [List.length_drop]; omega

/-- Whether at least three of five letters of two texts together are matched. -/
def areSimilar (a b : List Char) : Bool :=
  3 * (a.length + b.length) ≤ 10 * matchedLength a b

/-- The order of similar names: the one with more of its letters matched, and of equal ones the later one. -/
def isCloser (name : String) (a b : String) : Bool :=
  let x := matchedLength a.toList name.toList * (b.length + name.length)
  let y := matchedLength b.toList name.toList * (a.length + name.length)
  decide (y < x) || (x == y && decide (b ≤ a))

/-- The names that are similar to a given one, at most the three most similar of them, in order. -/
def similarNames (name : String) (known : List String) : List String :=
  let found := (known.filter fun k => areSimilar k.toList name.toList).mergeSort (isCloser name)
  (found.take 3).mergeSort fun a b => decide (a ≤ b)

end OperationClasses.Text
