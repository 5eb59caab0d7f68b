/-
Module: OperationClasses.Json.Equality
Purpose: Equality of JSON values as data: numbers by value, objects without regard to order.
Main exports: Json.sameData
-/
import OperationClasses.Json.Basic

namespace OperationClasses.Json

/-- The integer that a truth value or an integer counts as. -/
def integer? : Json → Option Int
  | .bool value => some (if value then 1 else 0)
  | .int value => some value
  | _ => none

/-- Whether two values that are neither collections nor texts are the same number or both null. -/
def sameScalar (a b : Json) : Bool :=
  match a, b with
  | .null, .null => true
  | .float x, .float y => x.numEq y
  | .float x, other => other.integer?.any x.eqInt
  | other, .float y => other.integer?.any y.eqInt
  | other, another =>
    match other.integer?, another.integer? with
    | some m, some n => m == n
    | _, _ => false

mutual

/-- Whether two values hold the same data. Truth values count as the numbers one and zero, integers equal
    the floating-point numbers of their value, lists have an order and objects have none. -/
def sameData : Json → Json → Bool
  | .str a, b =>
    match b with
    | .str b => a == b
    | _ => false
  | .arr xs, b =>
    match b with
    | .arr ys => sameItems xs ys
    | _ => false
  | .obj members, b =>
    match b with
    | .obj others => members.length == others.length && sameMembers members others
    | _ => false
  | .null, b => sameScalar .null b
  | .bool value, b => sameScalar (.bool value) b
  | .int value, b => sameScalar (.int value) b
  | .float value, b => sameScalar (.float value) b

/-- Whether two lists hold the same data item by item. -/
def sameItems : List Json → List Json → Bool
  | [], ys => ys.isEmpty
  | x :: xs, ys =>
    match ys with
    | [] => false
    | y :: ys => x.sameData y && sameItems xs ys

/-- Whether every member has a member of the same key and data among the others. -/
def sameMembers : List (String × Json) → List (String × Json) → Bool
  | [], _ => true
  | (key, value) :: rest, others =>
    (match others.lookup key with
      | some other => value.sameData other
      | none => false) && sameMembers rest others

end

end OperationClasses.Json
