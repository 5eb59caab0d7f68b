/-
Module: OperationClasses.Text.Hexadecimal
Purpose: Hexadecimal digits and their values.
Main exports: hexDigits, hexDigitValue?, hexNumber?
-/

namespace OperationClasses.Text

/-- The hexadecimal digits of a number in lower case, padded with zeros to a least width. -/
def hexDigits (width n : Nat) : List Char :=
  let digits := Nat.toDigits 16 n
  List.replicate (width - digits.length) '0' ++ digits

/-- The value of a hexadecimal digit. -/
def hexDigitValue? (c : Char) : Option Nat :=
  if c.isDigit then some (c.toNat - '0'.toNat)
  else if 'a' ≤ c ∧ c ≤ 'f' then some (c.toNat - 'a'.toNat + 10)
  else if 'A' ≤ c ∧ c ≤ 'F' then some (c.toNat - 'A'.toNat + 10)
  else none

/-- The number that the first digits of a text spell, if it begins with as many. -/
def hexNumber? (length : Nat) (s : List Char) : Option Nat :=
  if s.length < length then none
  else (s.take length).foldlM (fun n c => (hexDigitValue? c).map (16 * n + ·)) 0

end OperationClasses.Text
