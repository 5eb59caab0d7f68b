/-
Module: OperationClasses.Calendar.Digits
Purpose: Decimal numbers of a fixed width.
Main exports: writeDigits, readDigits
-/

namespace OperationClasses.Calendar

/-- The digit of a number below ten. -/
def digitChar (n : Nat) : Char := Char.ofNat ('0'.toNat + n)

/-- The number of a digit. -/
def digitValue (c : Char) : Nat := c.toNat - '0'.toNat

/-- The last `width` digits of a number, leading zeros included. -/
def writeDigits : (width n : Nat) → List Char
  | 0, _ => []
  | width + 1, n => writeDigits width (n / 10) ++ [digitChar (n % 10)]

/-- The number that digits denote. -/
def digitsValue (digits : List Char) : Nat := digits.foldl (fun n c => 10 * n + digitValue c) 0

/-- Reads a number of exactly `width` digits, and what follows it. -/
def readDigits (width : Nat) (cs : List Char) : Option (Nat × List Char) :=
  let digits := cs.take width
  if digits.length = width ∧ digits.all Char.isDigit then some (digitsValue digits, cs.drop width)
  else none

end OperationClasses.Calendar
