/-
Module: OperationClasses.Text.Integer
Purpose: Integers as a lenient reader takes them: blanks around them, a sign, digits of every script and
  underscores between digits.
Main exports: readDecimal, readHexadecimal
-/
import OperationClasses.Text.Blank
import OperationClasses.Text.Hexadecimal
import OperationClasses.Text.Letters

namespace OperationClasses.Text

/-- White space around a number: of ASCII only the space and the five controls that move the carriage. -/
def isNumberBlank (c : Char) : Bool :=
  let n := c.toNat
  if n < 0x80 then n == 0x20 || (0x09 ≤ n && n ≤ 0x0D) else isBlank c

/-- The value of a digit in a base of at most sixteen, where decimal digits may be of any script. -/
def anyDigitValue? (base : Nat) (c : Char) : Option Nat :=
  (hexDigitValue? c <|> decimalDigitValue? c).filter (· < base)

/-- Reads digits up to the end, where a single underscore may stand between two of them. -/
def digitsValue (base total : Nat) : List Char → Option Nat
  | [] => none
  | c :: rest =>
    match anyDigitValue? base c with
    | none => none
    | some d =>
      let total := base * total + d
      match rest with
      | [] => some total
      | '_' :: rest => digitsValue base total rest
      | rest => digitsValue base total rest

/-- The text after a hexadecimal base mark and the underscore that may follow it. -/
def dropBaseMark : List Char → List Char
  | '0' :: x :: rest =>
    if x == 'x' || x == 'X' then
      match rest with
      | '_' :: rest => rest
      | rest => rest
    else '0' :: x :: rest
  | cs => cs

/-- Reads blanks around an integer, and its sign. -/
def readSigned (magnitude : List Char → Option Nat) (text : String) : Option Int :=
  match dropEnd isNumberBlank (text.toList.dropWhile isNumberBlank) with
  | '-' :: rest => (magnitude rest).map fun n => -(n : Int)
  | '+' :: rest => (magnitude rest).map fun n => (n : Int)
  | rest => (magnitude rest).map fun n => (n : Int)

/-- Reads a hexadecimal integer, which may have a base mark. -/
def readHexadecimal (text : String) : Option Int :=
  readSigned (fun cs => digitsValue 16 0 (dropBaseMark cs)) text

/-- How many digits a decimal integer may have. -/
def maxDecimalDigits : Nat := 4300

/-- Reads a decimal integer that is not too long. -/
def readDecimal (text : String) : Option Int :=
  readSigned
    (fun cs => if maxDecimalDigits < (cs.filter (· != '_')).length then none else digitsValue 10 0 cs)
    text

end OperationClasses.Text
