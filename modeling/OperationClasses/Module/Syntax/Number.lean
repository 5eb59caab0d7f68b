/-
Module: OperationClasses.Module.Syntax.Number
Purpose: The number literals of a generated module: how far one reaches, and whether it is imaginary.
Main exports: Number, numberAt?
-/
import OperationClasses.Text.Hexadecimal
import OperationClasses.Text.Integer

namespace OperationClasses

/-- A number literal at the start of a text: how many characters it has, and whether it is imaginary. -/
structure Number where
  length : Nat
  imaginary : Bool
deriving DecidableEq, Repr, Inhabited

namespace Number

/-! ### Digits -/

/-- The number of characters of the digits that a text starts with. Single underscores may stand between
    digits. -/
def digitRun (isDigit : Char → Bool) : List Char → Nat
  | '_' :: c :: rest => if isDigit c then 2 + digitRun isDigit rest else 0
  | c :: rest => if isDigit c then 1 + digitRun isDigit rest else 0
  | [] => 0

/-- Digits that a text starts with, the first of them not after an underscore. -/
def digits (isDigit : Char → Bool) : List Char → Nat
  | c :: rest => if isDigit c then 1 + digitRun isDigit rest else 0
  | [] => 0

/-- A hexadecimal digit. -/
def isHex (c : Char) : Bool := (Text.hexDigitValue? c).isSome

/-- An octal digit. -/
def isOctal (c : Char) : Bool := '0' ≤ c && c ≤ '7'

/-- A binary digit. -/
def isBinary (c : Char) : Bool := c == '0' || c == '1'

/-! ### Kinds of numbers -/

/-- The length of a number with a mark of its base, after which an underscore may stand. -/
def basedLength? (isDigit : Char → Bool) (rest : List Char) : Option Nat :=
  let n := digitRun isDigit rest
  if n = 0 then none else some (2 + n)

/-- The number of characters of the exponent that a text starts with. -/
def exponentLength : List Char → Nat
  | e :: rest =>
    if e == 'e' || e == 'E' then
      match rest with
      | '+' :: more => if digits Char.isDigit more = 0 then 0 else 2 + digits Char.isDigit more
      | '-' :: more => if digits Char.isDigit more = 0 then 0 else 2 + digits Char.isDigit more
      | more => if digits Char.isDigit more = 0 then 0 else 1 + digits Char.isDigit more
    else 0
  | [] => 0

/-- Whether these digits may spell a whole number: one other than zero has no leading zero and not too many
    digits. -/
def isWholeNumber (digits : List Char) : Bool :=
  let plain := digits.filter (· != '_')
  if digits.head? == some '0' then plain.all (· == '0') else plain.length ≤ Text.maxDecimalDigits

/-- The decimal number that a text starts with. -/
def decimalAt? (s : List Char) : Option Number :=
  let whole := digits Char.isDigit s
  let fraction := match s.drop whole with
    | '.' :: rest => 1 + digits Char.isDigit rest
    | _ => 0
  if whole = 0 && fraction ≤ 1 then none
  else
    let exponent := exponentLength (s.drop (whole + fraction))
    let plain := whole + fraction + exponent
    if (s.drop plain).head?.any fun c => c == 'j' || c == 'J' then some ⟨plain + 1, true⟩
    else if fraction = 0 && exponent = 0 && !isWholeNumber (s.take whole) then none
    else some ⟨plain, false⟩

/-- The length of a number with a mark of its base, or nothing if the text starts with no such mark. -/
def baseAt? : List Char → Option (Option Nat)
  | '0' :: mark :: rest =>
    if mark == 'x' || mark == 'X' then some (basedLength? isHex rest)
    else if mark == 'o' || mark == 'O' then some (basedLength? isOctal rest)
    else if mark == 'b' || mark == 'B' then some (basedLength? isBinary rest)
    else none
  | _ => none

/-- The words that may follow a number with nothing between them. -/
def followingWords : List String := ["and", "else", "for", "if", "in", "is", "not", "or"]

/-- Whether a number may end before this text: no letter or digit follows, except for one of a few words. -/
def mayEndBefore (s : List Char) : Bool :=
  !(s.head?.any fun c => c.isAlphanum || c == '_' || 0x80 ≤ c.toNat)
    || followingWords.any fun w => w.toList.isPrefixOf s

end Number

/-- The number literal that a text starts with. -/
def numberAt? (s : List Char) : Option Number := do
  let number ← match Number.baseAt? s with
    | some length => length.map fun n => ⟨n, false⟩
    | none => Number.decimalAt? s
  if Number.mayEndBefore (s.drop number.length) then some number else none

end OperationClasses
