/-
Module: OperationClasses.Text.Letters
Purpose: Classes of letters and digits, and the case of a character.
Main exports: isDecimalDigit, decimalDigitValue?, lowerChar, upperChar, titleChar, lower, upper
-/

namespace OperationClasses.Text

/-- Ranges of decimal digits of every script, both ends included. -/
def decimalDigitRanges : Array (Nat × Nat) := #[
  (0x660, 0x669), (0x6F0, 0x6F9), (0x7C0, 0x7C9), (0x966, 0x96F), (0x9E6, 0x9EF),
  (0xA66, 0xA6F), (0xAE6, 0xAEF), (0xB66, 0xB6F), (0xBE6, 0xBEF), (0xC66, 0xC6F), (0xCE6, 0xCEF),
  (0xD66, 0xD6F), (0xDE6, 0xDEF), (0xE50, 0xE59), (0xED0, 0xED9), (0xF20, 0xF29), (0x1040, 0x1049),
  (0x1090, 0x1099), (0x17E0, 0x17E9), (0x1810, 0x1819), (0x1946, 0x194F), (0x19D0, 0x19D9),
  (0x1A80, 0x1A89), (0x1A90, 0x1A99), (0x1B50, 0x1B59), (0x1BB0, 0x1BB9), (0x1C40, 0x1C49),
  (0x1C50, 0x1C59), (0xA620, 0xA629), (0xA8D0, 0xA8D9), (0xA900, 0xA909), (0xA9D0, 0xA9D9),
  (0xA9F0, 0xA9F9), (0xAA50, 0xAA59), (0xABF0, 0xABF9), (0xFF10, 0xFF19), (0x104A0, 0x104A9),
  (0x10D30, 0x10D39), (0x11066, 0x1106F), (0x110F0, 0x110F9), (0x11136, 0x1113F),
  (0x111D0, 0x111D9), (0x112F0, 0x112F9), (0x11450, 0x11459), (0x114D0, 0x114D9),
  (0x11650, 0x11659), (0x116C0, 0x116C9), (0x11730, 0x11739), (0x118E0, 0x118E9),
  (0x11950, 0x11959), (0x11C50, 0x11C59), (0x11D50, 0x11D59), (0x11DA0, 0x11DA9),
  (0x16A60, 0x16A69), (0x16AC0, 0x16AC9), (0x16B50, 0x16B59), (0x1D7CE, 0x1D7FF),
  (0x1E140, 0x1E149), (0x1E2F0, 0x1E2F9), (0x1E950, 0x1E959), (0x1FBF0, 0x1FBF9)]

/-- A decimal digit of any script. ASCII is decided without the table. -/
def isDecimalDigit (c : Char) : Bool :=
  if c.toNat < 0x80 then c.isDigit
  else decimalDigitRanges.any fun (low, high) => low ≤ c.toNat && c.toNat ≤ high

/-- The value of a decimal digit of any script. Every range holds digits from zero on, in order. -/
def decimalDigitValue? (c : Char) : Option Nat :=
  if c.toNat < 0x80 then if c.isDigit then some (c.toNat - '0'.toNat) else none
  else
    (decimalDigitRanges.find? fun (low, high) => low ≤ c.toNat && c.toNat ≤ high).map
      fun (low, _) => (c.toNat - low) % 10

/-- The lower-case form of a character: ASCII, Latin-1, and the letters beyond whose lower-case form
    begins in ASCII or Latin-1. Other characters stay as they are. -/
def lowerChar (c : Char) : List Char :=
  let n := c.toNat
  if n < 0x80 then [c.toLower]
  else if 0xC0 ≤ n ∧ n ≤ 0xDE ∧ n ≠ 0xD7 then [Char.ofNat (n + 0x20)]
  else if n = 0x130 then ['i', Char.ofNat 0x307]
  else if n = 0x178 then [Char.ofNat 0xFF]
  else if n = 0x1E9E then [Char.ofNat 0xDF]
  else if n = 0x212A then ['k']
  else if n = 0x212B then [Char.ofNat 0xE5]
  else [c]

/-- The upper-case form of a character, over the same range as `lowerChar`. The sharp s has two. -/
def upperChar (c : Char) : List Char :=
  let n := c.toNat
  if n < 0x80 then [c.toUpper]
  else if n = 0xB5 then [Char.ofNat 0x39C]
  else if n = 0xDF then ['S', 'S']
  else if 0xE0 ≤ n ∧ n ≤ 0xFE ∧ n ≠ 0xF7 then [Char.ofNat (n - 0x20)]
  else if n = 0xFF then [Char.ofNat 0x178]
  else if n = 0x131 then ['I']
  else if n = 0x17F then ['S']
  else [c]

/-- The form of a character that starts a capitalised word. -/
def titleChar (c : Char) : List Char :=
  if c.toNat = 0xDF then ['S', 's'] else upperChar c

/-- A text with every character in lower case. -/
def lower (text : String) : String := String.ofList (text.toList.flatMap lowerChar)

/-- A text with every character in upper case. -/
def upper (text : String) : String := String.ofList (text.toList.flatMap upperChar)

end OperationClasses.Text
