/-
Module: OperationClasses.Transport.Bytes
Purpose: The bytes of a text as ASCII characters: four for every three bytes, or percent signs with two hexadecimal
  digits for each byte.
Main exports: base64, percentEncode, percentDecode
-/
import OperationClasses.Text.Quoted
import OperationClasses.Text.Utf8

namespace OperationClasses

/-- The 64 characters in the order of their values. -/
def base64Alphabet : List Char :=
  "ABCDEFGHIJKLMNOPQRSTUVWXYZabcdefghijklmnopqrstuvwxyz0123456789+/".toList

/-- The character of a six-bit value. -/
def base64Char (n : Nat) : Char := base64Alphabet.getD (n % 64) 'A'

/-- Bytes in groups of three as four characters each. An equals sign fills up for each missing byte. -/
def base64Chars : List Nat → List Char
  | a :: b :: c :: rest =>
    let n := 0x10000 * a + 0x100 * b + c
    base64Char (n / 0x40000) :: base64Char (n / 0x1000) :: base64Char (n / 0x40) :: base64Char n
      :: base64Chars rest
  | [a, b] =>
    let n := 0x10000 * a + 0x100 * b
    [base64Char (n / 0x40000), base64Char (n / 0x1000), base64Char (n / 0x40), '=']
  | [a] =>
    let n := 0x10000 * a
    [base64Char (n / 0x40000), base64Char (n / 0x1000), '=', '=']
  | [] => []

/-- The bytes of a text in base 64. -/
def base64 (text : String) : String := String.ofList (base64Chars (Text.utf8Bytes text.toList))

/-- The bytes of a character, each as a percent sign with two capital hexadecimal digits. -/
def percentChars (c : Char) : List Char :=
  (Text.charBytes c).flatMap fun b => '%' :: (Text.hexDigits 2 b).map Char.toUpper

/-- Encodes the characters that are not ASCII or stand in `unsafeChars`, and controls. Percent signs stay
    as they are, so that encoding twice is encoding once. -/
def percentEncode (unsafeChars : String) (text : String) : String :=
  String.ofList (text.toList.flatMap fun c =>
    if 0x20 < c.toNat && c.toNat < 0x7F && !unsafeChars.toList.contains c then [c]
    else percentChars c)

/-- The bytes of a text in which percent signs with two hexadecimal digits stand for bytes. -/
def percentBytes : List Char → List Nat
  | [] => []
  | [c] => Text.charBytes c
  | [c, d] => Text.charBytes c ++ Text.charBytes d
  | c :: d :: e :: rest =>
    match c, Text.hexDigitValue? d, Text.hexDigitValue? e with
    | '%', some high, some low => (16 * high + low) :: percentBytes rest
    | _, _, _ => Text.charBytes c ++ percentBytes (d :: e :: rest)

/-- The text that percent signs with hexadecimal digits stand for. -/
def percentDecode (text : String) : String :=
  String.ofList (Text.ofUtf8Bytes (percentBytes text.toList))

end OperationClasses
