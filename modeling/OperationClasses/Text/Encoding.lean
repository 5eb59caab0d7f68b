/-
Module: OperationClasses.Text.Encoding
Purpose: The encoding of a text that starts with two ASCII characters, told by its null bytes, and texts in
  units of two and four bytes.
Main exports: Encoding, Encoding.ofNulls, DecodeFault, decodeUnits
-/
import OperationClasses.Text.Hexadecimal
import OperationClasses.Text.Utf8

namespace OperationClasses.Text

/-- How characters are written as bytes: in one to four bytes, or in units of two or four bytes whose first
    byte is the highest or the lowest. -/
inductive Encoding where
  | utf8
  | utf16 (highFirst : Bool)
  | utf32 (highFirst : Bool)
deriving DecidableEq, Repr, Inhabited

namespace Encoding

/-- The encoding of a text whose first two characters are ASCII. Their null bytes tell where they stand. -/
def ofNulls : List Nat → Encoding
  | [a, b] => if a = 0 then .utf16 true else if b = 0 then .utf16 false else .utf8
  | a :: b :: c :: d :: _ =>
    if a = 0 then if b = 0 then .utf32 true else .utf16 true
    else if b = 0 then if c = 0 && d = 0 then .utf32 false else .utf16 false
    else .utf8
  | _ => .utf8

/-- The name of an encoding. -/
def name : Encoding → String
  | .utf8 => "utf-8"
  | .utf16 highFirst => if highFirst then "utf-16-be" else "utf-16-le"
  | .utf32 highFirst => if highFirst then "utf-32-be" else "utf-32-le"

end Encoding

/-- Bytes that encode no character: how they were read, where they are, and whether there are too few for a
    unit or their number is too high. -/
structure DecodeFault where
  encoding : Encoding
  position : Nat
  bytes : List Nat
  truncated : Bool
deriving DecidableEq, Repr, Inhabited

/-- The message of bytes that encode no character. -/
def DecodeFault.message (f : DecodeFault) : String :=
  let place := match f.bytes with
    | [b] => "byte 0x" ++ String.ofList (hexDigits 2 b) ++ " in position " ++ toString f.position
    | bytes =>
      "bytes in position " ++ toString f.position ++ "-" ++ toString (f.position + bytes.length - 1)
  "'" ++ f.encoding.name ++ "' codec can't decode " ++ place ++ ": "
    ++ if f.truncated then "truncated data" else "code point not in range(0x110000)"

/-- The number that the bytes of a unit spell. -/
def unitValue (highFirst : Bool) (bytes : List Nat) : Nat :=
  (if highFirst then bytes else bytes.reverse).foldl (fun n b => 0x100 * n + b) 0

/-- The units of so many bytes each, from a position on. -/
def decodeUnits (encoding : Encoding) (highFirst : Bool) (width position : Nat) (bytes : List Nat) :
    Except DecodeFault (List Nat) :=
  match bytes with
  | [] => return []
  | b :: rest =>
    let unit := (b :: rest).take (width + 1)
    let n := unitValue highFirst unit
    if unit.length < width + 1 then throw ⟨encoding, position, unit, true⟩
    else if 0x10FFFF < n then throw ⟨encoding, position, unit, false⟩
    else return n :: (← decodeUnits encoding highFirst width (position + unit.length) (rest.drop width))
termination_by bytes.length
decreasing_by
  simp only [List.length_cons, List.length_drop]; omega

/-- The characters of units of two bytes. Two halves of a pair spell one character; a half that stands alone
    becomes the replacement character. -/
def ofPairs : List Nat → List Char
  | high :: low :: rest =>
    if 0xD800 ≤ high && high < 0xDC00 && 0xDC00 ≤ low && low < 0xE000 then
      Char.ofNat (0x10000 + (high - 0xD800) * 0x400 + (low - 0xDC00)) :: ofPairs rest
    else ofUnit high :: ofPairs (low :: rest)
  | [n] => [ofUnit n]
  | [] => []
where
  /-- The character of one unit. -/
  ofUnit (n : Nat) : Char := if 0xD800 ≤ n && n < 0xE000 then replacementChar else Char.ofNat n

/-- The text that bytes encode. -/
def Encoding.decode (encoding : Encoding) (bytes : List Nat) : Except DecodeFault (List Char) :=
  match encoding with
  | .utf8 => return ofUtf8Bytes bytes
  | .utf16 highFirst => (decodeUnits encoding highFirst 1 0 bytes).map ofPairs
  | .utf32 highFirst => (decodeUnits encoding highFirst 3 0 bytes).map (·.map ofPairs.ofUnit)

end OperationClasses.Text
