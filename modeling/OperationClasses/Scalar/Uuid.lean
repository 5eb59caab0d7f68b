/-
Module: OperationClasses.Scalar.Uuid
Purpose: Unique identifiers of 128 bits, how they are written and how they are read.
Main exports: Uuid, Uuid.text, Uuid.read, UuidFault
-/
import OperationClasses.Text.Integer
import OperationClasses.Text.Quoted

namespace OperationClasses

/-- The number of unique identifiers: 2 ^ 128. -/
def uuidCount : Nat := 0x100000000000000000000000000000000

/-- A unique identifier. -/
structure Uuid where
  value : Nat
  lt_count : value < uuidCount
deriving DecidableEq, Repr

/-- An identifier as 32 hexadecimal digits in five groups. -/
def Uuid.text (u : Uuid) : String :=
  let digits := Text.hexDigits 32 u.value
  let group (start width : Nat) := (digits.drop start).take width
  String.ofList (group 0 8 ++ '-' :: group 8 4 ++ '-' :: group 12 4 ++ '-' :: group 16 4
    ++ '-' :: group 20 12)

/-- Why a text is no identifier. -/
inductive UuidFault where
  /-- it does not have 32 characters -/
  | length
  /-- it is no hexadecimal number -/
  | number (text : String)
  /-- the number is negative or too large -/
  | range
deriving DecidableEq, Repr, Inhabited

/-- The message of a text that is no identifier. -/
def UuidFault.message : UuidFault → String
  | .length => "badly formed hexadecimal UUID string"
  | .number text => "invalid literal for int() with base 16: " ++ Text.quoted text
  | .range => "int is out of range (need a 128-bit value)"

/-- The text without any occurrence of a word, from left to right. -/
def dropWord (first : Char) (others : List Char) (cs : List Char) : List Char :=
  match cs with
  | [] => []
  | c :: rest =>
    if c = first ∧ others.isPrefixOf rest then dropWord first others (rest.drop others.length)
    else c :: dropWord first others rest
termination_by cs.length
decreasing_by
  all_goals simp only [List.length_drop, List.length_cons]; omega

/-- Whether a character is a brace. -/
def isBrace (c : Char) : Bool := c == '\x7b' || c == '\x7d'

/-- The characters that count of a text: without words that mark an identifier, braces at the ends and
    hyphens. -/
def uuidChars (text : String) : List Char :=
  let cs := dropWord 'u' "uid:".toList (dropWord 'u' "rn:".toList text.toList)
  (Text.dropEnd isBrace (cs.dropWhile isBrace)).filter (· != '-')

/-- Reads an identifier. -/
def Uuid.read (text : String) : Except UuidFault Uuid :=
  let cs := uuidChars text
  if cs.length ≠ 32 then throw .length
  else
    match Text.readHexadecimal (String.ofList cs) with
    | none => throw (.number (String.ofList cs))
    | some n =>
      if h : 0 ≤ n ∧ n.toNat < uuidCount then return ⟨n.toNat, h.2⟩ else throw .range

end OperationClasses
