/-
Module: OperationClasses.Json.Reader
Purpose: Reading JSON text, with the place and kind of the first fault.
Main exports: Json.Fault, Json.Malformed, Json.Malformed.message, Json.read
-/
import OperationClasses.Json.Basic
import OperationClasses.Text.Integer
import OperationClasses.Text.Lines

namespace OperationClasses.Json

/-- What is wrong with a text that is not JSON. -/
inductive Fault where
  | valueExpected
  | propertyNameExpected
  | colonExpected
  | commaExpected
  | extraData
  | unterminatedString
  | controlCharacter
  | badEscape
  | badUnicodeEscape
  /-- a mark of the order of bytes in a text that is not made of bytes -/
  | byteOrderMark
  /-- an integer with more digits than are taken -/
  | integerTooLong (digits : Nat)
  /-- an array or object inside of too many others -/
  | nestedTooDeeply (kind : String)
deriving DecidableEq, Repr, Inhabited

/-- The words for a fault. -/
def Fault.words : Fault → String
  | .valueExpected => "Expecting value"
  | .propertyNameExpected => "Expecting property name enclosed in double quotes"
  | .colonExpected => "Expecting ':' delimiter"
  | .commaExpected => "Expecting ',' delimiter"
  | .extraData => "Extra data"
  | .unterminatedString => "Unterminated string starting at"
  | .controlCharacter => "Invalid control character at"
  | .badEscape => "Invalid \\escape"
  | .badUnicodeEscape => "Invalid \\uXXXX escape"
  | .byteOrderMark => "Unexpected UTF-8 BOM (decode using utf-8-sig)"
  | .nestedTooDeeply kind =>
    "maximum recursion depth exceeded while decoding a JSON " ++ kind ++ " from a unicode string"
  | .integerTooLong digits =>
    "Exceeds the limit (" ++ toString Text.maxDecimalDigits
      ++ " digits) for integer string conversion: value has " ++ toString digits
      ++ " digits; use sys.set_int_max_str_digits() to increase the limit"

/-- Whether a fault lies in how the text is written, and not in what it says. -/
def Fault.isOfForm : Fault → Bool
  | .integerTooLong _ => false
  | .nestedTooDeeply _ => false
  | _ => true

/-- A fault and where it is: the characters before it. -/
structure Malformed where
  fault : Fault
  offset : Nat
  place : Text.Place
deriving DecidableEq, Repr, Inhabited

/-- The message of a malformed text. A fault of form is given with its place. -/
def Malformed.message (m : Malformed) : String :=
  if m.fault.isOfForm then
    m.fault.words ++ ": line " ++ toString m.place.line ++ " column " ++ toString m.place.column
      ++ " (char " ++ toString m.offset ++ ")"
  else m.fault.words

/-- A fault while reading, with what was left of the text at its place. -/
abbrev Stop := Fault × Nat

/-- What is left of a text after something was read from its start. -/
abbrev Rest (s : List Char) := { rest : List Char // rest.length < s.length }

/-- The result of reading something from the start of a text. -/
abbrev Reading (α : Type) (s : List Char) := Except Stop (α × Rest s)

/-- The four blanks of JSON. -/
def isJsonBlank (c : Char) : Bool := c == ' ' || c == '\t' || c == '\n' || c == '\r'

/-- The text after its leading blanks. -/
def skip (s : List Char) : List Char := s.dropWhile isJsonBlank

theorem length_skip_le (s : List Char) : (skip s).length ≤ s.length :=
  (List.dropWhile_sublist isJsonBlank).length_le

/-- The code unit of a further escape, if the text starts with one. -/
def nextUnit? : List Char → Option Nat
  | '\\' :: 'u' :: rest => Text.hexNumber? 4 rest
  | _ => none

/-- The character that an escaped letter stands for. -/
def simpleEscape? : Char → Option Char
  | '"' => some '"'
  | '\\' => some '\\'
  | '/' => some '/'
  | 'b' => some (Char.ofNat 8)
  | 'f' => some (Char.ofNat 12)
  | 'n' => some '\n'
  | 'r' => some '\r'
  | 't' => some '\t'
  | _ => none

/-- Reads a string after its opening quote. `opening` is what was left of the text at that quote. Half of
    a surrogate pair that stands alone becomes the replacement character. -/
def readString (opening : Nat) (read : List Char) (s : List Char) :
    Except Stop (String × { rest : List Char // rest.length ≤ s.length }) :=
  match s with
  | [] => throw (.unterminatedString, opening)
  | '"' :: rest => return (String.ofList read.reverse, ⟨rest, by simp only [List.length_cons]; omega⟩)
  | ['\\'] => throw (.unterminatedString, opening)
  | '\\' :: 'u' :: rest =>
    match Text.hexNumber? 4 rest, decide (4 < rest.length) with
    | some unit, true =>
      let low := nextUnit? (rest.drop 4)
      if 0xD800 ≤ unit ∧ unit < 0xDC00 ∧ (low.any fun l => 0xDC00 ≤ l && l < 0xE000) then do
        let c := Char.ofNat (0x10000 + (unit - 0xD800) * 0x400 + (low.getD 0 - 0xDC00))
        let (text, ⟨tail, h⟩) ← readString opening (c :: read) (rest.drop 10)
        return (text, ⟨tail, by simp only [List.length_cons, List.length_drop] at h ⊢; omega⟩)
      else do
        let c := if 0xD800 ≤ unit ∧ unit < 0xE000 then Char.ofNat 0xFFFD else Char.ofNat unit
        let (text, ⟨tail, h⟩) ← readString opening (c :: read) (rest.drop 4)
        return (text, ⟨tail, by simp only [List.length_cons, List.length_drop] at h ⊢; omega⟩)
    | _, _ => throw (.badUnicodeEscape, rest.length + 1)
  | '\\' :: c :: rest =>
    match simpleEscape? c with
    | some d => do
      let (text, ⟨tail, h⟩) ← readString opening (d :: read) rest
      return (text, ⟨tail, by simp only [List.length_cons]; omega⟩)
    | none => throw (.badEscape, rest.length + 2)
  | c :: rest =>
    if c.toNat < 0x20 then throw (.controlCharacter, rest.length + 1)
    else do
      let (text, ⟨tail, h⟩) ← readString opening (c :: read) rest
      return (text, ⟨tail, by simp only [List.length_cons]; omega⟩)
termination_by s.length
decreasing_by all_goals (simp only [List.length_cons, List.length_drop]; omega)

/-- The digits that a text starts with. -/
def digitsOf (s : List Char) : List Char := s.takeWhile Char.isDigit

/-- The number that decimal digits spell. -/
def numberOf (digits : List Char) : Nat :=
  digits.foldl (fun n c => 10 * n + (c.toNat - '0'.toNat)) 0

/-- The parts of a number: whether it is negative, its whole part, its fraction, and its exponent with
    whether that is negative. -/
structure Numeral where
  negative : Bool
  whole : List Char
  fraction : Option (List Char)
  exponent : Option (Bool × List Char)
deriving DecidableEq, Repr, Inhabited

/-- The number of characters of a numeral, apart from the sign of its exponent. -/
def Numeral.plainLength (n : Numeral) : Nat :=
  (if n.negative then 1 else 0) + n.whole.length
    + (n.fraction.elim 0 (·.length + 1)) + (n.exponent.elim 0 (·.2.length + 1))

/-- The numeral that a text starts with and its length. A whole part has no leading zero, and a fraction
    or exponent without digits is left unread. -/
def numeral? (s : List Char) : Option (Numeral × Nat) :=
  let (negative, s) := match s with
    | '-' :: rest => (true, rest)
    | _ => (false, s)
  let whole := match s with
    | '0' :: _ => ['0']
    | _ => digitsOf s
  if whole.isEmpty then none
  else
    let s := s.drop whole.length
    let fraction := match s with
      | '.' :: rest => if (digitsOf rest).isEmpty then none else some (digitsOf rest)
      | _ => none
    let s := s.drop (fraction.elim 0 (·.length + 1))
    let (exponent, signs) := match s with
      | e :: rest =>
        if e == 'e' || e == 'E' then
          let (negativeExponent, signs, rest) := match rest with
            | '-' :: rest => (true, 1, rest)
            | '+' :: rest => (false, 1, rest)
            | _ => (false, 0, rest)
          if (digitsOf rest).isEmpty then (none, 0) else (some (negativeExponent, digitsOf rest), signs)
        else (none, 0)
      | [] => (none, 0)
    let numeral := ⟨negative, whole, fraction, exponent⟩
    some (numeral, numeral.plainLength + signs)

/-- Whether a numeral is an integer, with neither fraction nor exponent. -/
def Numeral.isInteger (n : Numeral) : Bool := n.fraction.isNone && n.exponent.isNone

/-- The value of a numeral: an integer if it has neither fraction nor exponent. -/
def Numeral.value (n : Numeral) : Json :=
  match n.fraction, n.exponent with
  | none, none => .int (if n.negative then -(numberOf n.whole : Int) else numberOf n.whole)
  | fraction, exponent =>
    let decimals := fraction.getD []
    let power : Int := match exponent with
      | none => 0
      | some (negative, digits) => if negative then -(numberOf digits : Int) else numberOf digits
    .float (Binary64.ofDecimal n.negative (numberOf (n.whole ++ decimals)) (power - decimals.length))

/-- The words that are values. -/
def wordValues : List (List Char × Json) := [
  ("null".toList, .null), ("true".toList, .bool true), ("false".toList, .bool false),
  ("NaN".toList, .float .nan), ("Infinity".toList, .float (.infinite false)),
  ("-Infinity".toList, .float (.infinite true))]

/-- Reads a word or a number. -/
def readScalar (s : List Char) : Reading Json s :=
  match wordValues.find? fun (word, _) => !word.isEmpty && word.isPrefixOf s with
  | some (word, value) =>
    if h : 0 < word.length ∧ 0 < s.length then
      return (value, ⟨s.drop word.length, by rw [List.length_drop]; omega⟩)
    else throw (.valueExpected, s.length)
  | none =>
    match numeral? s with
    | some (numeral, length) =>
      if numeral.isInteger && Text.maxDecimalDigits < numeral.whole.length then
        throw (.integerTooLong numeral.whole.length, s.length)
      else if h : 0 < length ∧ 0 < s.length then
        return (numeral.value, ⟨s.drop length, by rw [List.length_drop]; omega⟩)
      else throw (.valueExpected, s.length)
    | none => throw (.valueExpected, s.length)

/-- How many arrays and objects may lie in each other. -/
def maxNesting : Nat := 975

/-- The room in an array or object of a kind, given that around it. -/
def roomInside (room : Nat) (kind : String) (left : Nat) : Except Stop Nat :=
  match room with
  | 0 => throw (.nestedTooDeeply kind, left)
  | inside + 1 => return inside

mutual

/-- Reads a value. The text starts where the value should. `room` says how many arrays and objects may lie in
    each other here. -/
def readValue (room : Nat) (s : List Char) : Reading Json s :=
  match h : s with
  | '"' :: rest => do
    let (text, ⟨tail, ht⟩) ← readString s.length [] rest
    return (.str text, ⟨tail, by simp only [List.length_cons]; omega⟩)
  | '[' :: rest => do
    let room ← roomInside room "array" s.length
    have hs := length_skip_le rest
    match hr : skip rest with
    | ']' :: tail => return (.arr [], ⟨tail, by simp only [hr, List.length_cons] at hs ⊢; omega⟩)
    | _ => do
      let (items, ⟨tail, ht⟩) ← readItems room (skip rest)
      return (.arr items, ⟨tail, by simp only [List.length_cons]; omega⟩)
  | '{' :: rest => do
    let room ← roomInside room "object" s.length
    have hs := length_skip_le rest
    match hr : skip rest with
    | '}' :: tail => return (.obj [], ⟨tail, by simp only [hr, List.length_cons] at hs ⊢; omega⟩)
    | _ => do
      let (members, ⟨tail, ht⟩) ← readMembers room [] (skip rest)
      return (.obj members, ⟨tail, by simp only [List.length_cons]; omega⟩)
  | _ => h ▸ readScalar s
termination_by (s.length, 0)

/-- Reads the items of an array and its closing bracket. -/
def readItems (room : Nat) (s : List Char) : Reading (List Json) s := do
  let (item, ⟨rest, hr⟩) ← readValue room s
  have hs := length_skip_le rest
  match h : skip rest with
  | ']' :: tail => return ([item], ⟨tail, by simp only [h, List.length_cons] at hs; omega⟩)
  | ',' :: tail =>
    have ht := length_skip_le tail
    let (items, ⟨tail', ht'⟩) ← readItems room (skip tail)
    return (item :: items, ⟨tail', by simp only [h, List.length_cons] at hs; omega⟩)
  | other => throw (.commaExpected, other.length)
termination_by (s.length, 1)
decreasing_by
  · omega
  · simp only [h, List.length_cons] at hs; omega

/-- Reads the members of an object and its closing brace, given the members so far. -/
def readMembers (room : Nat) (members : List (String × Json)) (s : List Char) :
    Reading (List (String × Json)) s :=
  match hk : s with
  | '"' :: rest => do
    let (key, ⟨rest, h1⟩) ← readString s.length [] rest
    have h2 := length_skip_le rest
    match hc : skip rest with
    | ':' :: rest' =>
      have h3 := length_skip_le rest'
      let (value, ⟨rest'', h4⟩) ← readValue room (skip rest')
      have h5 := length_skip_le rest''
      match hd : skip rest'' with
      | '}' :: tail =>
        return (setKey key value members, ⟨tail, by simp only [hc, hd, List.length_cons] at *; omega⟩)
      | ',' :: tail =>
        have h6 := length_skip_le tail
        let (all, ⟨tail', h7⟩) ← readMembers room (setKey key value members) (skip tail)
        return (all, ⟨tail', by simp only [hc, hd, List.length_cons] at *; omega⟩)
      | other => throw (.commaExpected, other.length)
    | other => throw (.colonExpected, other.length)
  | other => throw (.propertyNameExpected, other.length)
termination_by (s.length, 2)
decreasing_by
  · simp only [hc, List.length_cons] at h2 ⊢; omega
  · simp only [hc, hd, List.length_cons] at h2 h5 ⊢; omega

end

/-- The fault that stopped reading, placed in the whole text. -/
def Malformed.ofStop (text : List Char) (stop : Stop) : Malformed :=
  let offset := text.length - stop.2
  ⟨stop.1, offset, Text.Place.afterNewlines (text.take offset)⟩

/-- Reads a text that holds one JSON value and blanks around it. -/
def readChars (text : List Char) : Except Malformed Json :=
  match readValue maxNesting (skip text) with
  | .error stop => .error (Malformed.ofStop text stop)
  | .ok (value, ⟨rest, _⟩) =>
    match skip rest with
    | [] => .ok value
    | extra => .error (Malformed.ofStop text (.extraData, extra.length))

/-- Reads a text that holds one JSON value and blanks around it. It is no text of bytes, so no mark of their
    order may stand before it. -/
def read (text : String) : Except Malformed Json :=
  let chars := text.toList
  if chars.head?.any fun c => c.toNat = 0xFEFF then
    throw (Malformed.ofStop chars (.byteOrderMark, chars.length))
  else readChars chars

end OperationClasses.Json
