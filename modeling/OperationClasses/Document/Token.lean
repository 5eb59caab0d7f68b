/-
Module: OperationClasses.Document.Token
Purpose: The tokens of documents and schemas.
Main exports: Token, Token.scan
-/
import OperationClasses.Document.BlockText
import OperationClasses.Json.Reader

namespace OperationClasses

/-- A token. Blanks, commas and comments separate tokens and are not kept. -/
inductive Token where
  | punctuation (mark : Char)
  | ellipsis
  | name (text : String)
  | int (digits : String)
  | float (digits : String)
  | string (text : String) (block : Bool)
deriving DecidableEq, Repr, Inhabited

namespace Token

/-- The characters between tokens: blanks, line ends, commas and the byte order mark. -/
def isSeparator (c : Char) : Bool :=
  c == ' ' || c == '\t' || c == '\n' || c == '\r' || c == ',' || c.toNat == 0xFEFF

/-- The marks that are tokens of their own. -/
def isPunctuation (c : Char) : Bool :=
  ['!', '$', '&', '(', ')', ':', '=', '@', '[', ']', '\x7b', '|', '\x7d'].contains c

/-- A character that may start a name. -/
def isNameStart (c : Char) : Bool := c.isAlpha || c == '_'

/-- A character that may continue a name. -/
def isNameChar (c : Char) : Bool := c.isAlphanum || c == '_'

/-- A text that is a name. -/
def isName (text : String) : Bool :=
  match text.toList with
  | [] => false
  | c :: rest => isNameStart c && rest.all isNameChar

/-- The character of a code point, if it is one that text can hold. -/
def charOf? (n : Nat) : Option Char := if h : n.isValidChar then some (Char.ofNatAux n h) else none

/-- The character that an escape after `\u` stands for and the length of the escape: a number in braces,
    four digits, or two surrogates of four digits each. -/
def unicodeEscape? (s : List Char) : Option (Char × Nat) :=
  match s with
  | '\x7b' :: rest => do
    let digits := rest.takeWhile (· != '\x7d')
    let closed := (rest.drop digits.length).head? == some '\x7d'
    let c ← charOf? (← Text.hexNumber? digits.length digits)
    if closed && !digits.isEmpty && digits.length ≤ 8 then return (c, digits.length + 2) else none
  | _ => do
    let unit ← Text.hexNumber? 4 s
    if 0xD800 ≤ unit ∧ unit < 0xDC00 then
      let low ← Json.nextUnit? (s.drop 4)
      if 0xDC00 ≤ low ∧ low < 0xE000 then
        return (← charOf? (0x10000 + (unit - 0xD800) * 0x400 + (low - 0xDC00)), 10)
      else none
    else return (← charOf? unit, 4)

/-- Reads a string after its opening quote: its text and what follows the closing quote. -/
def scanString (read : List Char) (s : List Char) :
    Option (String × { rest : List Char // rest.length ≤ s.length }) :=
  match s with
  | [] => none
  | '"' :: rest => some (String.ofList read.reverse, ⟨rest, by simp only [List.length_cons]; omega⟩)
  | '\\' :: 'u' :: rest =>
    match unicodeEscape? rest with
    | some (c, length) => do
      let (text, ⟨tail, h⟩) ← scanString (c :: read) (rest.drop length)
      return (text, ⟨tail, by simp only [List.length_cons, List.length_drop] at h ⊢; omega⟩)
    | none => none
  | '\\' :: c :: rest =>
    match Json.simpleEscape? c with
    | some d => do
      let (text, ⟨tail, h⟩) ← scanString (d :: read) rest
      return (text, ⟨tail, by simp only [List.length_cons]; omega⟩)
    | none => none
  | c :: rest =>
    if c == '\n' || c == '\r' || c == '\\' then none
    else do
      let (text, ⟨tail, h⟩) ← scanString (c :: read) rest
      return (text, ⟨tail, by simp only [List.length_cons]; omega⟩)
termination_by s.length
decreasing_by all_goals (simp only [List.length_cons, List.length_drop]; omega)

/-- Reads a block string after its opening quotes: its raw text and what follows the closing quotes. -/
def scanBlock (read : List Char) : (s : List Char) →
    Option (List Char × { rest : List Char // rest.length ≤ s.length })
  | [] => none
  | '"' :: '"' :: '"' :: rest => some (read.reverse, ⟨rest, by simp only [List.length_cons]; omega⟩)
  | '\\' :: '"' :: '"' :: '"' :: rest => do
    let (raw, ⟨tail, h⟩) ← scanBlock ('"' :: '"' :: '"' :: read) rest
    return (raw, ⟨tail, by simp only [List.length_cons]; omega⟩)
  | c :: rest => do
    let (raw, ⟨tail, h⟩) ← scanBlock (c :: read) rest
    return (raw, ⟨tail, by simp only [List.length_cons]; omega⟩)

/-- The number that a text starts with, as a token with its length. A leading zero, a point or exponent
    without digits, and a letter or point right after the number are refused. -/
def scanNumber (s : List Char) : Option (Token × Nat) := do
  let (numeral, length) ← Json.numeral? s
  let after := (s.drop length).head?
  if after.any fun c => isNameStart c || c == '.' || c.isDigit then none
  else
    let digits := String.ofList (s.take length)
    match numeral.fraction, numeral.exponent with
    | none, none => return (.int digits, length)
    | _, _ => return (.float digits, length)

/-- A character that a comment goes on with. -/
def isCommentChar (c : Char) : Bool := !(c == '\n' || c == '\r')

/-- The tokens of a text, or nothing if it has a character or literal that no token has. -/
def scanChars (s : List Char) : Option (List Token) :=
  match s with
  | [] => some []
  | '.' :: '.' :: '.' :: rest => (scanChars rest).map (.ellipsis :: ·)
  | '"' :: '"' :: '"' :: rest =>
    match scanBlock [] rest with
    | some (raw, ⟨tail, _⟩) => (scanChars tail).map (.string (BlockText.value raw) true :: ·)
    | none => none
  | '"' :: rest =>
    match scanString [] rest with
    | some (text, ⟨tail, _⟩) => (scanChars tail).map (.string text false :: ·)
    | none => none
  | c :: rest =>
    if isSeparator c then scanChars rest
    else if c == '#' then scanChars (rest.dropWhile isCommentChar)
    else if isPunctuation c then (scanChars rest).map (.punctuation c :: ·)
    else if isNameStart c then
      (scanChars (rest.dropWhile isNameChar)).map
        (.name (String.ofList (c :: rest.takeWhile isNameChar)) :: ·)
    else
      match scanNumber (c :: rest) with
      | some (token, length) => (scanChars (rest.drop (length - 1))).map (token :: ·)
      | none => none
termination_by s.length
decreasing_by
  all_goals simp
  all_goals first
    | omega
    | (have h := (List.dropWhile_sublist isNameChar (l := rest)).length_le; omega)
    | (have h := (List.dropWhile_sublist isCommentChar (l := rest)).length_le; omega)

/-- The tokens of a text. -/
def scan (text : String) : Option (List Token) := scanChars text.toList

end Token

end OperationClasses
