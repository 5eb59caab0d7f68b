/-
Module: OperationClasses.Module.Syntax.TextLiteral
Purpose: The text literals of a generated module: how far one reaches, and whether its escapes are complete.
Main exports: TextLiteral, textLiteralAt?, TextLiteral.escapesComplete
-/
import OperationClasses.Text.Hexadecimal
import OperationClasses.Text.CharacterName

namespace OperationClasses

/-- A text literal: whether backslashes stand for themselves in it, whether it spells bytes, whether it has
    expressions in braces that are filled in, and what stands between its quotes. -/
structure TextLiteral where
  raw : Bool
  bytes : Bool
  filled : Bool
  content : List Char
deriving DecidableEq, Repr, Inhabited

namespace TextLiteral

/-- The letters that may stand before the quotes, in lower case. -/
def leadingLetters : List String := ["", "r", "u", "b", "f", "br", "rb", "fr", "rf"]

/-- Whether a character opens a text literal. -/
def isQuote (c : Char) : Bool := c == '"' || c == '\''

/-! ### Where a literal ends -/

/-- The number of characters up to the closing quotes. A text between three quotes may have several lines; a
    backslash takes the next character with it. -/
def contentLength? (quote : Char) (long : Bool) : List Char → Option Nat
  | '\\' :: _ :: rest => (contentLength? quote long rest).map (2 + ·)
  | c :: rest =>
    if c == quote && (!long || [quote, quote].isPrefixOf rest) then some 0
    else if c == '\n' && !long then none
    else (contentLength? quote long rest).map (1 + ·)
  | [] => none

/-! ### Escapes -/

/-- Whether the escape of a named character is complete, read after its letter. -/
def nameComplete : List Char → Bool
  | '\x7b' :: rest =>
    let name := rest.takeWhile (· != '\x7d')
    rest.contains '\x7d' && Text.isCharacterName (String.ofList name)
  | _ => false

/-- Whether an escape is complete, read after its backslash: numbered ones need all their digits and must
    number a character, and named ones must name one. -/
def escapeComplete (bytes : Bool) : List Char → Bool
  | 'x' :: rest => (Text.hexNumber? 2 rest).isSome
  | 'u' :: rest => bytes || (Text.hexNumber? 4 rest).isSome
  | 'U' :: rest => bytes || (Text.hexNumber? 8 rest).any (· < 0x110000)
  | 'N' :: rest => bytes || nameComplete rest
  | _ => true

/-- Whether all escapes in a part of a literal are complete. -/
def escapesComplete (bytes : Bool) : List Char → Bool
  | '\\' :: c :: rest => escapeComplete bytes (c :: rest) && escapesComplete bytes rest
  | _ :: rest => escapesComplete bytes rest
  | [] => true

/-- Whether what a part of a literal spells is complete. -/
def partComplete (l : TextLiteral) (part : List Char) : Bool := l.raw || escapesComplete l.bytes part

end TextLiteral

/-- The text literal that a text starts with after the letters before its quotes, and its length without
    them. -/
def textLiteralAt? (letters s : List Char) : Option (TextLiteral × Nat) :=
  match s with
  | quote :: rest => do
    let long := [quote, quote].isPrefixOf rest
    let opening := if long then 3 else 1
    let length ← TextLiteral.contentLength? quote long (s.drop opening)
    let letters := letters.map Char.toLower
    return ({ raw := letters.contains 'r', bytes := letters.contains 'b', filled := letters.contains 'f',
              content := (s.drop opening).take length }, opening + length + opening)
  | [] => none

end OperationClasses
