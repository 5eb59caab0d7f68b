/-
Module: OperationClasses.Module.Syntax.Filling
Purpose: The expressions in braces that a text literal is filled with.
Main exports: TextLiteral.fillings?
-/
import OperationClasses.Module.Syntax.TextLiteral

namespace OperationClasses

namespace TextLiteral

/-! ### Parts that stand for themselves

Two equal braces stand for one, and a single one opens or closes a filling. In the format of a filling, which
is filled in itself, every brace opens or closes one.
-/

/-- Whether a character is a brace. -/
def isBrace (c : Char) : Bool := c == '\x7b' || c == '\x7d'

/-- The number of characters before the next brace that belongs to no escape. `named` says that the name of a
    character is being read, up to its closing brace. -/
def plainLength (raw named : Bool) : List Char → Nat
  | '\\' :: 'N' :: '\x7b' :: rest =>
    if named || !raw then 3 + plainLength raw true rest else 2
  | '\\' :: c :: rest =>
    if named then 1 + plainLength raw true (c :: rest)
    else if isBrace c then 1
    else if raw then 1 + plainLength raw false (c :: rest)
    else 2 + plainLength raw false rest
  | c :: rest =>
    if named then 1 + plainLength raw (c != '\x7d') rest
    else if isBrace c then 0
    else 1 + plainLength raw false rest
  | [] => 0

/-! ### Expressions -/

/-- Where the reading of an expression stands: outside of the text literals in it, or in one with this
    quote, which may be a long one. -/
inductive Inside where
  | expression
  | literal (quote : Char) (long : Bool)
deriving DecidableEq, Repr

/-- The bracket that closes an opening one. -/
def closing? : Char → Option Char
  | '(' => some ')'
  | '[' => some ']'
  | '\x7b' => some '\x7d'
  | _ => none

/-- Whether the mark at the start of a text compares two values and so does not end an expression. -/
def isComparison : List Char → Bool
  | c :: rest => c == '<' || c == '>' || ((c == '!' || c == '=') && rest.head? == some '=')
  | [] => false

/-- The number of characters of an expression, up to the mark that ends it outside of the brackets that are
    open. It has no backslash and no comment. -/
def expressionLength? (inside : Inside) (brackets : List Char) : List Char → Option Nat
  | [] => none
  | c :: rest =>
    if c == '\\' then none
    else
      match inside with
      | .literal quote long =>
        if c != quote then (expressionLength? inside brackets rest).map (1 + ·)
        else if !long then (expressionLength? .expression brackets rest).map (1 + ·)
        else
          match rest with
          | d :: e :: more =>
            if d == quote && e == quote then (expressionLength? .expression brackets more).map (3 + ·)
            else (expressionLength? inside brackets (d :: e :: more)).map (1 + ·)
          | _ => none
      | .expression =>
        if isQuote c then
          match rest with
          | d :: e :: more =>
            if d == c && e == c then (expressionLength? (.literal c true) brackets more).map (3 + ·)
            else (expressionLength? (.literal c false) brackets (d :: e :: more)).map (1 + ·)
          | _ => none
        else if c == '#' then none
        else if let some close := closing? c then
          (expressionLength? .expression (close :: brackets) rest).map (1 + ·)
        else if let close :: opened := brackets then
          if c == close then (expressionLength? .expression opened rest).map (1 + ·)
          else if [')', ']', '\x7d'].contains c then none
          else (expressionLength? .expression brackets rest).map (1 + ·)
        else if ['!', ':', '\x7d', '=', '<', '>'].contains c then
          if isComparison (c :: rest) then
            match rest with
            | '=' :: more => (expressionLength? .expression [] more).map (2 + ·)
            | more => (expressionLength? .expression [] more).map (1 + ·)
          else some 0
        else if c == ')' || c == ']' then none
        else (expressionLength? .expression [] rest).map (1 + ·)

/-- The blanks between an expression and what is said about it. -/
def isSpace (c : Char) : Bool := c == ' ' || (0x09 ≤ c.toNat && c.toNat ≤ 0x0D)

/-- Whether there is nothing but blanks. -/
def isEmptyExpression (s : List Char) : Bool :=
  s.all fun c => c == ' ' || c == '\t' || c == '\n' || c == '\x0c'

/-- What follows an expression after the mark that shows it as well and the letter of its conversion. -/
def afterConversion? (s : List Char) : Option (List Char) :=
  let s := match s with
    | '=' :: rest => rest.dropWhile isSpace
    | s => s
  match s with
  | '!' :: c :: rest => if ['s', 'r', 'a'].contains c then some rest else none
  | ['!'] => none
  | s => some s

/-! ### Fillings -/

/-- The expressions of the fillings in a text, which lies in the formats of as many fillings as `level` says.
    Fillings in formats of formats have none. Each step takes a character, so the length bounds their
    number. -/
def fillingsFrom (l : TextLiteral) (bound level : Nat) (s : List Char) : Option (List String) :=
  match bound with
  | 0 => none
  | n + 1 =>
    let plain := plainLength l.raw false s
    if !l.partComplete (s.take plain) then none
    else
      match s.drop plain with
      | [] => if level = 0 then some [] else none
      | brace :: rest =>
        if level = 0 && rest.head? == some brace then fillingsFrom l n 0 rest.tail
        else if brace == '\x7d' then
          if level = 0 then none else fillingsFrom l n (level - 1) rest
        else if 2 ≤ level then none
        else do
          let length ← expressionLength? .expression [] rest
          let expression := rest.take length
          if isEmptyExpression expression then none
          else
            match ← afterConversion? (rest.drop length) with
            | '\x7d' :: more => return String.ofList expression :: (← fillingsFrom l n level more)
            | ':' :: more => return String.ofList expression :: (← fillingsFrom l n (level + 1) more)
            | _ => none

/-- The expressions that a literal is filled with, or nothing if it is no proper literal: bytes are spelled
    with ASCII, and every escape and every filling is complete. -/
def fillings? (l : TextLiteral) : Option (List String) :=
  if l.filled then fillingsFrom l (l.content.length + 1) 0 l.content
  else if l.bytes && l.content.any fun c => 0x80 ≤ c.toNat then none
  else if l.partComplete l.content then some []
  else none

end TextLiteral

end OperationClasses
