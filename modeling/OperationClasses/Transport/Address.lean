/-
Module: OperationClasses.Transport.Address
Purpose: Numeric addresses of servers: four numbers with points, and groups of hexadecimal digits with colons.
Main exports: looksLikeFourNumbers, isFourNumbers, isGroups
-/
import OperationClasses.Text.Hexadecimal

namespace OperationClasses

/-- One step of reading four groups of digits with any character between two groups. State `2 * n` waits
    for a digit of group `n`, and state `2 * n + 1` has one. -/
def fourGroupsStep (states : List Nat) (c : Char) : List Nat :=
  (states.flatMap fun s =>
    if s % 2 = 0 then if c.isDigit then [s + 1] else []
    else (if c.isDigit then [s] else []) ++ if s < 7 then [s + 1] else []).eraseDups

/-- Whether a text is four groups of digits with any one character between two groups. -/
def looksLikeFourNumbers (cs : List Char) : Bool := (cs.foldl fourGroupsStep [0]).contains 7

/-- Whether a text is a number below 256 without leading zeros. -/
def isByteNumber (cs : List Char) : Bool :=
  !cs.isEmpty && cs.all Char.isDigit && cs.length ≤ 3 && (cs = ['0'] || cs.head? ≠ some '0')
    && cs.foldl (fun n c => 10 * n + (c.toNat - '0'.toNat)) 0 < 256

/-- Whether a text is an address of four numbers with points. -/
def isFourNumbers (cs : List Char) : Bool :=
  let parts := cs.splitOn '.'
  parts.length = 4 && parts.all isByteNumber

/-- Whether a text is a group of an address: one to four hexadecimal digits. -/
def isGroup (cs : List Char) : Bool :=
  !cs.isEmpty && cs.length ≤ 4 && cs.all fun c => (Text.hexDigitValue? c).isSome

/-- The groups of an address when its last two may be written as four numbers with points. -/
def plainGroups (parts : List (List Char)) : Option (List (List Char)) :=
  match parts.getLast? with
  | none => none
  | some last =>
    if last.contains '.' then
      if isFourNumbers last then some (parts.dropLast ++ [['0'], ['0']]) else none
    else some parts

/-- Whether groups are those of an address. Without a gap there are eight; a gap, which is one empty
    group inside, stands for at least one group, and at either end an empty group only stands beside it. -/
def areGroups (groups : List (List Char)) : Bool :=
  let inner := groups.tail.dropLast
  match (inner.filter (·.isEmpty)).length with
  | 0 => groups.length = 8 && groups.all isGroup
  | 1 =>
    let before := groups.head?.toList ++ inner.takeWhile (!·.isEmpty)
    let after := (inner.dropWhile (!·.isEmpty)).tail ++ groups.getLast?.toList
    let before := if before = [[]] then [] else before
    let after := if after = [[]] then [] else after
    (before ++ after).all isGroup && before.length + after.length < 8
  | _ => false

/-- Whether a text is an address of eight groups of hexadecimal digits, of which one run of zeros may be
    left out, with a zone behind a percent sign or without. -/
def isGroups (cs : List Char) : Bool :=
  let (address, zone) := (cs.takeWhile (· != '%'), cs.dropWhile (· != '%'))
  let zoneFits := match zone with
    | [] => true
    | _ :: name => !name.isEmpty && !name.contains '%'
  let parts := address.splitOn ':'
  zoneFits && 3 ≤ parts.length &&
    match plainGroups parts with
    | none => false
    | some groups => groups.length ≤ 9 && areGroups groups

end OperationClasses
