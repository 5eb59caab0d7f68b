/-
Module: OperationClasses.Calendar.Date
Purpose: Dates of the Gregorian calendar, how they are written, and how they are read from calendar and
  week dates.
Main exports: Date, Date.ofParts, Date.chars, DateParts.read
-/
import OperationClasses.Calendar.Digits

namespace OperationClasses.Calendar

/-- Whether a year has a 29th of February. -/
def isLeap (year : Nat) : Bool := year % 4 == 0 && (year % 100 != 0 || year % 400 == 0)

/-- The number of days of a month. -/
def daysInMonth (year month : Nat) : Nat :=
  match month with
  | 2 => if isLeap year then 29 else 28
  | 4 => 30
  | 6 => 30
  | 9 => 30
  | 11 => 30
  | _ => 31

/-- The number of days of a year. -/
def daysInYear (year : Nat) : Nat := if isLeap year then 366 else 365

/-- A date of the years 1 to 9999. -/
structure Date where
  year : Nat
  month : Nat
  day : Nat
  year_mem : 1 ≤ year ∧ year ≤ 9999
  month_mem : 1 ≤ month ∧ month ≤ 12
  day_mem : 1 ≤ day ∧ day ≤ daysInMonth year month
deriving DecidableEq, Repr

/-- The part of a date that is out of its range. -/
inductive DateFault where
  | year (year : Nat)
  | month
  | day
deriving DecidableEq, Repr, Inhabited

/-- The message of a date out of range. -/
def DateFault.message : DateFault → String
  | .year n => "year " ++ toString n ++ " is out of range"
  | .month => "month must be in 1..12"
  | .day => "day is out of range for month"

/-- Numbers for year, month and day, in whatever range. -/
structure DateParts where
  year : Nat
  month : Nat
  day : Nat
deriving DecidableEq, Repr, Inhabited

/-- The date of three numbers, or the first of them that is out of its range. -/
def Date.ofParts (p : DateParts) : Except DateFault Date :=
  if hy : 1 ≤ p.year ∧ p.year ≤ 9999 then
    if hm : 1 ≤ p.month ∧ p.month ≤ 12 then
      if hd : 1 ≤ p.day ∧ p.day ≤ daysInMonth p.year p.month then
        return ⟨p.year, p.month, p.day, hy, hm, hd⟩
      else throw .day
    else throw .month
  else throw (.year p.year)

/-- A date as year, month and day with hyphens between them. -/
def Date.chars (d : Date) : List Char :=
  writeDigits 4 d.year ++ '-' :: writeDigits 2 d.month ++ '-' :: writeDigits 2 d.day

/-- The text of a date. -/
def Date.text (d : Date) : String := String.ofList d.chars

/-! ### Week dates -/

/-- The number of days from the first of January of the year 1 to that of a year. -/
def daysBeforeYear (year : Nat) : Nat :=
  let past := year - 1
  365 * past + past / 4 - past / 100 + past / 400

/-- The day of the week on which a year begins, counted from Monday. -/
def firstWeekday (year : Nat) : Nat := daysBeforeYear year % 7

/-- The number of weeks of a year: a year that begins on a Thursday, and a leap year that begins on a
    Wednesday, has one more. -/
def weeksInYear (year : Nat) : Nat :=
  if firstWeekday year = 3 || (firstWeekday year = 2 && isLeap year) then 53 else 52

/-- The month and day of the `n`-th day of a year, counted from zero, where `month` has begun. -/
def monthAndDay (year : Nat) (fuel month n : Nat) : Nat × Nat :=
  match fuel with
  | 0 => (month, n + 1)
  | fuel + 1 =>
    if n < daysInMonth year month then (month, n + 1)
    else monthAndDay year fuel (month + 1) (n - daysInMonth year month)

/-- The calendar date of the `n`-th day from the first of January of a year. Days before it belong to the
    December of the year before, days from its length on to the January of the next. -/
def partsOfDay (year : Nat) (n : Int) : DateParts :=
  if n < 0 then ⟨year - 1, 12, (32 + n).toNat⟩
  else if n.toNat < daysInYear year then
    let (month, day) := monthAndDay year 11 1 n.toNat
    ⟨year, month, day⟩
  else ⟨year + 1, 1, n.toNat - daysInYear year + 1⟩

/-- The calendar date of a day of a week of a year. The first week is the one with the first Thursday. A
    year zero has weeks but no months. -/
def weekParts (year week day : Nat) : Option DateParts :=
  let weeks := if year = 0 then 52 else weeksInYear year
  if 1 ≤ week ∧ week ≤ weeks ∧ 1 ≤ day ∧ day ≤ 7 then
    if year = 0 then some ⟨1, 0, 0⟩
    else
      let first := firstWeekday year
      let monday : Int := if first ≤ 3 then -first else 7 - first
      some (partsOfDay year (monday + 7 * (week - 1) + (day - 1)))
  else none

/-! ### Reading -/

/-- Reads the hyphen before a further part of a date whose parts are separated. -/
def skipHyphen (separated : Bool) (cs : List Char) : Option (List Char) :=
  if separated then
    match cs with
    | '-' :: rest => some rest
    | _ => none
  else some cs

/-- Reads a calendar date or a week date, whose day may be left out. Either all parts are separated by
    hyphens or none. What follows the day is not looked at. -/
def DateParts.read (cs : List Char) : Option DateParts := do
  let (year, rest) ← readDigits 4 cs
  let separated := rest.head? == some '-'
  match (if separated then rest.drop 1 else rest) with
  | 'W' :: rest =>
    let (week, rest) ← readDigits 2 rest
    if rest.isEmpty then weekParts year week 1
    else
      let (day, _) ← readDigits 1 (← skipHyphen separated rest)
      weekParts year week day
  | rest =>
    let (month, rest) ← readDigits 2 rest
    let (day, _) ← readDigits 2 (← skipHyphen separated rest)
    return ⟨year, month, day⟩

end OperationClasses.Calendar
