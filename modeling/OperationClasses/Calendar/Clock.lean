/-
Module: OperationClasses.Calendar.Clock
Purpose: Times of day and offsets from universal time, how they are written and how they are read.
Main exports: TimeOfDay, TimeOfDay.ofParts, TimeOfDay.chars, Offset, Offset.ofMicroseconds?, ClockParts.read
-/
import OperationClasses.Calendar.Digits

namespace OperationClasses.Calendar

/-- A time of day to the microsecond. -/
structure TimeOfDay where
  hour : Nat
  minute : Nat
  second : Nat
  microsecond : Nat
  hour_lt : hour < 24
  minute_lt : minute < 60
  second_lt : second < 60
  microsecond_lt : microsecond < 1000000
deriving DecidableEq, Repr

/-- Midnight. -/
def TimeOfDay.midnight : TimeOfDay :=
  ⟨0, 0, 0, 0, by decide, by decide, by decide, by decide⟩

/-- The part of a time of day that is out of its range. -/
inductive TimeFault where
  | hour
  | minute
  | second
  | microsecond
deriving DecidableEq, Repr, Inhabited

/-- The message of a time of day out of range. -/
def TimeFault.message : TimeFault → String
  | .hour => "hour must be in 0..23"
  | .minute => "minute must be in 0..59"
  | .second => "second must be in 0..59"
  | .microsecond => "microsecond must be in 0..999999"

/-- Numbers for hour, minute, second and microsecond, in whatever range. -/
structure ClockParts where
  hour : Nat
  minute : Nat
  second : Nat
  microsecond : Nat
deriving DecidableEq, Repr, Inhabited

/-- The time of four numbers, or the first of them that is out of its range. -/
def TimeOfDay.ofParts (p : ClockParts) : Except TimeFault TimeOfDay :=
  if hh : p.hour < 24 then
    if hm : p.minute < 60 then
      if hs : p.second < 60 then
        if hu : p.microsecond < 1000000 then
          return ⟨p.hour, p.minute, p.second, p.microsecond, hh, hm, hs, hu⟩
        else throw .microsecond
      else throw .second
    else throw .minute
  else throw .hour

/-- A fraction of a second as six digits after a point, or nothing if it is zero. -/
def fractionChars (microsecond : Nat) : List Char :=
  if microsecond = 0 then [] else '.' :: writeDigits 6 microsecond

/-- A time of day as hour, minute and second with colons between them. -/
def TimeOfDay.chars (t : TimeOfDay) : List Char :=
  writeDigits 2 t.hour ++ ':' :: writeDigits 2 t.minute ++ ':' :: writeDigits 2 t.second
    ++ fractionChars t.microsecond

/-! ### Offsets -/

/-- The number of microseconds of a day. -/
def dayMicroseconds : Nat := 86400000000

/-- How far a local time is ahead of universal time: less than a day either way. -/
structure Offset where
  microseconds : Int
  lt_day : microseconds.natAbs < dayMicroseconds
deriving DecidableEq, Repr

/-- The offset of a number of microseconds that is within range. -/
def Offset.ofMicroseconds? (n : Int) : Option Offset :=
  if h : n.natAbs < dayMicroseconds then some ⟨n, h⟩ else none

/-- An offset as a sign, hours and minutes, and seconds and their fraction unless they are zero. -/
def Offset.chars (o : Offset) : List Char :=
  let n := o.microseconds.natAbs
  let seconds := n / 1000000
  let tail := if n % 60000000 = 0 then [] else
    ':' :: writeDigits 2 (seconds % 60) ++ fractionChars (n % 1000000)
  (if o.microseconds < 0 then '-' else '+') :: writeDigits 2 (seconds / 3600)
    ++ ':' :: writeDigits 2 (seconds / 60 % 60) ++ tail

/-- How a span of time of days, seconds and microseconds is shown, where only days can be negative. -/
def describeSpan (microseconds : Int) : String :=
  let days := microseconds.fdiv dayMicroseconds
  let rest := (microseconds.fmod dayMicroseconds).toNat
  let part (name : String) (n : Int) := if n = 0 then [] else [name ++ "=" ++ toString n]
  let parts := part "days" days ++ part "seconds" (rest / 1000000 : Nat)
    ++ part "microseconds" (rest % 1000000 : Nat)
  "datetime.timedelta(" ++ (if parts.isEmpty then "0" else ", ".intercalate parts) ++ ")"

/-! ### Reading -/

/-- Reads a fraction: up to six digits, of which further ones are dropped. -/
def readFraction (cs : List Char) : Option (Nat × List Char) := do
  let width := min 6 cs.length
  let (n, rest) ← readDigits width cs
  return (n * Nat.pow 10 (6 - width), rest.dropWhile Char.isDigit)

/-- Reads fields of two digits, `more` after the first at most, and a fraction after the last of them.
    Fields are separated by colons if the first is followed by one, which `separated` remembers. A last
    ASCII character after a field is left. -/
def readFields (separated : Option Bool) (more : Nat) (cs : List Char) :
    Option (List Nat × Nat × List Char) := do
  let (value, rest) ← readDigits 2 cs
  let next (separated : Bool) (cs : List Char) : Option (List Nat × Nat × List Char) :=
    match more with
    | 0 => do
      let (fraction, rest) ← readFraction cs
      return ([value], fraction, rest)
    | more + 1 => do
      let (values, fraction, rest) ← readFields (some separated) more cs
      return (value :: values, fraction, rest)
  match rest with
  | [] => return ([value], 0, [])
  | c :: tail =>
    let colons := separated.getD (c == ':')
    if tail.isEmpty && c.toNat < 0x80 then return ([value], 0, [c])
    else if colons && c == ':' then next colons tail
    else if c == '.' || c == ',' then
      let (fraction, rest) ← readFraction tail
      return ([value], fraction, rest)
    else if colons then none
    else next colons (c :: tail)

/-- Reads a time of day from hours on. What follows it is left. -/
def ClockParts.read (cs : List Char) : Option (ClockParts × List Char) := do
  let (fields, fraction, rest) ← readFields none 2 cs
  return (⟨fields.getD 0 0, fields.getD 1 0, fields.getD 2 0, fraction⟩, rest)

/-- Whether a text ends here. A null character ends it too. -/
def atEnd : List Char → Bool
  | [] => true
  | c :: _ => c == '\x00'

end OperationClasses.Calendar
