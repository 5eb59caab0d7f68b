/-
Module: OperationClasses.Calendar.DateTime
Purpose: Points in time as a date, a time of day and perhaps an offset, and how dates and points in time
  are written and read.
Main exports: DateTime, DateTime.text, DateTime.read, Date.read, CalendarFault
-/
import OperationClasses.Calendar.Date
import OperationClasses.Calendar.Clock
import OperationClasses.Text.Quoted

namespace OperationClasses.Calendar

/-- A date and time of day, local unless it has an offset. -/
structure DateTime where
  date : Date
  time : TimeOfDay
  offset : Option Offset
deriving DecidableEq, Repr

/-- A point in time with a separator between date and time of day. -/
def DateTime.chars (separator : Char) (d : DateTime) : List Char :=
  d.date.chars ++ separator :: d.time.chars ++ (d.offset.map Offset.chars).getD []

/-- The text of a point in time. -/
def DateTime.text (d : DateTime) : String := String.ofList (d.chars 'T')

/-- Why a text is no date or point in time. -/
inductive CalendarFault where
  /-- it has another form -/
  | unreadable (text : String)
  /-- its offset is a day or more -/
  | offset (microseconds : Int)
  | date (fault : DateFault)
  | time (fault : TimeFault)
deriving DecidableEq, Repr, Inhabited

/-- The message of a text that is no date or point in time. -/
def CalendarFault.message : CalendarFault → String
  | .unreadable text => "Invalid isoformat string: " ++ Text.quoted text
  | .offset n =>
    "offset must be a timedelta strictly between -timedelta(hours=24) and timedelta(hours=24), not "
      ++ describeSpan n ++ "."
  | .date fault => fault.message
  | .time fault => fault.message

/-- Reads a date, whose text takes seven, eight or ten bytes. -/
def Date.read (text : String) : Except CalendarFault Date :=
  let parts := if text.utf8ByteSize ∈ [7, 8, 10] then DateParts.read text.toList else none
  match parts with
  | some p => (Date.ofParts p).mapError .date
  | none => throw (.unreadable text)

/-- The length of a date without hyphens and of its week, whose day is there if an even number of digits
    follows up to the next other character: those of the time come in pairs. -/
def compactWeekLength (cs : List Char) : Nat :=
  let digits := ((cs.drop 7).takeWhile Char.isDigit).length
  if digits < 2 then 7 + digits else if digits % 2 = 1 then 7 else 8

/-- The length of the date at the start of a point in time. Characters five and six tell the forms apart.
    After a week with hyphens, a further hyphen begins the day unless two digits follow it. -/
def dateLength (cs : List Char) : Nat :=
  if cs.length = 7 then 7
  else if cs[4]? = some '-' then
    if cs[5]? = some 'W' then
      if cs[8]? = some '-' && !(cs[10]?.any Char.isDigit) then 10 else 8
    else 10
  else if cs[4]? = some 'W' then compactWeekLength cs
  else 8

/-- Whether a character is the sign of an offset. -/
def isSign (c : Char) : Bool := c == '+' || c == '-'

/-- What a point in time is read as before its numbers are checked. -/
structure DateTimeParts where
  date : DateParts
  time : ClockParts
  offset : Option Int
deriving DecidableEq, Repr, Inhabited

/-- Reads a time of day and, from a sign on, an offset. Without an offset nothing may follow the time. An
    offset of less than a second is none. -/
def readTimeAndOffset (cs : List Char) : Option (ClockParts × Option Int) := do
  let (time, rest) ← ClockParts.read (cs.takeWhile (!isSign ·))
  match cs.dropWhile (!isSign ·) with
  | [] => if atEnd rest then return (time, none) else none
  | sign :: cs =>
    let (p, rest) ← ClockParts.read cs
    let seconds := 3600 * p.hour + 60 * p.minute + p.second
    let size : Int := if seconds = 0 then 0 else seconds * 1000000 + p.microsecond
    if atEnd rest then return (time, some (if sign == '-' then -size else size)) else none

/-- Reads the parts of a point in time. Any one character stands between date and time; a date alone is
    its midnight. -/
def DateTimeParts.read (cs : List Char) : Option DateTimeParts := do
  let length := dateLength cs
  let date ← DateParts.read (cs.take length)
  match cs.drop length with
  | [] => return ⟨date, ⟨0, 0, 0, 0⟩, none⟩
  | _ :: rest =>
    let (time, offset) ← readTimeAndOffset rest
    return ⟨date, time, offset⟩

/-- The offset of a number of microseconds. -/
def Offset.ofMicroseconds (n : Int) : Except CalendarFault Offset :=
  match Offset.ofMicroseconds? n with
  | some o => return o
  | none => throw (.offset n)

/-- Checks the numbers of a point in time: first the offset, then the date, then the time of day. -/
def DateTime.ofParts (p : DateTimeParts) : Except CalendarFault DateTime := do
  let offset ← p.offset.mapM Offset.ofMicroseconds
  let date ← (Date.ofParts p.date).mapError .date
  let time ← (TimeOfDay.ofParts p.time).mapError .time
  return ⟨date, time, offset⟩

/-- A text with every `Z` written as the offset of universal time. -/
def expandZ (text : String) : String :=
  String.ofList (text.toList.flatMap fun c => if c == 'Z' then "+00:00".toList else [c])

/-- Reads a point in time. A `Z` stands for the offset of universal time. -/
def DateTime.read (text : String) : Except CalendarFault DateTime :=
  let text := expandZ text
  match DateTimeParts.read text.toList with
  | some p => DateTime.ofParts p
  | none => throw (.unreadable text)

end OperationClasses.Calendar
