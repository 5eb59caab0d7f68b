/-
Module: OperationClasses.Proofs.Calendar.RoundTrip
Purpose: Dates and points in time are read back from the texts that they are sent as, with the offsets they
  had, and a `Z` in the place of the offset of universal time is read as that offset.
Main exports: Calendar.Date.read_text, Calendar.DateTime.read_text, Calendar.DateTime.read_universal,
  calendar_round_trip
-/
import Mathlib
import OperationClasses.Scalar.Value

namespace OperationClasses

namespace Calendar

/-! ### Digits -/

theorem isDigit_digitChar {n : Nat} (h : n < 10) : (digitChar n).isDigit := by
  interval_cases n <;> rfl

theorem digitValue_digitChar {n : Nat} (h : n < 10) : digitValue (digitChar n) = n := by
  interval_cases n <;> rfl

@[simp] theorem length_writeDigits (width n : Nat) : (writeDigits width n).length = width := by
  induction width generalizing n with
  | zero => rfl
  | succ width ih => simp [writeDigits, ih]

theorem isDigit_of_mem_writeDigits {width n : Nat} : ∀ c ∈ writeDigits width n, c.isDigit := by
  induction width generalizing n with
  | zero => exact fun _ absent => absurd absent List.not_mem_nil
  | succ width ih =>
    intro c mem
    rcases List.mem_append.1 mem with mem | mem
    · exact ih c mem
    · rw [List.mem_singleton.1 mem]
      exact isDigit_digitChar (Nat.mod_lt n (by decide))

/-- The digits that a number is written in denote its remainder by their power of ten. -/
theorem digitsValue_writeDigits (width n : Nat) : digitsValue (writeDigits width n) = n % 10 ^ width := by
  induction width generalizing n with
  | zero => simp [writeDigits, digitsValue, Nat.mod_one]
  | succ width ih =>
    have before := ih (n / 10)
    unfold digitsValue at before ⊢
    rw [writeDigits, List.foldl_append, before, List.foldl_cons, List.foldl_nil,
      digitValue_digitChar (Nat.mod_lt n (by decide)), Nat.pow_succ, Nat.mul_comm (10 ^ width), Nat.mod_mul]
    omega

/-- A number is read back from its digits, whatever follows them. -/
theorem readDigits_writeDigits (width : Nat) {n : Nat} (h : n < 10 ^ width) (rest : List Char) :
    readDigits width (writeDigits width n ++ rest) = some (n, rest) := by
  have digits : (writeDigits width n ++ rest).take width = writeDigits width n := by
    rw [List.take_append_of_le_length (by simp), List.take_of_length_le (by simp)]
  have others : (writeDigits width n ++ rest).drop width = rest := by
    rw [List.drop_append_of_le_length (by simp), List.drop_of_length_le (by simp), List.nil_append]
  unfold readDigits
  rw [digits, others, if_pos ⟨length_writeDigits width n, List.all_eq_true.2 isDigit_of_mem_writeDigits⟩,
    digitsValue_writeDigits, Nat.mod_eq_of_lt h]

/-- A fraction of six digits is read whole. -/
theorem readFraction_writeDigits {n : Nat} (h : n < 1000000) : readFraction (writeDigits 6 n) = some (n, []) := by
  have digits : readDigits 6 (writeDigits 6 n) = some (n, []) := by
    simpa using readDigits_writeDigits 6 h []
  simp [readFraction, digits]

/-! ### Times of day -/

/-- A last field of two digits is read whole. -/
theorem readFields_last {separated : Option Bool} {more value : Nat} (h : value < 100) :
    readFields separated more (writeDigits 2 value) = some ([value], 0, []) := by
  have digits : readDigits 2 (writeDigits 2 value) = some (value, []) := by
    simpa using readDigits_writeDigits 2 h []
  unfold readFields
  rw [digits]
  rfl

/-- Behind a field and a colon come further fields, if anything. -/
theorem readFields_colon {separated : Option Bool} {more value fraction : Nat} {values : List Nat}
    {tail rest : List Char} (h : value < 100) (colons : separated.getD true = true) (some_ : tail ≠ [])
    (further : readFields (some true) more tail = some (values, fraction, rest)) :
    readFields separated (more + 1) (writeDigits 2 value ++ ':' :: tail) = some (value :: values, fraction, rest) := by
  unfold readFields
  rw [readDigits_writeDigits 2 h]
  simp [colons, some_, further]

/-- A last field may have a fraction behind it. -/
theorem readFields_fraction {more value microsecond : Nat} (h : value < 100) (hu : microsecond < 1000000) :
    readFields (some true) more (writeDigits 2 value ++ '.' :: writeDigits 6 microsecond)
      = some ([value], microsecond, []) := by
  have some_ : writeDigits 6 microsecond ≠ [] := fun none_ => by
    have length := congrArg List.length none_
    simp at length
  unfold readFields
  rw [readDigits_writeDigits 2 h]
  simp [some_, readFraction_writeDigits hu]

theorem readFields_seconds {more value microsecond : Nat} (h : value < 100) (hu : microsecond < 1000000) :
    readFields (some true) more (writeDigits 2 value ++ fractionChars microsecond)
      = some ([value], microsecond, []) := by
  unfold fractionChars
  split
  · rename_i whole
    rw [whole, List.append_nil]
    exact readFields_last h
  · exact readFields_fraction h hu

theorem writeDigits_two_append_ne_nil (n : Nat) (rest : List Char) : writeDigits 2 n ++ rest ≠ [] := fun none_ => by
  have length := congrArg List.length none_
  simp at length

/-- Hours and minutes are read back. -/
theorem ClockParts.read_minutes {hour minute : Nat} (hh : hour < 100) (hm : minute < 100) :
    ClockParts.read (writeDigits 2 hour ++ ':' :: writeDigits 2 minute) = some (⟨hour, minute, 0, 0⟩, []) := by
  have some_ : writeDigits 2 minute ≠ [] := by simpa using writeDigits_two_append_ne_nil minute []
  rw [ClockParts.read, readFields_colon hh rfl some_ (readFields_last hm)]
  rfl

/-- So are hours, minutes and seconds with a fraction. -/
theorem ClockParts.read_seconds {hour minute second microsecond : Nat} (hh : hour < 100) (hm : minute < 100)
    (hs : second < 100) (hu : microsecond < 1000000) :
    ClockParts.read (writeDigits 2 hour ++ ':' :: (writeDigits 2 minute
        ++ ':' :: (writeDigits 2 second ++ fractionChars microsecond)))
      = some (⟨hour, minute, second, microsecond⟩, []) := by
  have seconds : readFields (some true) 0 _ = _ := readFields_seconds hs hu
  have minutes : readFields (some true) 1 _ = _ :=
    readFields_colon hm rfl (writeDigits_two_append_ne_nil _ _) seconds
  rw [ClockParts.read, readFields_colon hh rfl (writeDigits_two_append_ne_nil _ _) minutes]
  rfl

/-- A time of day is read back. -/
theorem ClockParts.read_chars (t : TimeOfDay) :
    ClockParts.read t.chars = some (⟨t.hour, t.minute, t.second, t.microsecond⟩, []) := by
  obtain ⟨hour, minute, second, microsecond, hh, hm, hs, hu⟩ := t
  have read := ClockParts.read_seconds (show hour < 100 by omega) (show minute < 100 by omega)
    (show second < 100 by omega) hu
  simpa [TimeOfDay.chars] using read

/-! ### Offsets -/

namespace Offset

variable (o : Offset)

/-- The sign of an offset. -/
def sign : Char := if o.microseconds < 0 then '-' else '+'

/-- The number of seconds of an offset, without its sign and fraction. -/
def seconds : Nat := o.microseconds.natAbs / 1000000

theorem seconds_lt : o.seconds < 86400 := by
  have := o.lt_day
  unfold seconds dayMicroseconds at *
  omega

/-- Behind its sign, an offset is written like a time of day, of which the seconds may be left out. -/
theorem chars_eq : ∃ clock, o.chars = o.sign :: clock ∧ ClockParts.read clock
    = some (⟨o.seconds / 3600, o.seconds / 60 % 60, o.seconds % 60, o.microseconds.natAbs % 1000000⟩, []) := by
  have small := o.seconds_lt
  by_cases whole : o.microseconds.natAbs % 60000000 = 0
  · refine ⟨writeDigits 2 (o.seconds / 3600) ++ ':' :: writeDigits 2 (o.seconds / 60 % 60), ?_, ?_⟩
    · simp [chars, whole, sign, seconds]
    · rw [ClockParts.read_minutes (by omega) (by omega)]
      have noSeconds : o.seconds % 60 = 0 := by unfold seconds; omega
      have noFraction : o.microseconds.natAbs % 1000000 = 0 := by omega
      rw [noSeconds, noFraction]
  · refine ⟨writeDigits 2 (o.seconds / 3600) ++ ':' :: (writeDigits 2 (o.seconds / 60 % 60)
      ++ ':' :: (writeDigits 2 (o.seconds % 60) ++ fractionChars (o.microseconds.natAbs % 1000000))), ?_, ?_⟩
    · simp [chars, whole, sign, seconds]
    · exact ClockParts.read_seconds (by omega) (by omega) (by omega) (by omega)

end Offset



/-! ### Dates -/

theorem ne_of_isDigit {c other : Char} (h : c.isDigit) (noDigit : other.isDigit = false) : c ≠ other := by
  rintro rfl
  simp [h] at noDigit

theorem Date.day_lt (d : Date) : d.day < 100 := by
  have bound : daysInMonth d.year d.month ≤ 31 := by
    unfold daysInMonth
    split
    · split <;> decide
    all_goals decide
  have := d.day_mem.2
  omega

theorem Date.chars_eq (d : Date) :
    d.chars = writeDigits 4 d.year ++ '-' :: (writeDigits 2 d.month ++ '-' :: writeDigits 2 d.day) := by
  simp [Date.chars]

@[simp] theorem Date.length_chars (d : Date) : d.chars.length = 10 := by
  simp [Date.chars]

theorem Date.mem_chars {d : Date} : ∀ c ∈ d.chars, c.isDigit ∨ c = '-' := by
  rw [d.chars_eq]
  simp only [List.mem_append, List.mem_cons]
  rintro c (mem | rfl | mem | rfl | mem)
  any_goals exact .inr rfl
  all_goals exact .inl (isDigit_of_mem_writeDigits c mem)

/-- The numbers of a date. -/
def Date.parts (d : Date) : DateParts := ⟨d.year, d.month, d.day⟩

@[simp] theorem Date.ofParts_parts (d : Date) : Date.ofParts d.parts = .ok d := by
  obtain ⟨year, month, day, hy, hm, hd⟩ := d
  simp [Date.ofParts, Date.parts, hy, hm, hd]
  rfl

/-- Behind its first hyphen, a date goes on with a digit. -/
theorem Date.month_digit_ne (d : Date) : digitChar (d.month / 10 % 10) ≠ 'W' :=
  ne_of_isDigit (isDigit_digitChar (Nat.mod_lt _ (by decide))) rfl

/-- A date is not taken for a week date. -/
theorem DateParts.read_chars (d : Date) : DateParts.read d.chars = some d.parts := by
  have year := d.year_mem.2
  have month := d.month_mem.2
  have day : readDigits 2 (writeDigits 2 d.day) = some (d.day, []) := by
    simpa using readDigits_writeDigits 2 d.day_lt []
  have later : readDigits 2 (writeDigits 2 d.month ++ '-' :: writeDigits 2 d.day)
      = some (d.month, '-' :: writeDigits 2 d.day) := readDigits_writeDigits 2 (by omega) _
  rw [d.chars_eq, DateParts.read, readDigits_writeDigits 4 (by omega)]
  simp only [Option.bind_eq_bind, Option.bind_some, List.head?_cons, beq_self_eq_true, if_true, List.drop_succ_cons,
    List.drop_zero]
  split
  · rename_i week isWeek
    exact absurd (List.head_eq_of_cons_eq isWeek) d.month_digit_ne
  · simp [later, skipHyphen, day, Date.parts]

theorem utf8Len_eq_length {cs : List Char} (ascii : ∀ c ∈ cs, c.utf8Size = 1) : String.utf8Len cs = cs.length := by
  induction cs with
  | nil => rfl
  | cons c cs ih => simp [ih fun c mem => ascii c (List.mem_cons_of_mem _ mem), ascii c]

theorem Date.utf8Size_of_mem_chars {d : Date} {c : Char} (mem : c ∈ d.chars) : c.utf8Size = 1 := by
  rcases Date.mem_chars c mem with digit | rfl
  · simp only [Char.isDigit, Bool.and_eq_true, decide_eq_true_eq] at digit
    simp only [Char.utf8Size]
    grind
  · rfl

/-- A date is read back. -/
theorem Date.read_text (d : Date) : Date.read d.text = .ok d := by
  have size : d.text.utf8ByteSize = 10 := by
    rw [Date.text, String.utf8ByteSize_ofList, utf8Len_eq_length fun _ => Date.utf8Size_of_mem_chars, d.length_chars]
  have parts : DateParts.read d.text.toList = some d.parts := by
    rw [Date.text, String.toList_ofList, DateParts.read_chars]
  simp [Date.read, size, parts, Except.mapError]

/-! ### Points in time -/

/-- The date of a point in time ends where it is written to end. -/
theorem dateLength_chars (d : Date) (rest : List Char) : dateLength (d.chars ++ 'T' :: rest) = 10 := by
  rw [d.chars_eq]
  simp [dateLength, writeDigits, d.month_digit_ne]

/-- The numbers of a time of day. -/
def TimeOfDay.parts (t : TimeOfDay) : ClockParts := ⟨t.hour, t.minute, t.second, t.microsecond⟩

@[simp] theorem TimeOfDay.ofParts_parts (t : TimeOfDay) : TimeOfDay.ofParts t.parts = .ok t := by
  obtain ⟨hour, minute, second, microsecond, hh, hm, hs, hu⟩ := t
  simp [TimeOfDay.ofParts, TimeOfDay.parts, hh, hm, hs, hu]
  rfl

theorem isDigit_or_eq_of_mem_fractionChars {n : Nat} : ∀ c ∈ fractionChars n, c.isDigit ∨ c = '.' := by
  unfold fractionChars
  split
  · simp
  · simp only [List.mem_cons]
    rintro c (rfl | mem)
    · exact .inr rfl
    · exact .inl (isDigit_of_mem_writeDigits c mem)

theorem TimeOfDay.mem_chars {t : TimeOfDay} : ∀ c ∈ t.chars, c.isDigit ∨ c = ':' ∨ c = '.' := by
  simp only [chars, List.mem_append, List.mem_cons]
  rintro c ((((mem | rfl | mem) | rfl | mem)) | mem)
  any_goals exact .inr (.inl rfl)
  any_goals exact .inl (isDigit_of_mem_writeDigits c mem)
  exact (isDigit_or_eq_of_mem_fractionChars c mem).imp id .inr

/-- No character of a time of day begins an offset. -/
theorem TimeOfDay.not_isSign_of_mem_chars (t : TimeOfDay) : ∀ c ∈ t.chars, (!isSign c) = true := by
  intro c mem
  rcases TimeOfDay.mem_chars c mem with digit | rfl | rfl
  · have noSign : c ≠ '+' ∧ c ≠ '-' := ⟨ne_of_isDigit digit rfl, ne_of_isDigit digit rfl⟩
    simp [isSign, noSign]
  · rfl
  · rfl

namespace Offset

variable (o : Offset)

/-- The offset of universal time. -/
def universal : Offset := ⟨0, by decide⟩

/-- What an offset is read back as: one of less than a second counts as none. -/
def readBack : Offset := if o.seconds = 0 then universal else o

/-- Offsets of whole seconds are read back. -/
theorem readBack_of_dvd (whole : 1000000 ∣ o.microseconds) : o.readBack = o := by
  obtain ⟨n, lt_day⟩ := o
  unfold readBack
  split
  · rename_i noSeconds
    have zero : n = 0 := by
      simp only [seconds] at noSeconds whole
      omega
    subst zero
    rfl
  · rfl

theorem isSign_sign : isSign o.sign = true := by
  unfold sign
  split <;> rfl

/-- The microseconds that an offset is read to have, without its sign. -/
def size : Int := if o.seconds = 0 then 0 else o.seconds * 1000000 + (o.microseconds.natAbs % 1000000 : Nat)

theorem signed_size : (if o.sign == '-' then -o.size else o.size) = o.readBack.microseconds := by
  by_cases noSeconds : o.seconds = 0
  · simp [size, readBack, noSeconds, universal]
  · rw [readBack, if_neg noSeconds, size, if_neg noSeconds]
    unfold sign seconds
    split <;> simp only [beq_self_eq_true, if_true, beq_iff_eq, Char.reduceEq, if_false] <;> omega

end Offset

/-- A time of day and an offset are told apart by the sign between them. -/
theorem readTimeAndOffset_chars (t : TimeOfDay) (offset : Option Offset) :
    readTimeAndOffset (t.chars ++ (offset.map Offset.chars).getD [])
      = some (t.parts, offset.map fun o => o.readBack.microseconds) := by
  unfold readTimeAndOffset
  rw [List.takeWhile_append_of_pos t.not_isSign_of_mem_chars, List.dropWhile_append_of_pos t.not_isSign_of_mem_chars]
  cases offset with
  | none => simp [ClockParts.read_chars, atEnd, TimeOfDay.parts]
  | some o =>
    obtain ⟨clock, chars, read⟩ := o.chars_eq
    have seconds : 3600 * (o.seconds / 3600) + 60 * (o.seconds / 60 % 60) + o.seconds % 60 = o.seconds := by omega
    simp only [Option.map_some, Option.getD_some, chars, List.takeWhile_cons, List.dropWhile_cons, o.isSign_sign,
      Bool.not_true, Bool.false_eq_true, if_false, List.append_nil, ClockParts.read_chars, read, Option.bind_eq_bind,
      Option.bind_some, atEnd, if_true, seconds]
    rw [← o.signed_size]
    rfl

/-- A point in time is read back, but for an offset of less than a second. -/
theorem DateTime.read_chars (d : DateTime) : DateTimeParts.read (d.chars 'T')
    = some ⟨d.date.parts, d.time.parts, d.offset.map fun o => o.readBack.microseconds⟩ := by
  have text : d.chars 'T' = d.date.chars ++ 'T' :: (d.time.chars ++ (d.offset.map Offset.chars).getD []) := by
    simp [DateTime.chars]
  have before : (d.chars 'T').take 10 = d.date.chars := by
    rw [text, List.take_append_of_le_length (by simp), List.take_of_length_le (by simp)]
  have behind : (d.chars 'T').drop 10 = 'T' :: (d.time.chars ++ (d.offset.map Offset.chars).getD []) := by
    rw [text, List.drop_append_of_le_length (by simp), List.drop_of_length_le (by simp), List.nil_append]
  have length : dateLength (d.chars 'T') = 10 := by rw [text, dateLength_chars]
  rw [DateTimeParts.read, length, before, behind, DateParts.read_chars]
  simp [readTimeAndOffset_chars]

@[simp] theorem Offset.ofMicroseconds_microseconds (o : Offset) : Offset.ofMicroseconds o.microseconds = .ok o := by
  obtain ⟨n, h⟩ := o
  simp [Offset.ofMicroseconds, Offset.ofMicroseconds?, h]
  rfl

theorem DateTime.ofParts_parts (date : Date) (time : TimeOfDay) (offset : Option Offset) :
    DateTime.ofParts ⟨date.parts, time.parts, offset.map Offset.microseconds⟩ = .ok ⟨date, time, offset⟩ := by
  cases offset <;> simp [DateTime.ofParts, Except.mapError] <;> rfl

/-! ### The short form of universal time -/

theorem Z_not_mem_digits (width n : Nat) : 'Z' ∉ writeDigits width n := fun mem =>
  absurd (isDigit_of_mem_writeDigits _ mem) (by decide)

theorem Z_not_mem_fractionChars (n : Nat) : 'Z' ∉ fractionChars n := fun mem => by
  simpa using isDigit_or_eq_of_mem_fractionChars _ mem

theorem Z_not_mem_offset (o : Offset) : 'Z' ∉ o.chars := by
  simp only [Offset.chars]
  split <;> split <;> simp [Z_not_mem_digits, Z_not_mem_fractionChars]

theorem DateTime.Z_not_mem_chars (d : DateTime) : 'Z' ∉ d.chars 'T' := by
  have offset : 'Z' ∉ (d.offset.map Offset.chars).getD [] := by
    cases d.offset <;> simp [Z_not_mem_offset]
  simp [DateTime.chars, Date.chars, TimeOfDay.chars, Z_not_mem_digits, Z_not_mem_fractionChars, offset]

/-- Only what follows the last characters other than `Z` changes. -/
theorem expandZ_append {cs : List Char} (h : 'Z' ∉ cs) (rest : List Char) :
    expandZ (String.ofList (cs ++ rest)) = String.ofList cs ++ expandZ (String.ofList rest) := by
  have other : ∀ c ∈ cs, (if c == 'Z' then "+00:00".toList else [c]) = [c] := by
    intro c mem
    rw [if_neg]
    simpa using ne_of_mem_of_not_mem mem h
  apply String.toList_injective
  simp only [expandZ, String.toList_append, String.toList_ofList, List.flatMap_append]
  rw [List.flatMap_congr other, List.flatMap_singleton']

@[simp] theorem expandZ_text (d : DateTime) : expandZ d.text = d.text := by
  have expanded := expandZ_append d.Z_not_mem_chars []
  rw [List.append_nil] at expanded
  exact expanded.trans String.append_empty

theorem DateTime.read_of_parts {text : String} {p : DateTimeParts}
    (parts : DateTimeParts.read (expandZ text).toList = some p) : DateTime.read text = DateTime.ofParts p := by
  unfold DateTime.read
  simp only [parts]

theorem DateTime.read_congr {a b : String} (same : expandZ a = expandZ b) : DateTime.read a = DateTime.read b := by
  unfold DateTime.read
  simp only [same]

/-- A point in time is read back with the offset that `Offset.readBack` gives. -/
theorem DateTime.read_text (d : DateTime) :
    DateTime.read d.text = .ok ⟨d.date, d.time, d.offset.map Offset.readBack⟩ := by
  have parts : DateTimeParts.read (expandZ d.text).toList
      = some ⟨d.date.parts, d.time.parts, d.offset.map fun o => o.readBack.microseconds⟩ := by
    rw [expandZ_text, DateTime.text, String.toList_ofList, d.read_chars]
  have checked := DateTime.ofParts_parts d.date d.time (d.offset.map Offset.readBack)
  rw [Option.map_map] at checked
  exact (DateTime.read_of_parts parts).trans checked

theorem DateTime.read_text_of_whole (d : DateTime) (whole : ∀ o ∈ d.offset, 1000000 ∣ o.microseconds) :
    DateTime.read d.text = .ok d := by
  obtain ⟨date, time, offset⟩ := d
  rw [read_text]
  cases offset with
  | none => rfl
  | some o => rw [Option.map_some, o.readBack_of_dvd (whole o rfl)]

/-- The text of a point in time without its offset. -/
def DateTime.localText (d : DateTime) : String := String.ofList (d.date.chars ++ 'T' :: d.time.chars)

/-- The text of a point in universal time ends in its offset. -/
theorem DateTime.text_universal {d : DateTime} (universal : d.offset = some .universal) :
    d.text = d.localText ++ "+00:00" := by
  have offset : Offset.universal.chars = "+00:00".toList := by decide
  rw [text, chars, universal, Option.map_some, Option.getD_some, offset, String.ofList_append, String.ofList_toList]
  rfl

/-- Reading makes no difference between that offset and a `Z` in its place. -/
theorem DateTime.read_universal {d : DateTime} (universal : d.offset = some .universal) :
    DateTime.read (d.localText ++ "Z") = DateTime.read d.text := by
  have noZ : 'Z' ∉ d.date.chars ++ 'T' :: d.time.chars := fun mem =>
    d.Z_not_mem_chars (List.mem_append_left _ (by simpa using mem))
  have joined : d.localText ++ "Z" = String.ofList (d.date.chars ++ 'T' :: d.time.chars ++ ['Z']) :=
    String.ofList_append.symm
  apply read_congr
  rw [joined, expandZ_append noZ, expandZ_text, text_universal universal]
  rfl

end Calendar

namespace ScalarKind

theorem deserialize_date {text : String} {d : Calendar.Date} (read : Calendar.Date.read text = .ok d) :
    date.deserialize (.str text) = .ok (.date d) := by
  simp [deserialize, requireText, read, Except.mapError]

theorem deserialize_dateTime {text : String} {d : Calendar.DateTime} (read : Calendar.DateTime.read text = .ok d) :
    dateTime.deserialize (.str text) = .ok (.dateTime d) := by
  simp [deserialize, requireText, read, Except.mapError]

end ScalarKind

/-- Dates are read back from what they are sent as, and so are points in time without an offset and with one
    of whole seconds, which they keep. In universal time, the offset at the end may be sent as `Z`. -/
theorem calendar_round_trip :
    (∀ d : Calendar.Date, ScalarKind.date.deserialize (ScalarValue.date d).serialize = .ok (.date d)) ∧
      (∀ d : Calendar.DateTime, (∀ o ∈ d.offset, 1000000 ∣ o.microseconds) →
        ScalarKind.dateTime.deserialize (ScalarValue.dateTime d).serialize = .ok (.dateTime d)) ∧
      ∀ d : Calendar.DateTime, d.offset = some .universal →
        ∃ localText, (ScalarValue.dateTime d).serialize = .str (localText ++ "+00:00") ∧
          ScalarKind.dateTime.deserialize (.str (localText ++ "Z")) = .ok (.dateTime d) := by
  refine ⟨fun d => ScalarKind.deserialize_date d.read_text, fun d whole => ?dateTime,
    fun d universal => ⟨d.localText, ?sent, ?short⟩⟩
  case dateTime => exact ScalarKind.deserialize_dateTime (d.read_text_of_whole whole)
  case sent => rw [ScalarValue.serialize, Calendar.DateTime.text_universal universal]
  case short =>
    apply ScalarKind.deserialize_dateTime
    rw [Calendar.DateTime.read_universal universal]
    apply d.read_text_of_whole
    simp [universal, Calendar.Offset.universal]

namespace Calendar

/-- The last seconds of a leap day, with an offset of hours, minutes and seconds behind universal time. -/
def leapEvening : DateTime where
  date := ⟨2024, 2, 29, by decide, by decide, by decide⟩
  time := ⟨23, 59, 58, 7, by decide, by decide, by decide, by decide⟩
  offset := some ⟨-19815000000, by decide⟩

/-- The same hour in universal time. -/
def leapEveningUniversal : DateTime := { leapEvening with offset := some .universal }

end Calendar

theorem calendar_round_trip_leapEvening :
    (∀ o ∈ Calendar.leapEvening.offset, 1000000 ∣ o.microseconds) ∧
      (ScalarValue.dateTime Calendar.leapEvening).serialize = .str "2024-02-29T23:59:58.000007-05:30:15" ∧
      ScalarKind.dateTime.deserialize (.str "2024-02-29T23:59:58.000007-05:30:15")
        = .ok (.dateTime Calendar.leapEvening) ∧
      Calendar.leapEveningUniversal.offset = some .universal ∧
      ScalarKind.dateTime.deserialize (.str "2024-02-29T23:59:58.000007Z")
        = .ok (.dateTime Calendar.leapEveningUniversal) := by
  have whole : ∀ o ∈ Calendar.leapEvening.offset, 1000000 ∣ o.microseconds := by
    simp [Calendar.leapEvening]
  have sent : (ScalarValue.dateTime Calendar.leapEvening).serialize = .str "2024-02-29T23:59:58.000007-05:30:15" :=
    rfl
  have back := calendar_round_trip.2.1 Calendar.leapEvening whole
  obtain ⟨localText, sentUniversal, short⟩ := calendar_round_trip.2.2 Calendar.leapEveningUniversal rfl
  have text : localText = "2024-02-29T23:59:58.000007" := by
    have written : (ScalarValue.dateTime Calendar.leapEveningUniversal).serialize
      = .str ("2024-02-29T23:59:58.000007" ++ "+00:00") := rfl
    have same := Json.str.inj (written.symm.trans sentUniversal)
    exact (String.append_left_inj _).1 same.symm
  rw [sent] at back
  rw [text] at short
  exact ⟨whole, sent, back, rfl, short⟩

end OperationClasses
