/-
Module: OperationClasses.Text.Utf8
Purpose: Characters as bytes, and bytes as characters where bytes that encode none are replaced.
Main exports: utf8Bytes, ofUtf8Bytes
-/

namespace OperationClasses.Text

/-- The bytes of a character. -/
def charBytes (c : Char) : List Nat :=
  let n := c.toNat
  if n < 0x80 then [n]
  else if n < 0x800 then [0xC0 + n / 0x40, 0x80 + n % 0x40]
  else if n < 0x10000 then [0xE0 + n / 0x1000, 0x80 + n / 0x40 % 0x40, 0x80 + n % 0x40]
  else [0xF0 + n / 0x40000, 0x80 + n / 0x1000 % 0x40, 0x80 + n / 0x40 % 0x40, 0x80 + n % 0x40]

/-- The bytes of a text. -/
def utf8Bytes (cs : List Char) : List Nat := cs.flatMap charBytes

/-- The character that stands for bytes which encode none. -/
def replacementChar : Char := Char.ofNat 0xFFFD

/-- What the first byte of a character says: its own bits, how many bytes follow, and the range of the
    first of them, which leaves out long forms, surrogates and numbers beyond the last character. -/
def leadByte (b : Nat) : Option (Nat × Nat × Nat × Nat) :=
  if b < 0xC2 then none
  else if b < 0xE0 then some (b - 0xC0, 1, 0x80, 0xBF)
  else if b < 0xF0 then
    some (b - 0xE0, 2, if b = 0xE0 then 0xA0 else 0x80, if b = 0xED then 0x9F else 0xBF)
  else if b < 0xF5 then
    some (b - 0xF0, 3, if b = 0xF0 then 0x90 else 0x80, if b = 0xF4 then 0x8F else 0xBF)
  else none

/-- Reads bytes after the first of a character. `count` more are needed, the next within a range. -/
def restOfChar (total count low high : Nat) (bytes : List Nat) : Char × List Nat :=
  match count, bytes with
  | 0, _ => (Char.ofNat total, bytes)
  | _ + 1, [] => (replacementChar, [])
  | count + 1, b :: rest =>
    if low ≤ b ∧ b ≤ high then restOfChar (0x40 * total + (b - 0x80)) count 0x80 0xBF rest
    else (replacementChar, b :: rest)

theorem restOfChar_length_le (total count low high : Nat) (bytes : List Nat) :
    (restOfChar total count low high bytes).2.length ≤ bytes.length := by
  fun_induction restOfChar total count low high bytes with
  | case1 => simp
  | case2 => simp
  | case3 _ _ _ _ _ _ _ ih => simp only [List.length_cons]; omega
  | case4 => simp

/-- The characters that bytes encode. The longest beginning of a character that does not go on, and a byte
    that begins none, become one replacement character. -/
def ofUtf8Bytes (bytes : List Nat) : List Char :=
  match bytes with
  | [] => []
  | b :: rest =>
    if b < 0x80 then Char.ofNat b :: ofUtf8Bytes rest
    else
      match leadByte b with
      | none => replacementChar :: ofUtf8Bytes rest
      | some (bits, count, low, high) =>
        (restOfChar bits count low high rest).1 :: ofUtf8Bytes (restOfChar bits count low high rest).2
termination_by bytes.length
decreasing_by
  · simp only [List.length_cons]; omega
  · simp only [List.length_cons]; omega
  · have h := restOfChar_length_le bits count low high rest
    simp only [List.length_cons]; omega

end OperationClasses.Text
