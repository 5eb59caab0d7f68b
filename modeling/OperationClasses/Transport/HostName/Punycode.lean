/-
Module: OperationClasses.Transport.HostName.Punycode
Purpose: Characters beyond ASCII as insertions into the ASCII characters of a text, written as numbers of
  variable length.
Main exports: Punycode.encode, Punycode.decode
-/

namespace OperationClasses.Punycode

/-- The character of a digit: letters first, then the ten digits. -/
def digitChar (d : Nat) : Char := if d < 26 then Char.ofNat (0x61 + d) else Char.ofNat (0x16 + d)

/-- The value of a digit, of a letter in either case. -/
def digitValue? (c : Char) : Option Nat :=
  if c.isLower then some (c.toNat - 0x61)
  else if c.isUpper then some (c.toNat - 0x41)
  else if c.isDigit then some (c.toNat - 0x16)
  else none

/-- The least digit that does not end a number at a place. Places are counted in steps of 36. -/
def threshold (place bias : Nat) : Nat :=
  if place ≤ bias then 1 else if bias + 26 ≤ place then 26 else place - bias

theorem threshold_pos (place bias : Nat) : 1 ≤ threshold place bias := by
  unfold threshold
  split
  · omega
  · split <;> omega

/-- Divides by 35 until the number is small, and counts the divisions in steps of 36. -/
def reduce (delta steps : Nat) : Nat × Nat :=
  if 455 < delta then reduce (delta / 35) (steps + 36) else (delta, steps)
termination_by delta
decreasing_by exact Nat.div_lt_self (by omega) (by omega)

/-- The bias after a number, given how many characters there are with the one it inserts. -/
def adapt (delta : Nat) (isFirst : Bool) (count : Nat) : Nat :=
  let delta := if isFirst then delta / 700 else delta / 2
  let (delta, steps) := reduce (delta + delta / count) 0
  steps + 36 * delta / (delta + 38)

/-- The digits of a number from a place on, the least first. -/
def numberDigits (bias place n : Nat) : List Char :=
  let t := threshold place bias
  if n < t then [digitChar n]
  else digitChar (t + (n - t) % (36 - t)) :: numberDigits bias (place + 36) ((n - t) / (36 - t))
termination_by n
decreasing_by
  have := threshold_pos place bias
  exact Nat.lt_of_le_of_lt (Nat.div_le_self _ _) (by omega)

/-- What is known while characters are written: the digits so far in reverse, the number to be written
    next, the bias, and how many characters are written. -/
structure Progress where
  digits : List Char
  delta : Nat
  bias : Nat
  count : Nat
deriving Repr, Inhabited

/-- Writes the insertions of one character at all its places. -/
def Progress.insert (cs : List Char) (isFirst : Progress → Bool) (p : Progress) (point : Nat) : Progress :=
  cs.foldl (fun p c =>
    if c.toNat < point then { p with delta := p.delta + 1 }
    else if c.toNat = point then
      { digits := (numberDigits p.bias 36 p.delta).reverse ++ p.digits
        delta := 0
        bias := adapt p.delta (isFirst p) (p.count + 1)
        count := p.count + 1 }
    else p) p

/-- The digits of all insertions, of characters in rising order. `next` is the least character that may
    still come. -/
def insertions (cs : List Char) (basic next : Nat) (p : Progress) : List Nat → List Char
  | [] => p.digits.reverse
  | point :: rest =>
    let p := { p with delta := p.delta + (point - next) * (p.count + 1) }
    let p := p.insert cs (·.count == basic) point
    insertions cs basic (point + 1) { p with delta := p.delta + 1 } rest

/-- A text as its ASCII characters and the insertions of the others. -/
def encode (cs : List Char) : List Char :=
  let basic := cs.filter (·.toNat < 0x80)
  let others := ((cs.filter (0x80 ≤ ·.toNat)).map (·.toNat)).mergeSort.eraseDups
  let digits := insertions cs basic.length 0x80 ⟨[], 0, 72, basic.length⟩ others
  if basic.isEmpty then digits else basic ++ '-' :: digits

/-- Reads a number from a place on, which its first small digit ends. -/
def readNumber (bias place weight total : Nat) : List Char → Option (Nat × List Char)
  | [] => none
  | c :: rest =>
    match digitValue? c with
    | none => none
    | some d =>
      let t := threshold place bias
      if d < t then some (total + d * weight, rest)
      else readNumber bias (place + 36) (weight * (36 - t)) (total + d * weight) rest

/-- Makes the insertions that digits tell of. `limit` bounds their number. -/
def insertAll (limit : Nat) (isFirst : Bool) (bias point place : Nat) (done : List Char)
    (digits : List Char) : Option (List Char) :=
  match limit, digits with
  | _, [] => some done
  | 0, _ => none
  | limit + 1, digits =>
    match readNumber bias 36 1 0 digits with
    | none => none
    | some (delta, rest) =>
      let count := done.length + 1
      let point := point + (place + delta) / count
      let place := (place + delta) % count
      if 0x110000 ≤ point then none
      else insertAll limit false (adapt delta isFirst count) point (place + 1)
        (done.take place ++ Char.ofNat point :: done.drop place) rest

/-- The text that ASCII characters and insertions make. -/
def decode (cs : List Char) : Option (List Char) :=
  let digits := (cs.reverse.takeWhile (· != '-')).reverse
  let basic := cs.take (cs.length - digits.length - 1)
  insertAll digits.length true 72 0x80 0 basic digits

end OperationClasses.Punycode
