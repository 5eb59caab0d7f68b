/-
Module: OperationClasses.Decimal.Shortest
Purpose: The fewest decimal digits that read back as a given double, and the text of a double.
Main exports: Decimal, Binary64.shortest, Binary64.text
-/
import OperationClasses.Decimal.Binary64

namespace OperationClasses

/-- The decimal `digits * 10 ^ exponent`. -/
structure Decimal where
  digits : Nat
  exponent : Int
deriving DecidableEq, Repr, Inhabited

namespace Binary64

/-- The least and greatest fourfold mantissa that still round to `mantissa * 2 ^ exponent`, as multiples
    of a quarter unit. Below a power of two the spacing is half as wide. -/
def quarterBounds (mantissa : Nat) (exponent : Int) : Nat × Nat :=
  (if mantissa = leastNormal ∧ minExponent < exponent then 4 * mantissa - 1 else 4 * mantissa - 2,
    4 * mantissa + 2)

/-- The exponent `p` with `10 ^ p ≤ num / den < 10 ^ (p + 1)`. -/
def decimalExponent (num den : Nat) : Int :=
  if den ≤ num then (digitCount (num / den) : Int) - 1
  else
    let inverse := (den + num - 1) / num
    if inverse ≤ 1 then 0 else -(digitCount (inverse - 1) : Int)

/-- The point of the grid of `count` digits that reads back as the double, if there is one: of the two
    neighbours of the value the nearer, of two equally near ones the even. -/
def onGrid (mantissa : Nat) (exponent : Int) (count : Nat) : Option Decimal :=
  let quarter := exponent - 2
  let (num, den) : Nat × Nat :=
    if 0 ≤ quarter then ((4 * mantissa) <<< quarter.toNat, 1)
    else (4 * mantissa, 1 <<< (-quarter).toNat)
  let unit := decimalExponent num den - (count - 1 : Nat)
  -- the value in units of the grid is `n / d`
  let (n, d) : Nat × Nat :=
    if 0 ≤ unit then (num, den * Nat.pow 10 unit.toNat) else (num * Nat.pow 10 (-unit).toNat, den)
  let (low, high) := quarterBounds mantissa exponent
  -- `k` reads back when `k * d`, scaled to quarter units, lies between the bounds
  let inside (k : Nat) : Bool :=
    let lhs := k * d * (4 * mantissa)
    if mantissa % 2 = 0 then low * n ≤ lhs && lhs ≤ high * n else low * n < lhs && lhs < high * n
  let below := n / d
  let above := if n % d = 0 then below else below + 1
  let nearest := roundDiv n d
  if inside nearest then some ⟨nearest, unit⟩
  else if inside below then some ⟨below, unit⟩
  else if inside above then some ⟨above, unit⟩
  else none

/-- Drops the zeros that a number ends with and raises the exponent for each. -/
def stripZeros (fuel : Nat) (d : Decimal) : Decimal :=
  match fuel with
  | 0 => d
  | fuel + 1 =>
    if d.digits ≠ 0 ∧ d.digits % 10 = 0 then stripZeros fuel ⟨d.digits / 10, d.exponent + 1⟩ else d

/-- The decimal with the fewest digits that reads back as `mantissa * 2 ^ exponent`, for a mantissa other
    than zero. Seventeen digits always suffice. -/
def shortest (mantissa : Nat) (exponent : Int) : Decimal :=
  let found := (List.range 17).findSome? fun k => onGrid mantissa exponent (k + 1)
  stripZeros 20 (found.getD ⟨0, 0⟩)

/-- A decimal in positional form with at least one digit after the point, where the value lies from
    10 ^ -4 up to 10 ^ 16, and otherwise in scientific form with an exponent of at least two digits. -/
def decimalText (d : Decimal) : String :=
  let digits := Nat.toDigits 10 d.digits
  let point : Int := d.exponent + digits.length
  if -4 < point ∧ point ≤ 16 then
    if point ≤ 0 then String.ofList ("0.".toList ++ List.replicate (-point).toNat '0' ++ digits)
    else if digits.length ≤ point.toNat then
      String.ofList (digits ++ List.replicate (point.toNat - digits.length) '0' ++ ".0".toList)
    else String.ofList (digits.take point.toNat ++ '.' :: digits.drop point.toNat)
  else
    let e := point - 1
    let magnitude := Nat.toDigits 10 e.natAbs
    let tail := if digits.length ≤ 1 then [] else '.' :: digits.drop 1
    String.ofList (digits.take 1 ++ tail ++ 'e' :: (if e < 0 then '-' else '+')
      :: (List.replicate (2 - magnitude.length) '0' ++ magnitude))

/-- The text of a double, given the words for infinity and for not-a-number. -/
def textWith (infinity nanText : String) : Binary64 → String
  | .nan => nanText
  | .infinite negative => (if negative then "-" else "") ++ infinity
  | .finite negative mantissa exponent =>
    (if negative then "-" else "")
      ++ (if mantissa = 0 then "0.0" else decimalText (shortest mantissa exponent))

/-- The text of a double as a literal shows it. -/
def text : Binary64 → String := textWith "inf" "nan"

end Binary64

end OperationClasses
