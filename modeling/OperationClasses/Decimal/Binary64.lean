/-
Module: OperationClasses.Decimal.Binary64
Purpose: Double-precision numbers as exact values, and the double nearest to a decimal.
Main exports: Binary64, Binary64.ofDecimal, Binary64.eqInt
-/

namespace OperationClasses

/-- A double-precision number. A finite one is `mantissa * 2 ^ exponent`, where the mantissa is below
    2 ^ 53, and at least 2 ^ 52 unless the exponent is the least one, -1074. -/
inductive Binary64 where
  | finite (negative : Bool) (mantissa : Nat) (exponent : Int)
  | infinite (negative : Bool)
  | nan
deriving DecidableEq, Repr, Inhabited

namespace Binary64

/-- Whether a double is a number of finite size. -/
def isFinite : Binary64 → Bool
  | .finite .. => true
  | _ => false

/-- The least mantissa of a double whose exponent is not the least one: 2 ^ 52. -/
def leastNormal : Nat := 0x10000000000000

/-- The least exponent of a finite double. -/
def minExponent : Int := -1074

/-- The greatest exponent of a finite double. -/
def maxExponent : Int := 971

/-- The quotient rounded to the nearest integer, a half to the even neighbour. -/
def roundDiv (num den : Nat) : Nat :=
  let q := num / den
  let r := num % den
  if 2 * r < den then q else if den < 2 * r then q + 1 else q + q % 2

/-- The finite double `mantissa * 2 ^ exponent` after a carry is moved into the exponent, or infinity. -/
def pack (negative : Bool) (mantissa : Nat) (exponent : Int) : Binary64 :=
  let (mantissa, exponent) :=
    if mantissa = 2 * leastNormal then (leastNormal, exponent + 1) else (mantissa, exponent)
  if maxExponent < exponent then .infinite negative else .finite negative mantissa exponent

/-- The double nearest to the fraction `num / den`, a tie to the even mantissa. -/
def ofRatio (negative : Bool) (num den : Nat) : Binary64 :=
  if num = 0 then .finite negative 0 minExponent
  else
    let guess : Int := (num.log2 : Int) - den.log2 - 53
    let scaled (e : Int) : Nat × Nat :=
      if 0 ≤ e then (num, den <<< e.toNat) else (num <<< (-e).toNat, den)
    let (n, d) := scaled guess
    let exponent := max minExponent (if n / d < 2 * leastNormal then guess else guess + 1)
    let (n, d) := scaled exponent
    pack negative (roundDiv n d) exponent

/-- The number of decimal digits of a number. -/
def digitCount (n : Nat) : Nat := (Nat.toDigits 10 n).length

/-- The double nearest to `digits * 10 ^ exponent`. Decimals far outside the range are decided by their
    size, so that no huge power is computed. -/
def ofDecimal (negative : Bool) (digits : Nat) (exponent : Int) : Binary64 :=
  let size : Int := exponent + digitCount digits
  if digits = 0 ∨ size < -400 then .finite negative 0 minExponent
  else if 400 < size then .infinite negative
  else if 0 ≤ exponent then ofRatio negative (digits * Nat.pow 10 exponent.toNat) 1
  else ofRatio negative digits (Nat.pow 10 (-exponent).toNat)

/-- Whether a double is a zero of either sign. -/
def isZero : Binary64 → Bool
  | .finite _ mantissa _ => mantissa == 0
  | _ => false

/-- A finite value as a fraction: signed numerator and denominator. -/
def ratio (negative : Bool) (mantissa : Nat) (exponent : Int) : Int × Nat :=
  let sign : Int := if negative then -1 else 1
  if 0 ≤ exponent then (sign * (mantissa <<< exponent.toNat : Nat), 1)
  else (sign * mantissa, 1 <<< (-exponent).toNat)

/-- Whether two doubles are numerically equal: zeros of either sign are, and not-a-number is equal to
    nothing. -/
def numEq (x y : Binary64) : Bool :=
  match x, y with
  | .finite s m e, .finite t n f => (m == 0 && n == 0) || (s == t && m == n && e == f)
  | .infinite s, .infinite t => s == t
  | _, _ => false

/-- Whether a double is numerically equal to an integer. -/
def eqInt (x : Binary64) (n : Int) : Bool :=
  match x with
  | .finite s m e =>
    let (num, den) := ratio s m e
    num == n * den
  | _ => false

end Binary64

end OperationClasses
