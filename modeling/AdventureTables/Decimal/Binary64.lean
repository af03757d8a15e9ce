/-!
# Numbers in double precision

A finite number is `mantissa · 2 ^ exponent` with at most 53 binary digits
and an exponent from -1074 to 971.  Among the ways to write it so the
mantissa is the largest that fits, so equal numbers have equal parts, except
that zero keeps its sign.

A decimal is read by `nearest`: the quotient of two whole numbers is rounded
to the closest number there is, a tie going to the even mantissa.  All of it
is whole-number arithmetic, so no step rounds but the one that says so.
-/

namespace AdventureTables

/-- A number in double precision. -/
inductive Binary64 where
  | finite (negative : Bool) (mantissa : Nat) (exponent : Int)
  | infinite (negative : Bool)
  | nan
  deriving DecidableEq, Repr, Inhabited

namespace Binary64

/-- The least binary exponent. -/
def leastExponent : Int := -1074

/-- The greatest binary exponent. -/
def greatestExponent : Int := 971

/-- Zero with a sign. -/
def zero (negative : Bool) : Binary64 :=
  .finite negative 0 leastExponent

/-- Whether a number is neither infinite nor undefined. -/
def isFinite : Binary64 → Bool
  | .finite .. => true
  | _ => false

/-- Whether two numbers are one key of a mapping: the two zeros are equal, and
so are two undefined numbers. -/
def same : Binary64 → Binary64 → Bool
  | .finite _ 0 _, .finite _ 0 _ => true
  | x, y => x = y

/-- A quotient rounded to a whole number, a tie going to the even one. -/
def roundDiv (n d : Nat) : Nat :=
  let q := n / d
  let r := n % d
  if 2 * r < d then q
  else if d < 2 * r then q + 1
  else q + q % 2

/-- The fraction `n / (d · 2 ^ e)` as numerator and denominator. -/
def scaleDown (n d : Nat) (e : Int) : Nat × Nat :=
  if 0 ≤ e then (n, d * Nat.pow 2 e.toNat) else (n * Nat.pow 2 (-e).toNat, d)

/-- The number closest to `n / d`, for positive `n` and `d`. -/
def nearest (negative : Bool) (n d : Nat) : Binary64 :=
  let guess : Int := (n.log2 : Int) - (d.log2 : Int) - 52
  let (n₁, d₁) := scaleDown n d guess
  let exponent := max (if n₁ < d₁ * Nat.pow 2 52 then guess - 1 else guess) leastExponent
  let (n₂, d₂) := scaleDown n d exponent
  let mantissa := roundDiv n₂ d₂
  let (mantissa, exponent) :=
    if mantissa = Nat.pow 2 53 then (Nat.pow 2 52, exponent + 1) else (mantissa, exponent)
  if greatestExponent < exponent then .infinite negative
  else .finite negative mantissa exponent

/-- The number of decimal digits of a number, one for zero. -/
def decimalLength (n : Nat) : Nat :=
  if n < 10 then 1 else decimalLength (n / 10) + 1

/-- The number closest to `digits · 10 ^ power`.  Decimals far outside the
range of double precision are not expanded. -/
def ofDecimal (negative : Bool) (digits : Nat) (power : Int) : Binary64 :=
  let size := (decimalLength digits : Int) + power
  if digits = 0 ∨ size < -350 then zero negative
  else if 350 < size then .infinite negative
  else if 0 ≤ power then nearest negative (digits * Nat.pow 10 power.toNat) 1
  else nearest negative digits (Nat.pow 10 (-power).toNat)

end Binary64

end AdventureTables
