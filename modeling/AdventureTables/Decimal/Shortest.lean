import AdventureTables.Decimal.Binary64
/-!
# The shortest decimal of a number

A number in double precision is written with the fewest decimal digits that
read back as itself, and of those digits with the ones closest to it.

The decimals that read back as `m · 2 ^ q` fill an interval around it that
reaches half way to its neighbours, with the ends if `m` is even.  For one
digit, two digits and so on up to seventeen, `shortest` looks at the two
points next to the number on the grid of that many digits: if a grid has a
point in the interval, one of these two is in it.
-/

namespace AdventureTables

/-- The decimal `digits · 10 ^ power`. -/
structure Decimal where
  digits : Nat
  power : Int
  deriving DecidableEq, Repr, Inhabited

namespace Decimal

/-- The interval of the decimals that read back as one number: its ends and
the number itself over one denominator. -/
structure Interval where
  low : Nat
  center : Nat
  high : Nat
  den : Nat
  closed : Bool

/-- The interval around `m · 2 ^ q`.  Below a power of two the neighbour is
only half as far, except at the least exponent. -/
def Interval.around (m : Nat) (q : Int) : Interval :=
  let below := if m = Nat.pow 2 52 ∧ Binary64.leastExponent < q then 1 else 2
  let (scale, den) := Binary64.scaleDown 1 4 (-q)
  { low := (4 * m - below) * scale, center := 4 * m * scale, high := (4 * m + 2) * scale,
    den, closed := m % 2 = 0 }

/-- Whether `digits · 10 ^ power` lies in the interval. -/
def Interval.holds (i : Interval) (digits : Nat) (power : Int) : Bool :=
  let (n, d) :=
    if 0 ≤ power then (digits * Nat.pow 10 power.toNat * i.den, 1)
    else (digits * i.den, Nat.pow 10 (-power).toNat)
  if i.closed then i.low * d ≤ n && n ≤ i.high * d else i.low * d < n && n < i.high * d

/-- The grid point at or below the center at one power of ten, and whether
the center is nearer to the next one (a tie goes to the even point). -/
def Interval.floor (i : Interval) (power : Int) : Nat × Bool :=
  let (n, d) :=
    if 0 ≤ power then (i.center, i.den * Nat.pow 10 power.toNat)
    else (i.center * Nat.pow 10 (-power).toNat, i.den)
  (n / d, Binary64.roundDiv n d ≠ n / d)

/-- The nearest of the two grid points next to the center that lies in the
interval. -/
def Interval.onGrid? (i : Interval) (power : Int) : Option Decimal :=
  let (point, up) := i.floor power
  let (first, second) := if up then (point + 1, point) else (point, point + 1)
  if i.holds first power then some ⟨first, power⟩
  else if i.holds second power then some ⟨second, power⟩
  else none

/-- The power of ten of the leading digit of the center. -/
def Interval.leadingPower (i : Interval) : Int :=
  let guess : Int := (Binary64.decimalLength i.center : Int) - Binary64.decimalLength i.den
  let (point, _) := i.floor guess
  if point = 0 then guess - 1 else guess

/-- Moves zeros at the end of the digits into the power. -/
def trim : Nat → Decimal → Decimal
  | 0, x => x
  | fuel + 1, x =>
    if x.digits ≠ 0 ∧ x.digits % 10 = 0 then trim fuel ⟨x.digits / 10, x.power + 1⟩ else x

/-- The shortest decimal that reads back as `m · 2 ^ q`, for a positive `m`. -/
def shortest (m : Nat) (q : Int) : Decimal :=
  let i := Interval.around m q
  let leading := i.leadingPower
  match (List.range 17).findSome? fun (n : Nat) => i.onGrid? (leading - n) with
  | some x => trim 20 x
  | none => ⟨0, 0⟩

end Decimal

end AdventureTables
