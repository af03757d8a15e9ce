import AdventureTables.Decimal.Shortest
/-!
# How a number is written

A layout says which decimals are written out in full and how the two infinite
numbers and the undefined one are spelled.  Written out in full, a decimal
always has a point and a digit on both sides of it; otherwise it has one digit
before the point, no point after a single digit, and its power after an `e`.
-/

namespace AdventureTables.Decimal

/-- The conventions of a place where numbers are written.  `positional` tells
from the place of the point, counted from the first digit, whether a decimal
is written out in full. -/
structure Layout where
  positional : Int → Bool
  nan : String
  infinite : String

/-- `count` zeros. -/
def zeros (count : Int) : List Char :=
  List.replicate count.toNat '0'

/-- The digits of a positive decimal written out in full. -/
def inFull (digits : List Char) (point : Int) : List Char :=
  let size : Int := digits.length
  if point ≤ 0 then ['0', '.'] ++ zeros (-point) ++ digits
  else if size ≤ point then digits ++ zeros (point - size) ++ ['.', '0']
  else digits.take point.toNat ++ ['.'] ++ digits.drop point.toNat

/-- The digits of a positive decimal with its power after an `e`. -/
def withPower (digits : List Char) (point : Int) : List Char :=
  let power := (toString (point - 1)).toList
  match digits with
  | [] => []
  | [d] => d :: 'e' :: power
  | d :: rest => d :: '.' :: rest ++ 'e' :: power

/-- A positive decimal. -/
def Layout.decimal (layout : Layout) (x : Decimal) : List Char :=
  let digits := Nat.toDigits 10 x.digits
  let point := (digits.length : Int) + x.power
  if layout.positional point then inFull digits point else withPower digits point

/-- A number. -/
def Layout.write (layout : Layout) : Binary64 → String
  | .nan => layout.nan
  | .infinite negative => (if negative then "-" else "") ++ layout.infinite
  | .finite negative mantissa exponent =>
    let digits := if mantissa = 0 then "0.0".toList else layout.decimal (shortest mantissa exponent)
    String.ofList ((if negative then ['-'] else []) ++ digits)

end AdventureTables.Decimal
