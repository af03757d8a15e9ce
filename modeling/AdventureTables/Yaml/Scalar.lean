import AdventureTables.Yaml.Event
import AdventureTables.Yaml.Value
/-!
# What a scalar means

A plain scalar is null, a boolean, a whole number or a number in double
precision if it is spelled like one, and text otherwise.  A quoted or block
scalar is text.  A tag may demand one of the four kinds, whatever the style.

Whole numbers are kept up to 64 bits.  A longer one that would fit 128 bits is
an error rather than an approximation (`Unreadable.tooWide`); still longer
ones are read in double precision.
-/

namespace AdventureTables.Yaml

/-- The kinds of scalar that a tag may demand. -/
inductive ScalarKind where
  | bool
  | int
  | float
  | null
  deriving DecidableEq, Repr

/-- Why a scalar cannot be read. -/
inductive Unreadable where
  /-- A whole number of more than 64 bits. -/
  | tooWide (n : Int)
  /-- A text that is not of the kind that its tag demands. -/
  | notA (kind : ScalarKind) (text : String)
  deriving DecidableEq, Repr

namespace Scalar

/-- The words for null. -/
def isNull (text : String) : Bool :=
  ["~", "null", "Null", "NULL"].contains text

/-- The words for the booleans. -/
def bool? (text : String) : Option Bool :=
  if ["true", "True", "TRUE"].contains text then some true
  else if ["false", "False", "FALSE"].contains text then some false
  else none

/-- Removes a sign. -/
def dropSign : List Char → List Char
  | '+' :: rest => rest
  | '-' :: rest => rest
  | text => text

/-- Whether a text is two or more digits of which the first is zero, with or
without a sign.  Such a text is not a number. -/
def hasIdleZero (text : List Char) : Bool :=
  match dropSign text with
  | '0' :: d :: rest => (d :: rest).all Char.isDigit
  | _ => false

/-- The value of a digit in a base up to sixteen. -/
def digit? (base : Nat) (c : Char) : Option Nat :=
  (hexValue? c).filter (· < base)

/-- The number that digits write in a base. -/
def natural? (base : Nat) (digits : List Char) : Option Nat :=
  if digits.isEmpty then none
  else digits.foldlM (fun n c => (digit? base c).map (n * base + ·)) 0

/-- The number that a text without sign writes, with a mark of its base or in
base ten.  `whole` is the text with its sign. -/
def magnitude? (whole text : List Char) : Option Nat :=
  match text with
  | '0' :: 'x' :: digits => natural? 16 digits
  | '0' :: 'o' :: digits => natural? 8 digits
  | '0' :: 'b' :: digits => natural? 2 digits
  | digits => if hasIdleZero whole then none else natural? 10 digits

/-- The whole number that a text writes. -/
def integer? (text : List Char) : Option Int :=
  match text with
  | '-' :: rest => (magnitude? text rest).map fun n => -(n : Int)
  | '+' :: rest => (magnitude? text rest).map fun n => (n : Int)
  | rest => (magnitude? text rest).map fun n => (n : Int)

/-- A whole number as a value: kept, refused, or too long even to refuse. -/
def number? (n : Int) : Option (Except Unreadable Value) :=
  if -Int.pow 2 63 ≤ n ∧ n < Int.pow 2 64 then some (.ok (.number (.int n)))
  else if -Int.pow 2 127 ≤ n ∧ n < Int.pow 2 128 then some (.error (.tooWide n))
  else none

/-- The power of ten that a text writes after `e`.  No text is no power. -/
def power? : List Char → Option Int
  | [] => some 0
  | e :: text =>
    if e = 'e' ∨ e = 'E' then
      match text with
      | '-' :: digits => (natural? 10 digits).map fun n => -(n : Int)
      | '+' :: digits => (natural? 10 digits).map fun n => (n : Int)
      | digits => (natural? 10 digits).map fun n => (n : Int)
    else none

/-- The number in double precision that decimal digits write, with a point and
a power of ten or without, and with a digit before the power. -/
def decimal? (negative : Bool) (text : List Char) : Option Binary64 :=
  let whole := text.takeWhile Char.isDigit
  let rest := text.dropWhile Char.isDigit
  let (places, rest) :=
    match rest with
    | '.' :: rest => (rest.takeWhile Char.isDigit, rest.dropWhile Char.isDigit)
    | rest => ([], rest)
  if whole.isEmpty && places.isEmpty then none
  else do
    let digits ← natural? 10 (whole ++ places)
    let power ← power? rest
    some (Binary64.ofDecimal negative digits (power - places.length))

/-- The number in double precision that a text writes.  A number beyond the
range of double precision is none; infinity is written out. -/
def float? (text : List Char) : Option Binary64 :=
  let word := String.ofList text
  if [".inf", ".Inf", ".INF", "+.inf", "+.Inf", "+.INF"].contains word then some (.infinite false)
  else if ["-.inf", "-.Inf", "-.INF"].contains word then some (.infinite true)
  else if [".nan", ".NaN", ".NAN"].contains word then some .nan
  else
    let read :=
      match text with
      | '-' :: digits => decimal? true digits
      | '+' :: digits => decimal? false digits
      | digits => decimal? false digits
    read.filter Binary64.isFinite

/-- What a plain scalar without a tag means. -/
def plain (text : String) : Except Unreadable Value :=
  let chars := text.toList
  if text.isEmpty || isNull text then .ok .null
  else
    match bool? text with
    | some b => .ok (.bool b)
    | none =>
      match (integer? chars).bind number? with
      | some read => read
      | none =>
        if hasIdleZero chars then .ok (.string text)
        else
          match float? chars with
          | some x => .ok (.number (.float x))
          | none => .ok (.string text)

/-- What a scalar under a tag that demands a kind means. -/
def demanded (kind : ScalarKind) (text : String) : Except Unreadable Value :=
  let read : Option (Except Unreadable Value) :=
    match kind with
    | .bool => (bool? text).map fun b => .ok (.bool b)
    | .int => (integer? text.toList).bind number?
    | .float => (float? text.toList).map fun x => .ok (.number (.float x))
    | .null => if isNull text then some (.ok .null) else none
  read.getD (.error (.notA kind text))

/-- What a scalar means under a tag.  The tag that gives a value a name of the
document's own is not looked at here. -/
def value (tag : Option Tag) (text : String) (isPlain : Bool) : Except Unreadable Value :=
  match tag with
  | some .bool => demanded .bool text
  | some .int => demanded .int text
  | some .float => demanded .float text
  | some .null => demanded .null text
  | some .other => .ok (.string text)
  | some (.named _) | none => if isPlain then plain text else .ok (.string text)

end Scalar

end AdventureTables.Yaml
