import AdventureTables.Decimal.Binary64
/-!
# YAML values

What a document says once aliases are copied and scalars are read: null,
booleans, numbers, text, sequences, mappings with keys of any kind in the order
they are written, and values under a tag.

* `Value.untagged` removes the tags from the values of a document, but not
  from its keys: a tag in a key is part of the key;
* `Value.content` looks through the tags of one value;
* `Value.holdsTag` tells whether a tag is left anywhere;
* `Value.same` tells whether two values are one key.
-/

namespace AdventureTables.Yaml

/-- A number, whole or in double precision. -/
inductive Number where
  | int (n : Int)
  | float (x : Binary64)
  deriving DecidableEq, Repr

/-- A YAML value. -/
inductive Value where
  | null
  | bool (b : Bool)
  | number (n : Number)
  | string (s : String)
  | seq (items : List Value)
  | map (pairs : List (Value × Value))
  | tagged (tag : String) (value : Value)
  deriving Repr, Inhabited

/-- Whether two numbers are one key.  A whole number is none in double
precision. -/
def Number.same : Number → Number → Bool
  | .int m, .int n => m = n
  | .float x, .float y => x.same y
  | _, _ => false

/-- A tag without the `!` it may be written with. -/
def bareTag (tag : String) : String :=
  match tag.toList with
  | '!' :: c :: rest => String.ofList (c :: rest)
  | _ => tag

namespace Value

/-- The value under the tags of a value. -/
def content : Value → Value
  | tagged _ v => v.content
  | v => v

mutual

/-- A value without tags, except in keys. -/
def untagged : Value → Value
  | .tagged _ v => v.untagged
  | .seq items => .seq (untaggedItems items)
  | .map pairs => .map (untaggedPairs pairs)
  | v => v

/-- The items of a sequence without tags. -/
def untaggedItems : List Value → List Value
  | [] => []
  | v :: rest => v.untagged :: untaggedItems rest

/-- The pairs of a mapping without tags in the values. -/
def untaggedPairs : List (Value × Value) → List (Value × Value)
  | [] => []
  | (k, v) :: rest => (k, v.untagged) :: untaggedPairs rest

end

mutual

/-- Whether there is a tag anywhere in a value, keys included. -/
def holdsTag : Value → Bool
  | .tagged _ _ => true
  | .seq items => anyHoldsTag items
  | .map pairs => anyPairHoldsTag pairs
  | _ => false

/-- Whether there is a tag in one of some values. -/
def anyHoldsTag : List Value → Bool
  | [] => false
  | v :: rest => v.holdsTag || anyHoldsTag rest

/-- Whether there is a tag in a key or a value of some pairs. -/
def anyPairHoldsTag : List (Value × Value) → Bool
  | [] => false
  | (k, v) :: rest => k.holdsTag || v.holdsTag || anyPairHoldsTag rest

end

mutual

/-- Whether two values are one key.  The order of a mapping's pairs does not
matter, nor does a `!` that a tag is written with. -/
def same : Value → Value → Bool
  | .null, .null => true
  | .bool a, .bool b => a = b
  | .number a, .number b => a.same b
  | .string a, .string b => a = b
  | .seq a, .seq b => sameItems a b
  | .map a, .map b => a.length = b.length && samePairs a b
  | .tagged s a, .tagged t b => bareTag s = bareTag t && a.same b
  | _, _ => false

/-- Whether two sequences agree item by item. -/
def sameItems : List Value → List Value → Bool
  | [], [] => true
  | a :: as, b :: bs => a.same b && sameItems as bs
  | _, _ => false

/-- Whether each of some pairs is one of the others. -/
def samePairs : List (Value × Value) → List (Value × Value) → Bool
  | [], _ => true
  | (k, v) :: rest, others =>
    others.any (fun p => k.same p.1 && v.same p.2) && samePairs rest others

end

end Value

end AdventureTables.Yaml
