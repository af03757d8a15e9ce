import AdventureTables.Dungeon.Basic
import AdventureTables.Dungeon.Mismatch
/-!
# Reading a dungeon from the value of a document

A document is read on three levels of strictness.

The document itself and the obituaries are *strict*: a field has a known name,
may be given once and must be given, and its value must have the right shape;
names that are not known are passed over with their values.  The fault that
comes first in the document is reported (`firstFault`), and only a document
without one is asked for missing fields, in the order of the declaration.

The tables of entries are strict about their entries: a sequence of mappings
with one key each.  All of them are read before the first one with another
number of keys is reported.

The value of an entry is *lenient*: whatever has the wrong shape is absent, by
itself and without touching what is around it.  Only a tag in it is refused.

Null stands for an empty mapping or an empty table, except in the value of an
entry, where it is absent like anything else of the wrong shape.
-/

namespace AdventureTables

open Yaml (Value)

/-- The text of a key, its tags aside. -/
def keyText? (key : Value) : Option String :=
  match key.content with
  | .string text => some text
  | _ => none

/-! ## Lenient values -/

/-- A text. -/
def text? : Value → Option String
  | .string text => some text
  | _ => none

/-- A list of texts. -/
def texts? : Value → Option (List String)
  | .seq items => items.mapM text?
  | _ => none

/-- The field that a key of a record means: one of the names, by name or by
number, or none of them.  Keys of other kinds are not allowed. -/
def fieldOf? (names : List String) : Value → Option (Option Nat)
  | .string name => some (names.idxOf? name)
  | .number (.int n) =>
    if n < 0 then none
    else if n.toNat < names.length then some (some n.toNat)
    else some none
  | _ => none

/-- The values of the fields of a record by their numbers.  A record is a
mapping that gives no field twice, or a sequence of the fields from the first
one on. -/
def recordFields? (names : List String) : Value → Option (List (Nat × Value))
  | .seq items =>
    if items.length ≤ names.length then some (items.zipIdx.map Prod.swap) else none
  | .map pairs => do
    let fields ← pairs.mapM fun (key, value) => (fieldOf? names key).map (·, value)
    let known := fields.filterMap fun (field, value) => field.map (·, value)
    if (known.map Prod.fst).Nodup then some known else none
  | _ => none

/-- The texts of a location. -/
def Description.ofValue? (value : Value) : Option Description := do
  let fields ← recordFields? ["short", "long"] value
  some { short := (fields.lookup 0).bind text?, long := (fields.lookup 1).bind text? }

/-- A location. -/
def Location.ofValue? (value : Value) : Option Location := do
  let fields ← recordFields? ["description"] value
  some { description := (fields.lookup 0).bind Description.ofValue? }

/-- An object. -/
def ObjectDescription.ofValue? (value : Value) : Option ObjectDescription := do
  let fields ← recordFields? ["inventory", "longs"] value
  some { inventory := (fields.lookup 0).bind text?, longs := (fields.lookup 1).bind texts? }

/-! ## Tables of entries -/

/-- A key of an entry and its value, which may be absent but may hold no tag. -/
def readPair {α : Type} (value? : Value → Option α) (pair : Value × Value) :
    Except Mismatch (String × Option α) :=
  match keyText? pair.1 with
  | none => .error (.shape (.of pair.1) .text)
  | some id => if pair.2.holdsTag then .error .strayTag else .ok (id, value? pair.2)

/-- The keys of an entry with their values. -/
def readItem {α : Type} (value? : Value → Option α) :
    Value → Except Mismatch (List (String × Option α))
  | .null => .ok []
  | .map pairs => pairs.mapM (readPair value?)
  | other => .error (.shape (.of other) .mapping)

/-- The number of different keys of an entry. -/
def keyCount {α : Type} (pairs : List (String × Option α)) : Nat :=
  (pairs.map Prod.fst).eraseDups.length

/-- The entry that some keys and values make.  If the one key is repeated, its
last value counts. -/
def singleEntry {α : Type} (pairs : List (String × Option α)) (index : Nat) :
    Except Mismatch (Entry α) :=
  match pairs.getLast? with
  | none => .error (.keyCount index 0)
  | some (id, value) =>
    if keyCount pairs = 1 then .ok ⟨id, value⟩ else .error (.keyCount index (keyCount pairs))

/-- A table of entries. -/
def readEntries {α : Type} (value? : Value → Option α) :
    Value → Except Mismatch (List (Entry α))
  | .null => .ok []
  | .seq items => do
    let read ← items.mapM (readItem value?)
    read.zipIdx.mapM fun (pairs, index) => singleEntry pairs index
  | other => .error (.shape (.of other) .sequence)

/-! ## Strict records -/

/-- Why something was refused, if it was. -/
def fault? {α : Type} : Except Mismatch α → Option Mismatch
  | .error mismatch => some mismatch
  | .ok _ => none

/-- The first fault of a record whose fields are checked by `checks`: a key
that is no text, a field given before, which is `seen`, or a value that its
field refuses. -/
def firstFault (checks : List (String × (Value → Option Mismatch))) (seen : List String) :
    List (Value × Value) → Option Mismatch
  | [] => none
  | (key, value) :: rest =>
    match keyText? key with
    | none => some (.shape (.of key) .fieldName)
    | some name =>
      match checks.lookup name with
      | none => firstFault checks seen rest
      | some check =>
        if seen.contains name then some (.repeated name)
        else
          match check value with
          | some mismatch => some mismatch
          | none => firstFault checks (name :: seen) rest

/-- The value of a field, or the news that it is missing. -/
def field (name : String) (pairs : List (Value × Value)) : Except Mismatch Value :=
  match pairs.find? fun pair => keyText? pair.1 = some name with
  | some pair => .ok pair.2
  | none => .error (.missing name)

/-- The pairs of a strict record, once they are found without fault. -/
def readRecord (demand : Demand) (checks : List (String × (Value → Option Mismatch)))
    (value : Value) : Except Mismatch (List (Value × Value)) :=
  match value with
  | .null => .ok []
  | .map pairs =>
    match firstFault checks [] pairs with
    | some mismatch => .error mismatch
    | none => .ok pairs
  | other => .error (.shape (.of other) demand)

/-- A text that has to be one. -/
def readText (value : Value) : Except Mismatch String :=
  match text? value with
  | some text => .ok text
  | none => .error (.shape (.of value) .text)

/-- How the fields of an obituary are checked. -/
def Obituary.checks : List (String × (Value → Option Mismatch)) :=
  [("query", fun v => fault? (readText v)), ("yes_response", fun v => fault? (readText v))]

/-- An obituary. -/
def Obituary.ofValue (value : Value) : Except Mismatch Obituary := do
  let pairs ← readRecord .obituary Obituary.checks value
  let query ← readText (← field "query" pairs)
  let yesResponse ← readText (← field "yes_response" pairs)
  return ⟨query, yesResponse⟩

/-- The obituaries. -/
def readObituaries : Value → Except Mismatch (List Obituary)
  | .null => .ok []
  | .seq items => items.mapM Obituary.ofValue
  | other => .error (.shape (.of other) .sequence)

/-- A table of messages. -/
def readMessages (value : Value) : Except Mismatch (List (Entry String)) :=
  readEntries text? value

/-- The locations. -/
def readLocations (value : Value) : Except Mismatch (List (Entry Location)) :=
  readEntries Location.ofValue? value

/-- The descriptions of the objects. -/
def readObjects (value : Value) : Except Mismatch (List (Entry ObjectDescription)) :=
  readEntries ObjectDescription.ofValue? value

/-- How the fields of a dungeon are checked, in the order of the declaration. -/
def Dungeon.checks : List (String × (Value → Option Mismatch)) :=
  [("arbitrary_messages", fun v => fault? (readMessages v)),
    ("class_messages", fun v => fault? (readMessages v)),
    ("turn_threshold_messages", fun v => fault? (readMessages v)),
    ("locations", fun v => fault? (readLocations v)),
    ("object_descriptions", fun v => fault? (readObjects v)),
    ("obituaries", fun v => fault? (readObituaries v))]

/-- A dungeon, from a value without tags. -/
def Dungeon.ofUntagged (value : Value) : Except Mismatch Dungeon := do
  let pairs ← readRecord .dungeon Dungeon.checks value
  let arbitraryMessages ← readMessages (← field "arbitrary_messages" pairs)
  let classMessages ← readMessages (← field "class_messages" pairs)
  let turnThresholdMessages ← readMessages (← field "turn_threshold_messages" pairs)
  let locations ← readLocations (← field "locations" pairs)
  let objectDescriptions ← readObjects (← field "object_descriptions" pairs)
  let obituaries ← readObituaries (← field "obituaries" pairs)
  return ⟨arbitraryMessages, classMessages, turnThresholdMessages, locations, objectDescriptions,
    obituaries⟩

/-- A dungeon, from the value of a document. -/
def Dungeon.ofValue (value : Value) : Except Mismatch Dungeon :=
  Dungeon.ofUntagged value.untagged

end AdventureTables
