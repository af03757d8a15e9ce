import AdventureTables.Decimal.Layout
import AdventureTables.Text.Quoted
import AdventureTables.Yaml.Value
/-!
# Where a document does not describe a dungeon

A value that is not of the shape its place demands, a field that is left out
or given twice, an entry with no key or several, or a tag in a place where
nothing can be made of it.  No place in the text is reported: by now the
document is only a value.
-/

namespace AdventureTables

/-- The shape that a place demands, named after what is read there. -/
inductive Demand where
  | dungeon
  | obituary
  | fieldName
  | sequence
  | mapping
  | text
  deriving DecidableEq, Repr

/-- What was found instead. -/
inductive Found where
  | null
  | bool (b : Bool)
  | int (n : Int)
  | float (x : Binary64)
  | string (s : String)
  | sequence
  | mapping
  deriving DecidableEq, Repr

/-- Why a document does not describe a dungeon. -/
inductive Mismatch where
  | shape (found : Found) (demand : Demand)
  | missing (field : String)
  | repeated (field : String)
  /-- An entry does not have exactly one key. -/
  | keyCount (index count : Nat)
  /-- The value of an entry has a tag that belongs to no value. -/
  | strayTag
  deriving DecidableEq, Repr

/-- What a value is, its tags aside. -/
def Found.of : Yaml.Value → Found
  | .null => .null
  | .bool b => .bool b
  | .number (.int n) => .int n
  | .number (.float x) => .float x
  | .string s => .string s
  | .seq _ => .sequence
  | .map _ => .mapping
  | .tagged _ v => of v

/-- The shapes as a diagnostic names them. -/
def Demand.description : Demand → String
  | .dungeon => "struct DungeonDef"
  | .obituary => "struct ObituaryDef"
  | .fieldName => "field identifier"
  | .sequence => "a sequence"
  | .mapping => "a map"
  | .text => "a string"

/-- How a number is written as a value that was found: always in full. -/
def foundLayout : Decimal.Layout where
  positional _ := true
  nan := "NaN"
  infinite := "inf"

/-- A value that was found, as a diagnostic names it. -/
def Found.description : Found → String
  | .null => "unit value"
  | .bool b => s!"boolean `{b}`"
  | .int n => s!"integer `{n}`"
  | .float x => "floating point `" ++ foundLayout.write x ++ "`"
  | .string s => "string " ++ Text.quoted s
  | .sequence => "sequence"
  | .mapping => "map"

/-- The wording for a document that does not describe a dungeon. -/
def Mismatch.message : Mismatch → String
  | .shape found demand =>
    "invalid type: " ++ found.description ++ ", expected " ++ demand.description
  | .missing field => s!"missing field `{field}`"
  | .repeated field => s!"duplicate field `{field}`"
  | .keyCount index count =>
    s!"entry {index}: expected a single `ID: value` mapping, found {count} keys"
  | .strayTag => "untagged and internally tagged enums do not support enum input"

end AdventureTables
