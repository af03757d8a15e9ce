import AdventureTables.Dungeon.Reading
import AdventureTables.Yaml.Document
/-!
# Dungeon descriptions

A dungeon is described by a YAML text.  The text may be at fault itself, or
the document in it may not describe a dungeon.
-/

namespace AdventureTables

/-- What is wrong with a dungeon description. -/
inductive DescriptionFault where
  | yaml (fault : Yaml.Fault)
  | shape (mismatch : Mismatch)
  deriving Repr

/-- The wording for a fault of a description. -/
def DescriptionFault.message : DescriptionFault → String
  | .yaml fault => fault.message
  | .shape mismatch => mismatch.message

/-- The dungeon that a text describes. -/
def Dungeon.parse (text : String) : Except DescriptionFault Dungeon := do
  let value ← (Yaml.read text).mapError .yaml
  (Dungeon.ofValue value).mapError .shape

end AdventureTables
