/-!
# Generated code, line by line

A generated file is a list of lines, and most of its lines belong to blocks: an
opening line, the lines of the items, each of them a line or several, and the
closing line `};`.  Enumerations and arrays are both laid out so; what tells
them apart is in the opening line and in the items.
-/

namespace AdventureTables.Code

/-- The text of some lines, each ended by a line feed. -/
def unlines (lines : List String) : String :=
  String.join (lines.map (· ++ "\n"))

/-- Lines can be written in parts. -/
theorem unlines_append (a b : List String) : unlines (a ++ b) = unlines a ++ unlines b := by
  simp [unlines, String.join_append]

/-- An enumeration or an array. -/
structure Block where
  opening : String
  items : List (List String)
  deriving DecidableEq, Repr

/-- The line that closes a block. -/
def Block.closing : String := "\x7d;"

/-- The lines of a block. -/
def Block.lines (block : Block) : List String :=
  block.opening :: (block.items.flatten ++ [Block.closing])

end AdventureTables.Code
