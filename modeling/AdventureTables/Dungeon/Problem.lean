import AdventureTables.Dungeon.Basic
/-!
# Problems with identifiers

An identifier becomes a constant of the generated code, so it should be an
identifier there too, and no two entries of a table should share one.  What
breaks these rules is reported, and generated nevertheless.
-/

namespace AdventureTables

/-- The tables whose entries have identifiers. -/
inductive Table where
  | arbitraryMessages
  | classMessages
  | turnThresholdMessages
  | locations
  | objectDescriptions
  deriving DecidableEq, Repr

/-- The tables in their order. -/
def Table.all : List Table :=
  [.arbitraryMessages, .classMessages, .turnThresholdMessages, .locations, .objectDescriptions]

/-- What an entry of a table is called. -/
def Table.entryName : Table → String
  | .arbitraryMessages => "arbitrary message"
  | .classMessages => "class message"
  | .turnThresholdMessages => "turn threshold message"
  | .locations => "location"
  | .objectDescriptions => "object description"

/-- The identifiers of a table. -/
def Table.ids (dungeon : Dungeon) : Table → List String
  | .arbitraryMessages => AdventureTables.ids dungeon.arbitraryMessages
  | .classMessages => AdventureTables.ids dungeon.classMessages
  | .turnThresholdMessages => AdventureTables.ids dungeon.turnThresholdMessages
  | .locations => AdventureTables.ids dungeon.locations
  | .objectDescriptions => AdventureTables.ids dungeon.objectDescriptions

/-- A problem with an identifier of a table. -/
inductive Problem where
  /-- An entry before it has the same identifier. -/
  | duplicate (table : Table) (id : String)
  /-- It is no identifier of C. -/
  | invalid (table : Table) (id : String)
  deriving DecidableEq, Repr

/-- The table that a problem is in. -/
def Problem.table : Problem → Table
  | .duplicate table _ => table
  | .invalid table _ => table

/-- The identifier that a problem is about. -/
def Problem.id : Problem → String
  | .duplicate _ id => id
  | .invalid _ id => id

/-- The wording of a problem. -/
def Problem.message : Problem → String
  | .duplicate table id => "duplicate " ++ table.entryName ++ " id '" ++ id ++ "'"
  | .invalid table id => table.entryName ++ " id '" ++ id ++ "' is not a valid C identifier"

/-- Whether a text is an identifier of C: ASCII letters, digits and
underscores, and no digit first. -/
def isIdentifier (text : String) : Bool :=
  match text.toList with
  | [] => false
  | c :: rest => (c.isAlpha || c = '_') && rest.all fun c => c.isAlphanum || c = '_'

/-- The problems with the identifiers of a table, `seen` being the ones before
them. -/
def problemsFrom (table : Table) (seen : List String) : List String → List Problem
  | [] => []
  | id :: rest =>
    (if isIdentifier id then [] else [.invalid table id]) ++
      (if seen.contains id then [.duplicate table id] else []) ++
      problemsFrom table (id :: seen) rest

/-- The problems with the identifiers of a dungeon, table by table. -/
def Dungeon.problems (dungeon : Dungeon) : List Problem :=
  Table.all.flatMap fun table => problemsFrom table [] (table.ids dungeon)

end AdventureTables
