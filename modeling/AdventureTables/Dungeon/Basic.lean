/-!
# The dungeon

What the game tables are made of: three tables of messages, the locations, the
descriptions of the objects, and the obituaries.  All but the obituaries are
tables of entries with an identifier each; an identifier becomes a constant of
the generated code, and the place of the entry its number.

An entry may lack a value, and a value any of its texts: a description may
leave out what the game never shows.
-/

namespace AdventureTables

/-- An entry of a table. -/
structure Entry (α : Type) where
  id : String
  value : Option α
  deriving DecidableEq, Repr, Inhabited

/-- The short and the long text of a location. -/
structure Description where
  short : Option String
  long : Option String
  deriving DecidableEq, Repr, Inhabited

/-- A location. -/
structure Location where
  description : Option Description
  deriving DecidableEq, Repr, Inhabited

/-- An object: its text in the inventory, and one text for each of its states. -/
structure ObjectDescription where
  inventory : Option String
  longs : Option (List String)
  deriving DecidableEq, Repr, Inhabited

/-- What is asked after a death, and what is said if the player goes on. -/
structure Obituary where
  query : String
  yesResponse : String
  deriving DecidableEq, Repr, Inhabited

/-- A dungeon. -/
structure Dungeon where
  arbitraryMessages : List (Entry String)
  classMessages : List (Entry String)
  turnThresholdMessages : List (Entry String)
  locations : List (Entry Location)
  objectDescriptions : List (Entry ObjectDescription)
  obituaries : List Obituary
  deriving DecidableEq, Repr, Inhabited

/-- The identifiers of a table. -/
def ids {α : Type} (entries : List (Entry α)) : List String :=
  entries.map Entry.id

/-- The text of a message. -/
def Entry.text (entry : Entry String) : Option String :=
  entry.value

/-- The description of a location, if there is one. -/
def Entry.description? (entry : Entry Location) : Option Description :=
  entry.value.bind Location.description

/-- The short text of a location. -/
def Entry.short (entry : Entry Location) : Option String :=
  entry.description?.bind Description.short

/-- The long text of a location. -/
def Entry.long (entry : Entry Location) : Option String :=
  entry.description?.bind Description.long

/-- The text of an object in the inventory. -/
def Entry.inventory (entry : Entry ObjectDescription) : Option String :=
  entry.value.bind ObjectDescription.inventory

/-- The texts of the states of an object; none at all is as good as no list. -/
def Entry.longs (entry : Entry ObjectDescription) : List String :=
  (entry.value.bind ObjectDescription.longs).getD []

/-- The number of classes that a player can reach. -/
def Dungeon.classCount (dungeon : Dungeon) : Nat :=
  dungeon.classMessages.length

/-- The number of deaths that a player can die. -/
def Dungeon.maximumDeaths (dungeon : Dungeon) : Nat :=
  dungeon.obituaries.length

end AdventureTables
