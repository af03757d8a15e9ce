import AdventureTables.Code.Block
import AdventureTables.Code.Literal
import AdventureTables.Dungeon.Basic
/-!
# The tables of a dungeon in C

A dungeon becomes a header and a source file.  The header declares the types,
an enumeration for each table of entries and the arrays; the source file
includes the header and defines the arrays and two counts.

Enumerations and arrays follow the order of the entries, so the constant of an
entry is the index of its initialiser.  What is absent becomes the null
pointer.
-/

namespace AdventureTables.Code

/-- The two generated files. -/
structure Tables where
  header : String
  source : String
  deriving DecidableEq, Repr

/-- The names of the three tables of messages, in their order. -/
def messageTables : List String :=
  ["arbitrary_messages", "class_messages", "turn_threshold_messages"]

/-- The three tables of messages with their names. -/
def messages (dungeon : Dungeon) : List (String × List (Entry String)) :=
  messageTables.zip
    [dungeon.arbitraryMessages, dungeon.classMessages, dungeon.turnThresholdMessages]

/-! ## The header -/

/-- The declarations of the types. -/
def typeLines : List String :=
  ["#include <stdio.h>",
    "",
    "typedef struct \x7b",
    "  const char* inventory;",
    "  const char** longs;",
    "\x7d object_description_t;",
    "",
    "typedef struct \x7b",
    "  const char* small;",
    "  const char* big;",
    "\x7d descriptions_t;",
    "",
    "typedef struct \x7b",
    "  descriptions_t description;",
    "\x7d location_t;",
    "",
    "typedef struct \x7b",
    "  const char* query;",
    "  const char* yes_response;",
    "\x7d obituary_t;",
    ""]

/-- The declarations of what the source file defines. -/
def externLines : List String :=
  ["extern location_t locations[];",
    "extern object_description_t object_descriptions[];",
    "extern const char* arbitrary_messages[];",
    "extern const char* class_messages[];",
    "extern const char* turn_threshold_messages[];",
    "extern obituary_t obituaries[];",
    "",
    "extern size_t CLSSES;",
    "extern int maximum_deaths;"]

/-- The line of a constant. -/
def constantLine (id : String) : String :=
  "  " ++ id ++ ","

/-- The enumeration of a table of entries. -/
def enumBlock {α : Type} (name : String) (entries : List (Entry α)) : Block where
  opening := "enum " ++ name ++ "_refs \x7b"
  items := entries.map fun entry => [constantLine entry.id]

/-- The enumerations of a dungeon. -/
def enumBlocks (dungeon : Dungeon) : List Block :=
  (messages dungeon).map (fun (name, entries) => enumBlock name entries) ++
    [enumBlock "locations" dungeon.locations,
      enumBlock "object_descriptions" dungeon.objectDescriptions]

/-- The lines of the header. -/
def headerLines (dungeon : Dungeon) : List String :=
  typeLines ++ (enumBlocks dungeon).flatMap (fun block => block.lines ++ [""]) ++ externLines

/-! ## The source file -/

/-- The initialiser of a message. -/
def messageLines (entry : Entry String) : List String :=
  ["  " ++ literalOrNull entry.text ++ ","]

/-- The initialiser of a location. -/
def locationLines (entry : Entry Location) : List String :=
  ["  \x7b",
    "    .description = \x7b",
    "      .small = " ++ literalOrNull entry.short ++ ",",
    "      .big = " ++ literalOrNull entry.long ++ ",",
    "    \x7d,",
    "  \x7d,"]

/-- The array of an object's texts. -/
def longsLines (longs : List String) : List String :=
  if longs.isEmpty then ["    .longs = " ++ null ++ ","]
  else
    "    .longs = (const char* []) \x7b" ::
      (longs.map (fun long => "      " ++ literal long ++ ",") ++ ["    \x7d,"])

/-- The initialiser of an object. -/
def objectLines (entry : Entry ObjectDescription) : List String :=
  "  \x7b" :: ("    .inventory = " ++ literalOrNull entry.inventory ++ ",") ::
    (longsLines entry.longs ++ ["  \x7d,"])

/-- The initialiser of an obituary. -/
def obituaryLines (obituary : Obituary) : List String :=
  ["  \x7b",
    "    .query = " ++ literal obituary.query ++ ",",
    "    .yes_response = " ++ literal obituary.yesResponse ++ ",",
    "  \x7d,"]

/-- The array of a table of messages. -/
def messageBlock (name : String) (entries : List (Entry String)) : Block where
  opening := "const char* " ++ name ++ "[] = \x7b"
  items := entries.map messageLines

/-- The array of the locations. -/
def locationBlock (locations : List (Entry Location)) : Block where
  opening := "location_t locations[] = \x7b"
  items := locations.map locationLines

/-- The array of the objects. -/
def objectBlock (objects : List (Entry ObjectDescription)) : Block where
  opening := "object_description_t object_descriptions[] = \x7b"
  items := objects.map objectLines

/-- The array of the obituaries. -/
def obituaryBlock (obituaries : List Obituary) : Block where
  opening := "obituary_t obituaries[] = \x7b"
  items := obituaries.map obituaryLines

/-- The arrays of a dungeon. -/
def arrayBlocks (dungeon : Dungeon) : List Block :=
  (messages dungeon).map (fun (name, entries) => messageBlock name entries) ++
    [locationBlock dungeon.locations,
      objectBlock dungeon.objectDescriptions,
      obituaryBlock dungeon.obituaries]

/-- The line that includes the header. -/
def includeLine (headerName : String) : String :=
  "#include \"" ++ headerName ++ "\""

/-- The line that defines the number of classes. -/
def classCountLine (count : Nat) : String :=
  "size_t CLSSES = " ++ toString count ++ ";"

/-- The line that defines the number of deaths. -/
def maximumDeathsLine (count : Nat) : String :=
  "int maximum_deaths = " ++ toString count ++ ";"

/-- The lines of the source file. -/
def sourceLines (dungeon : Dungeon) (headerName : String) : List String :=
  [includeLine headerName, ""] ++
    (arrayBlocks dungeon).flatMap (fun block => block.lines ++ [""]) ++
    [classCountLine dungeon.classCount, "", maximumDeathsLine dungeon.maximumDeaths]

/-- The tables of a dungeon.  The source file includes the header by the given
name. -/
def tables (dungeon : Dungeon) (headerName : String) : Tables where
  header := unlines (headerLines dungeon)
  source := unlines (sourceLines dungeon headerName)

end AdventureTables.Code
