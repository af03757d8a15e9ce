import AdventureTables.Proofs.Code.Reader
/-!
# Constants and initialisers line up

The constant of an entry is the index of its initialiser, because the
enumeration and the array of a table are written from the same entries in the
same order.  This is said here of what a reader finds in the two texts: for
each table one enumeration and one array, which he cuts into constants and
initialisers, as many as there are entries, and those at the same place belong
to one entry.  No text of a dungeon can add a line that the reader would take
for the beginning or the end of something, since all lines with texts in them
are indented and no literal holds a line feed.
-/

namespace AdventureTables

open Code

/-! ## What the reader looks for -/

/-- The name of a table in the generated code. -/
def Table.name : Table → String
  | .arbitraryMessages => "arbitrary_messages"
  | .classMessages => "class_messages"
  | .turnThresholdMessages => "turn_threshold_messages"
  | .locations => "locations"
  | .objectDescriptions => "object_descriptions"

/-- The type of the entries of a table in the generated code. -/
def Table.itemType : Table → String
  | .locations => "location_t"
  | .objectDescriptions => "object_description_t"
  | _ => "const char*"

/-- The line that opens the enumeration of a table. -/
def Table.enumOpening (table : Table) : String :=
  "enum " ++ table.name ++ "_refs \x7b"

/-- The line that opens the array of a table. -/
def Table.arrayOpening (table : Table) : String :=
  table.itemType ++ " " ++ table.name ++ "[] = \x7b"

def obituaryOpening : String :=
  "obituary_t obituaries[] = \x7b"

/-- Cuts the body of the array of a table into initialisers: those of messages
are one line each, the others are records. -/
def Table.initialisers? (body : List String) : Table → Option (List (List String))
  | .locations | .objectDescriptions => records none body
  | _ => some (body.map fun line => [line])

/-- The initialisers that a reader finds in the array of a table. -/
def Table.readInitialisers? (table : Table) (source : String) : Option (List (List String)) :=
  (bodyOf? table.arrayOpening (linesOf source)).bind fun body => table.initialisers? body

/-- The constants that a reader finds in the enumeration of a table, one for
each line. -/
def Table.readConstants? (table : Table) (header : String) : Option (List String) :=
  bodyOf? table.enumOpening (linesOf header)

def readObituaryInitialisers? (source : String) : Option (List (List String)) :=
  (bodyOf? obituaryOpening (linesOf source)).bind (records none)

/-- Whether a line begins with some characters. -/
def begins (lead line : String) : Bool :=
  lead.toList.isPrefixOf line.toList

/-- The lines of a text that begin with some characters. -/
def linesWith (lead : String) (text : String) : List String :=
  (linesOf text).filter (begins lead)

/-! ## What he has to find -/

/-- The initialiser of a message. -/
def messageRendering (text : Option String) : List String :=
  ["  " ++ literalOrNull text ++ ","]

/-- The initialiser of a location. -/
def locationRendering (short long : Option String) : List String :=
  ["  \x7b",
    "    .description = \x7b",
    "      .small = " ++ literalOrNull short ++ ",",
    "      .big = " ++ literalOrNull long ++ ",",
    "    \x7d,",
    "  \x7d,"]

/-- The initialiser of an object: one line for each of its texts, if it has
any. -/
def objectRendering (inventory : Option String) : List String → List String
  | [] =>
    ["  \x7b",
      "    .inventory = " ++ literalOrNull inventory ++ ",",
      "    .longs = " ++ null ++ ",",
      "  \x7d,"]
  | longs =>
    ["  \x7b",
      "    .inventory = " ++ literalOrNull inventory ++ ",",
      "    .longs = (const char* []) \x7b"] ++
    longs.map (fun long => "      " ++ literal long ++ ",") ++
    ["    \x7d,",
      "  \x7d,"]

/-- The initialiser of an obituary. -/
def obituaryRendering (query yesResponse : String) : List String :=
  ["  \x7b",
    "    .query = " ++ literal query ++ ",",
    "    .yes_response = " ++ literal yesResponse ++ ",",
    "  \x7d,"]

/-- The entries of a table, each with its identifier and its initialiser. -/
def Table.written (dungeon : Dungeon) : Table → List (String × List String)
  | .arbitraryMessages =>
    dungeon.arbitraryMessages.map fun entry => (entry.id, messageRendering entry.text)
  | .classMessages =>
    dungeon.classMessages.map fun entry => (entry.id, messageRendering entry.text)
  | .turnThresholdMessages =>
    dungeon.turnThresholdMessages.map fun entry => (entry.id, messageRendering entry.text)
  | .locations =>
    dungeon.locations.map fun entry => (entry.id, locationRendering entry.short entry.long)
  | .objectDescriptions =>
    dungeon.objectDescriptions.map fun entry =>
      (entry.id, objectRendering entry.inventory entry.longs)

/-- An object is laid out so, with texts or without. -/
theorem objectLines_eq (entry : Entry ObjectDescription) :
    objectLines entry = objectRendering entry.inventory entry.longs := by
  rw [objectLines, longsLines]
  cases entry.longs with
  | nil => rfl
  | cons long longs => simp [objectRendering]

/-! ## The blocks of a table -/

variable {dungeon : Dungeon} {table : Table}

def Table.enumBlock (dungeon : Dungeon) (table : Table) : Block where
  opening := table.enumOpening
  items := (table.written dungeon).map fun entry => [constantLine entry.1]

def Table.arrayBlock (dungeon : Dungeon) (table : Table) : Block where
  opening := table.arrayOpening
  items := (table.written dungeon).map Prod.snd

theorem enumBlocks_eq (dungeon : Dungeon) :
    enumBlocks dungeon = Table.all.map (Table.enumBlock dungeon) := by
  simp [enumBlocks, messages, messageTables, Table.all, Table.enumBlock, Code.enumBlock,
    Table.enumOpening, Table.name, Table.written, Function.comp_def]

/-- The source file has the arrays of the tables, and the one of the
obituaries. -/
theorem arrayBlocks_eq (dungeon : Dungeon) :
    arrayBlocks dungeon =
      Table.all.map (Table.arrayBlock dungeon) ++ [obituaryBlock dungeon.obituaries] := by
  simp [arrayBlocks, messages, messageTables, Table.all, Table.arrayBlock, messageBlock,
    locationBlock, objectBlock, Table.arrayOpening, Table.itemType, Table.name, Table.written,
    messageLines, messageRendering, locationLines, locationRendering, objectLines_eq,
    Function.comp_def]

theorem indented_enumBlock : ∀ line ∈ (table.enumBlock dungeon).items.flatten, Indented line := by
  intro line hmem
  obtain ⟨item, hitem, hline⟩ := List.mem_flatten.mp hmem
  obtain ⟨entry, -, rfl⟩ := List.mem_map.mp hitem
  exact indented_constantLine entry.1 line hline

theorem indented_arrayBlock : ∀ line ∈ (table.arrayBlock dungeon).items.flatten, Indented line := by
  intro line hmem
  obtain ⟨item, hitem, hline⟩ := List.mem_flatten.mp hmem
  obtain ⟨entry, hentry, rfl⟩ := List.mem_map.mp hitem
  cases table <;> obtain ⟨written, -, rfl⟩ := List.mem_map.mp hentry
  · exact indented_messageLines written line hline
  · exact indented_messageLines written line hline
  · exact indented_messageLines written line hline
  · exact indented_locationLines written line hline
  · exact indented_objectLines written line (objectLines_eq written ▸ hline)

/-! ## The two files -/

/-- The line that opens the enumeration of a table occurs nowhere around the
enumerations. -/
theorem enumOpening_fresh (table : Table) :
    table.enumOpening ≠ "" ∧ table.enumOpening ≠ Block.closing ∧
      table.enumOpening ∉ typeLines ∧ table.enumOpening ∉ externLines ++ [""] := by
  cases table <;> decide

theorem header_findable (dungeon : Dungeon) :
    Findable typeLines (enumBlocks dungeon) (externLines ++ [""]) := by
  have hforall : ∀ {P : Block → Prop}, (∀ table, P (Table.enumBlock dungeon table)) →
      ∀ block ∈ enumBlocks dungeon, P block := by
    intro P h block hmem
    rw [enumBlocks_eq] at hmem
    obtain ⟨table, -, rfl⟩ := List.mem_map.mp hmem
    exact h table
  constructor
  · exact hforall fun table => indented_enumBlock
  · exact hforall fun table => by simp [Table.enumBlock, Table.enumOpening, Indented]
  · exact hforall fun table =>
      ⟨(enumOpening_fresh table).1, (enumOpening_fresh table).2.1⟩
  · have hopenings : (enumBlocks dungeon).map Block.opening = Table.all.map Table.enumOpening := by
      rw [enumBlocks_eq, List.map_map]
      rfl
    rw [hopenings]
    decide
  · exact hforall fun table => (enumOpening_fresh table).2.2.1
  · exact hforall fun table => (enumOpening_fresh table).2.2.2

/-- The lines that open arrays. -/
def arrayOpenings : List String :=
  Table.all.map Table.arrayOpening ++ [obituaryOpening]

theorem opening_arrayBlocks (dungeon : Dungeon) :
    (arrayBlocks dungeon).map Block.opening = arrayOpenings := by
  rw [arrayBlocks_eq, List.map_append, List.map_map]
  rfl

/-- They are told from the other lines by their first characters. -/
theorem head?_arrayOpening {opening : String} (h : opening ∈ arrayOpenings) :
    opening.toList.head? ∈ [some 'c', some 'l', some 'o'] := by
  revert opening
  decide

theorem ne_of_head? {opening line : String} (hopening : opening ∈ arrayOpenings)
    (hline : line.toList.head? ∉ [some 'c', some 'l', some 'o']) : opening ≠ line := by
  rintro rfl
  exact hline (head?_arrayOpening hopening)

theorem head?_classCountLine (count : Nat) :
    (classCountLine count).toList.head? = some 's' := by
  change ("size_t CLSSES = " ++ toString count ++ ";").toList.head? = some 's'
  simp

theorem head?_maximumDeathsLine (count : Nat) :
    (maximumDeathsLine count).toList.head? = some 'i' := by
  change ("int maximum_deaths = " ++ toString count ++ ";").toList.head? = some 'i'
  simp

theorem source_findable (dungeon : Dungeon) (headerName : String) :
    Findable [includeLine headerName, ""] (arrayBlocks dungeon)
      [classCountLine dungeon.classCount, "", maximumDeathsLine dungeon.maximumDeaths, ""] := by
  have hopening : ∀ block ∈ arrayBlocks dungeon, block.opening ∈ arrayOpenings := by
    intro block hmem
    rw [← opening_arrayBlocks dungeon]
    exact List.mem_map_of_mem hmem
  have hempty : ∀ block ∈ arrayBlocks dungeon, block.opening ≠ "" := fun block hmem =>
    ne_of_head? (hopening block hmem) (by simp)
  constructor
  · intro block hmem
    rw [arrayBlocks_eq] at hmem
    rcases List.mem_append.mp hmem with hmem | hmem
    · obtain ⟨table, -, rfl⟩ := List.mem_map.mp hmem
      exact indented_arrayBlock
    · obtain rfl := List.mem_singleton.mp hmem
      intro line hline
      obtain ⟨item, hitem, hline⟩ := List.mem_flatten.mp hline
      obtain ⟨obituary, -, rfl⟩ := List.mem_map.mp hitem
      exact indented_obituaryLines obituary line hline
  · intro block hmem hindented
    have hblock := head?_arrayOpening (hopening block hmem)
    rw [hindented] at hblock
    simp at hblock
  · intro block hmem
    exact ⟨hempty block hmem, ne_of_head? (hopening block hmem) (by simp [Block.closing])⟩
  · rw [opening_arrayBlocks]
    decide +kernel
  · intro block hmem
    have hinclude : block.opening ≠ includeLine headerName :=
      ne_of_head? (hopening block hmem) (by simp [includeLine])
    simp [hinclude, hempty block hmem]
  · intro block hmem
    have hclasses : block.opening ≠ classCountLine dungeon.classCount :=
      ne_of_head? (hopening block hmem) (by rw [head?_classCountLine]; decide)
    have hdeaths : block.opening ≠ maximumDeathsLine dungeon.maximumDeaths :=
      ne_of_head? (hopening block hmem) (by rw [head?_maximumDeathsLine]; decide)
    simp [hclasses, hdeaths, hempty block hmem]

/-! ## Initialisers -/

theorem recordClosing_notMem {fields : List String}
    (h : ∀ line ∈ fields, line.toList.take 3 = [' ', ' ', ' ']) : recordClosing ∉ fields :=
  fun hmem => recordEnd_ne (h _ hmem) rfl

theorem isRecord_locationLines (entry : Entry Location) : IsRecord (locationLines entry) := by
  refine ⟨["    .description = \x7b", "      .small = " ++ literalOrNull entry.short ++ ",",
    "      .big = " ++ literalOrNull entry.long ++ ",", "    \x7d,"], rfl, ?_⟩
  exact recordClosing_notMem (by simp)

theorem isRecord_objectLines (entry : Entry ObjectDescription) : IsRecord (objectLines entry) :=
  ⟨("    .inventory = " ++ literalOrNull entry.inventory ++ ",") :: longsLines entry.longs, rfl,
    recordEnd_notMem_object entry⟩

theorem isRecord_obituaryLines (obituary : Obituary) : IsRecord (obituaryLines obituary) := by
  refine ⟨["    .query = " ++ literal obituary.query ++ ",",
    "    .yes_response = " ++ literal obituary.yesResponse ++ ","], rfl, ?_⟩
  exact recordClosing_notMem (by simp)

/-- Items of one line each are cut line by line. -/
theorem map_singleton_flatten {items : List (List String)} (h : ∀ item ∈ items, item.length = 1) :
    (items.flatten.map fun line => [line]) = items := by
  induction items with
  | nil => rfl
  | cons item items ih =>
      obtain ⟨hitem, hitems⟩ := List.forall_mem_cons.mp h
      obtain ⟨line, rfl⟩ := List.length_eq_one_iff.mp hitem
      simpa using ih hitems

/-- The initialisers of a table are cut where they were put together. -/
theorem initialisers?_flatten (dungeon : Dungeon) (table : Table) :
    table.initialisers? (table.arrayBlock dungeon).items.flatten =
      some ((table.written dungeon).map Prod.snd) := by
  have hmessages : ∀ entries : List (Entry String),
      ∀ item ∈ (entries.map fun entry => (entry.id, messageLines entry)).map Prod.snd,
        item.length = 1 := by
    intro entries item hmem
    obtain ⟨pair, hpair, rfl⟩ := List.mem_map.mp hmem
    obtain ⟨entry, -, rfl⟩ := List.mem_map.mp hpair
    rfl
  cases table with
  | arbitraryMessages => exact congrArg some (map_singleton_flatten (hmessages _))
  | classMessages => exact congrArg some (map_singleton_flatten (hmessages _))
  | turnThresholdMessages => exact congrArg some (map_singleton_flatten (hmessages _))
  | locations =>
      refine records_flatten fun item hmem => ?_
      obtain ⟨pair, hpair, rfl⟩ := List.mem_map.mp hmem
      obtain ⟨entry, -, rfl⟩ := List.mem_map.mp hpair
      exact isRecord_locationLines entry
  | objectDescriptions =>
      refine records_flatten fun item hmem => ?_
      obtain ⟨pair, hpair, rfl⟩ := List.mem_map.mp hmem
      obtain ⟨entry, -, rfl⟩ := List.mem_map.mp hpair
      exact objectLines_eq entry ▸ isRecord_objectLines entry

/-! ## Counts -/

theorem begins_eq_false {lead line : String} (hlead : lead.toList ≠ [])
    (hne : line.toList.head? ≠ lead.toList.head?) : begins lead line = false := by
  obtain ⟨c, rest, hchars⟩ := List.exists_cons_of_ne_nil hlead
  rw [hchars, List.head?_cons] at hne
  rw [begins, hchars]
  cases hline : line.toList with
  | nil => rfl
  | cons d other =>
      have hcd : c ≠ d := by
        rintro rfl
        exact hne (by rw [hline, List.head?_cons])
      simp [List.isPrefixOf, hcd]

theorem begins_append (lead rest : String) : begins lead (lead ++ rest) = true := by
  rw [begins, List.isPrefixOf_iff_prefix, String.toList_append]
  exact List.prefix_append _ _

/-- What begins like a count is found among the lines after the arrays. -/
theorem filter_counts (dungeon : Dungeon) (headerName : String) {lead : String}
    (hlead : lead.toList.head? ∈ [some 's', some 'i']) :
    (fileLines [includeLine headerName, ""] (arrayBlocks dungeon)
        [classCountLine dungeon.classCount, "", maximumDeathsLine dungeon.maximumDeaths, ""]).filter
        (begins lead) =
      [classCountLine dungeon.classCount, maximumDeathsLine dungeon.maximumDeaths].filter
        (begins lead) := by
  have hother : ∀ line : String, line.toList.head? ∉ [some 's', some 'i'] →
      begins lead line = false := by
    intro line hline
    apply begins_eq_false
    · intro hnil
      simp [hnil] at hlead
    · intro heq
      exact hline (heq ▸ hlead)
  have hempty := hother "" (by simp)
  have hinclude := hother (includeLine headerName) (by simp [includeLine])
  -- Arrays are opened by other letters, and their other lines begin with a
  -- blank or a brace.
  rw [(source_findable dungeon headerName).filter_eq]
  · simp [List.filter_cons, hempty, hinclude]
  · intro line hindented
    apply hother
    rw [hindented]
    decide
  · exact hempty
  · exact hother _ (by simp [Block.closing])
  · intro block hmem
    have hopening := List.mem_map_of_mem (f := Block.opening) hmem
    rw [opening_arrayBlocks] at hopening
    have hhead := head?_arrayOpening hopening
    apply hother
    intro hmem
    grind

theorem filter_classCountLine (classes deaths : Nat) :
    [classCountLine classes, maximumDeathsLine deaths].filter (begins "size_t CLSSES = ") =
      [classCountLine classes] := by
  have hclasses : begins "size_t CLSSES = " (classCountLine classes) = true :=
    begins_append "size_t CLSSES = " (toString classes ++ ";")
  have hdeaths : begins "size_t CLSSES = " (maximumDeathsLine deaths) = false :=
    begins_eq_false (by simp) (by rw [head?_maximumDeathsLine]; decide)
  rw [List.filter_cons_of_pos hclasses]
  simp [hdeaths]

theorem filter_maximumDeathsLine (classes deaths : Nat) :
    [classCountLine classes, maximumDeathsLine deaths].filter (begins "int maximum_deaths = ") =
      [maximumDeathsLine deaths] := by
  have hclasses : begins "int maximum_deaths = " (classCountLine classes) = false :=
    begins_eq_false (by simp) (by rw [head?_classCountLine]; decide)
  have hdeaths : begins "int maximum_deaths = " (maximumDeathsLine deaths) = true :=
    begins_append "int maximum_deaths = " (toString deaths ++ ";")
  simp [hclasses, hdeaths]

/-! ## Both files -/

theorem linesOf_header (hids : ∀ table : Table, ∀ id ∈ table.ids dungeon, '\n' ∉ id.toList)
    (headerName : String) : linesOf (tables dungeon headerName).header =
      fileLines typeLines (enumBlocks dungeon) (externLines ++ [""]) := by
  rw [tables, linesOf_unlines (oneLine_headerLines hids)]
  simp [headerLines, fileLines]

theorem linesOf_source (dungeon : Dungeon) {headerName : String}
    (hname : '\n' ∉ headerName.toList) : linesOf (tables dungeon headerName).source =
      fileLines [includeLine headerName, ""] (arrayBlocks dungeon)
        [classCountLine dungeon.classCount, "", maximumDeathsLine dungeon.maximumDeaths, ""] := by
  have hinclude : OneLine (includeLine headerName) := by simpa [OneLine, includeLine] using hname
  have hlines : ∀ line ∈ sourceLines dungeon headerName, OneLine line :=
    List.forall_mem_cons.mpr ⟨hinclude, oneLine_sourceLines dungeon headerName⟩
  rw [tables, linesOf_unlines hlines]
  simp [sourceLines, fileLines]

theorem enumBlock_mem (dungeon : Dungeon) (table : Table) :
    table.enumBlock dungeon ∈ enumBlocks dungeon := by
  rw [enumBlocks_eq]
  exact List.mem_map_of_mem (by cases table <;> decide)

theorem arrayBlock_mem (dungeon : Dungeon) (table : Table) :
    table.arrayBlock dungeon ∈ arrayBlocks dungeon := by
  rw [arrayBlocks_eq]
  exact List.mem_append_left _ (List.mem_map_of_mem (by cases table <;> decide))

theorem obituaryBlock_mem (dungeon : Dungeon) :
    obituaryBlock dungeon.obituaries ∈ arrayBlocks dungeon := by
  rw [arrayBlocks_eq]
  exact List.mem_append_right _ (List.mem_singleton_self _)

/-- The initialisers of a table are read back from the source file. -/
theorem readInitialisers?_source (dungeon : Dungeon) {headerName : String}
    (hname : '\n' ∉ headerName.toList) (table : Table) :
    table.readInitialisers? (tables dungeon headerName).source =
      some ((table.written dungeon).map Prod.snd) := by
  have hbody := (source_findable dungeon headerName).bodyOf?_eq (arrayBlock_mem dungeon table)
  rw [Table.readInitialisers?, linesOf_source dungeon hname]
  exact (congrArg (Option.bind · _) hbody).trans (initialisers?_flatten dungeon table)

theorem readObituaryInitialisers?_source (dungeon : Dungeon) {headerName : String}
    (hname : '\n' ∉ headerName.toList) :
    readObituaryInitialisers? (tables dungeon headerName).source =
      some (dungeon.obituaries.map fun obituary =>
        obituaryRendering obituary.query obituary.yesResponse) := by
  have hbody := (source_findable dungeon headerName).bodyOf?_eq (obituaryBlock_mem dungeon)
  rw [readObituaryInitialisers?, linesOf_source dungeon hname]
  refine (congrArg (Option.bind · _) hbody).trans (records_flatten fun item hmem => ?_)
  obtain ⟨obituary, -, rfl⟩ := List.mem_map.mp hmem
  exact isRecord_obituaryLines obituary

theorem map_fst_written (dungeon : Dungeon) (table : Table) :
    (table.written dungeon).map Prod.fst = table.ids dungeon := by
  cases table <;> simp [Table.written, Table.ids, ids, Function.comp_def]

/-- What a reader finds in the tables of a dungeon. -/
structure Aligned (dungeon : Dungeon) (tables : Tables) : Prop where
  enum_once : ∀ table : Table, (linesOf tables.header).count table.enumOpening = 1
  array_once : ∀ table : Table, (linesOf tables.source).count table.arrayOpening = 1
  obituaries_once : (linesOf tables.source).count obituaryOpening = 1
  written_ids : ∀ table : Table, (table.written dungeon).map Prod.fst = table.ids dungeon
  constants : ∀ table : Table, table.readConstants? tables.header =
    some ((table.written dungeon).map fun entry => "  " ++ entry.1 ++ ",")
  initialisers : ∀ table : Table, table.readInitialisers? tables.source =
    some ((table.written dungeon).map Prod.snd)
  obituaries : readObituaryInitialisers? tables.source =
    some (dungeon.obituaries.map fun obituary =>
      obituaryRendering obituary.query obituary.yesResponse)
  classes : ∀ initialisers, Table.classMessages.readInitialisers? tables.source =
    some initialisers →
      linesWith "size_t CLSSES = " tables.source =
        ["size_t CLSSES = " ++ toString initialisers.length ++ ";"]
  deaths : ∀ initialisers, readObituaryInitialisers? tables.source = some initialisers →
    linesWith "int maximum_deaths = " tables.source =
      ["int maximum_deaths = " ++ toString initialisers.length ++ ";"]

/-- **Constants and initialisers line up.**  If no identifier and not the name
of the header holds a line feed, a reader finds each enumeration and each
array once.  The constant and the initialiser at one place are those of the
entry at this place, there are no others, and the counts are those of the
initialisers, whatever the texts are. -/
theorem tables_aligned (dungeon : Dungeon) (headerName : String)
    (hids : ∀ table : Table, ∀ id ∈ table.ids dungeon, '\n' ∉ id.toList)
    (hname : '\n' ∉ headerName.toList) : Aligned dungeon (tables dungeon headerName) := by
  have hheader := linesOf_header hids headerName
  have hsource := linesOf_source dungeon hname
  have henums := header_findable dungeon
  have harrays := source_findable dungeon headerName
  have hinitialisers := readInitialisers?_source dungeon hname
  have hobituaries := readObituaryInitialisers?_source dungeon hname
  constructor
  case enum_once =>
    intro table
    rw [hheader]
    exact henums.count_opening (enumBlock_mem dungeon table)
  case array_once =>
    intro table
    rw [hsource]
    exact harrays.count_opening (arrayBlock_mem dungeon table)
  case obituaries_once =>
    rw [hsource]
    exact harrays.count_opening (obituaryBlock_mem dungeon)
  case written_ids => exact map_fst_written dungeon
  case constants =>
    intro table
    rw [Table.readConstants?, hheader]
    refine (henums.bodyOf?_eq (enumBlock_mem dungeon table)).trans ?_
    rw [Table.enumBlock, ← List.flatMap_def, ← List.map_eq_flatMap]
    rfl
  case initialisers => exact hinitialisers
  case obituaries => exact hobituaries
  case classes =>
    intro initialisers hread
    rw [hinitialisers, Option.some.injEq] at hread
    have hlength : initialisers.length = dungeon.classCount := by
      simp [← hread, Table.written, Dungeon.classCount]
    change linesWith "size_t CLSSES = " _ = [classCountLine initialisers.length]
    rw [linesWith, hsource, filter_counts dungeon headerName (by simp), filter_classCountLine,
      hlength]
  case deaths =>
    intro initialisers hread
    rw [hobituaries, Option.some.injEq] at hread
    have hlength : initialisers.length = dungeon.maximumDeaths := by
      simp [← hread, Dungeon.maximumDeaths]
    change linesWith "int maximum_deaths = " _ = [maximumDeathsLine initialisers.length]
    rw [linesWith, hsource, filter_counts dungeon headerName (by simp), filter_maximumDeathsLine,
      hlength]

/-- A dungeon with texts that read like code: they open and close blocks and
records, and count. -/
def forgedDungeon : Dungeon where
  arbitraryMessages := [⟨"OK_MAN", some "\x7d;\nenum locations_refs \x7b"⟩]
  classMessages := [⟨"NOVICE", some "\",\nsize_t CLSSES = 7;"⟩, ⟨"EXPERT", none⟩]
  turnThresholdMessages := []
  locations := [⟨"LOC_START", some ⟨some ⟨some "\n\x7d;\n", none⟩⟩⟩]
  objectDescriptions := [⟨"KEYS", some ⟨none, some ["  \x7d,", "\n  \x7d,\n  \x7b\n"]⟩⟩]
  obituaries := [⟨"\n  \x7d,\n\x7d;", "obituary_t obituaries[] = \x7b"⟩]

/-- The texts that read like code forge nothing. -/
theorem tables_forgedDungeon :
    (∀ table : Table, ∀ id ∈ table.ids forgedDungeon, '\n' ∉ id.toList) ∧
    '\n' ∉ "newdb.h".toList ∧
    Aligned forgedDungeon (tables forgedDungeon "newdb.h") ∧
    linesWith "size_t CLSSES = " (tables forgedDungeon "newdb.h").source =
      ["size_t CLSSES = 2;"] := by
  have hids : ∀ table : Table, ∀ id ∈ table.ids forgedDungeon, '\n' ∉ id.toList := by
    intro table
    cases table <;> simp [Table.ids, ids, forgedDungeon]
  have hname : '\n' ∉ "newdb.h".toList := by simp
  have haligned := tables_aligned forgedDungeon "newdb.h" hids hname
  exact ⟨hids, hname, haligned, haligned.classes _ (haligned.initialisers .classMessages)⟩

end AdventureTables
