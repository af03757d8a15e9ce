import AdventureTables.Dungeon.Problem
import AdventureTables.Proofs.Code.Lines
/-!
# The layouts of the tables

The generated files use five layouts of items: constants and messages of one
line, locations and obituaries of a fixed number of lines, and objects, whose
height depends on their texts and which end at the first line `  },` in them.
All of them are layouts that a reader of lines can take apart (`ItemLayout`).
Their lines begin with a blank, which no closing line does.

In the source file all lines but the first hold no line feed, whatever the
texts of the dungeon are; in the header this takes identifiers without any.
-/

namespace AdventureTables.Code

/-- A line that begins with a blank. -/
def Indented (line : String) : Prop :=
  line.toList.head? = some ' '

/-- Indented lines do not close a block. -/
theorem closing_notMem_of_indented {lines : List String} (h : ∀ line ∈ lines, Indented line) :
    Block.closing ∉ lines := by
  intro hmem
  have hindented := h _ hmem
  simp [Indented, Block.closing] at hindented

/-- A line ends in a comma like `  },`, and is not that line, if it is indented
further. -/
theorem recordEnd_ne {line : String} (h : line.toList.take 3 = [' ', ' ', ' ']) :
    "  \x7d," ≠ line := by
  intro heq
  subst heq
  simp at h

/-! ## Indented lines -/

theorem indented_constantLine (id : String) : ∀ line ∈ [constantLine id], Indented line := by
  simp [constantLine, Indented]

theorem indented_messageLines (entry : Entry String) :
    ∀ line ∈ messageLines entry, Indented line := by
  simp [messageLines, Indented]

theorem indented_locationLines (entry : Entry Location) :
    ∀ line ∈ locationLines entry, Indented line := by
  simp [locationLines, Indented]

theorem indented_obituaryLines (obituary : Obituary) :
    ∀ line ∈ obituaryLines obituary, Indented line := by
  simp [obituaryLines, Indented]

/-- The lines of the array of an object's texts are of four kinds. -/
theorem forall_longsLines {P : String → Prop} {longs : List String}
    (hnull : P ("    .longs = " ++ null ++ ","))
    (hopening : P "    .longs = (const char* []) \x7b")
    (hlong : ∀ long, P ("      " ++ literal long ++ ","))
    (hclosing : P "    \x7d,") : ∀ line ∈ longsLines longs, P line := by
  unfold longsLines
  split
  · simpa using hnull
  · intro line hmem
    rcases List.mem_cons.mp hmem with rfl | hmem
    · exact hopening
    rcases List.mem_append.mp hmem with hmem | hmem
    · obtain ⟨long, -, rfl⟩ := List.mem_map.mp hmem
      exact hlong long
    · exact List.mem_singleton.mp hmem ▸ hclosing

theorem indented_objectLines (entry : Entry ObjectDescription) :
    ∀ line ∈ objectLines entry, Indented line := by
  have hlongs : ∀ line ∈ longsLines entry.longs, Indented line :=
    forall_longsLines (by simp [Indented, null]) (by simp [Indented]) (by simp [Indented])
      (by simp [Indented])
  simpa [objectLines, Indented, or_imp, forall_and] using hlongs

/-! ## Five layouts -/

theorem constantLayout {α : Type} :
    ItemLayout fun entry : Entry α => [constantLine entry.id] where
  nonempty _ := by simp
  selfDelimiting := selfDelimiting_of_length (n := 1) fun _ => rfl
  closing_notMem entry := closing_notMem_of_indented (indented_constantLine entry.id)

theorem messageLayout : ItemLayout messageLines where
  nonempty _ := by simp [messageLines]
  selfDelimiting := selfDelimiting_of_length (n := 1) fun _ => rfl
  closing_notMem entry := closing_notMem_of_indented (indented_messageLines entry)

theorem locationLayout : ItemLayout locationLines where
  nonempty _ := by simp [locationLines]
  selfDelimiting := selfDelimiting_of_length (n := 6) fun _ => rfl
  closing_notMem entry := closing_notMem_of_indented (indented_locationLines entry)

theorem obituaryLayout : ItemLayout obituaryLines where
  nonempty _ := by simp [obituaryLines]
  selfDelimiting := selfDelimiting_of_length (n := 4) fun _ => rfl
  closing_notMem obituary := closing_notMem_of_indented (indented_obituaryLines obituary)

/-- No line inside an object's initialiser closes it.  The array of the texts
ends in such a line too, but further to the right. -/
theorem recordEnd_notMem_object (entry : Entry ObjectDescription) :
    "  \x7d," ∉ ("    .inventory = " ++ literalOrNull entry.inventory ++ ",") ::
      longsLines entry.longs := by
  intro hmem
  rcases List.mem_cons.mp hmem with heq | hmem
  · exact recordEnd_ne (by simp) heq
  · have hdeep : ∀ line ∈ longsLines entry.longs, line.toList.take 3 = [' ', ' ', ' '] :=
      forall_longsLines (by simp [null]) (by simp) (by simp) (by simp)
    exact recordEnd_ne (hdeep _ hmem) rfl

theorem objectLayout : ItemLayout objectLines where
  nonempty _ := by simp [objectLines]
  selfDelimiting := by
    refine selfDelimiting_of_last (fun entry => "  \x7b" ::
      ("    .inventory = " ++ literalOrNull entry.inventory ++ ",") :: longsLines entry.longs)
      "  \x7d," (fun entry => rfl) ?_
    intro entry hmem
    rcases List.mem_cons.mp hmem with heq | hmem
    · simp at heq
    · exact recordEnd_notMem_object entry hmem
  closing_notMem entry := closing_notMem_of_indented (indented_objectLines entry)

/-! ## Lines of the files -/

/-- A field is one line. -/
theorem oneLine_field (lead : String) (hlead : OneLine lead) (text : Option String) :
    OneLine (lead ++ literalOrNull text ++ ",") := by
  have htext := oneLine_literalOrNull text
  simp_all [OneLine]

theorem oneLine_textField (lead : String) (hlead : OneLine lead) (text : String) :
    OneLine (lead ++ literal text ++ ",") :=
  oneLine_field lead hlead (some text)

theorem oneLine_messageLines (entry : Entry String) :
    ∀ line ∈ messageLines entry, OneLine line := by
  simpa [messageLines] using oneLine_field "  " (by simp [OneLine]) entry.text

theorem oneLine_locationLines (entry : Entry Location) :
    ∀ line ∈ locationLines entry, OneLine line := by
  have hshort := oneLine_field "      .small = " (by simp [OneLine]) entry.short
  have hlong := oneLine_field "      .big = " (by simp [OneLine]) entry.long
  simp only [locationLines, List.forall_mem_cons]
  refine ⟨?_, ?_, hshort, hlong, ?_, ?_, ?_⟩ <;> simp [OneLine]

theorem oneLine_objectLines (entry : Entry ObjectDescription) :
    ∀ line ∈ objectLines entry, OneLine line := by
  have hinventory := oneLine_field "    .inventory = " (by simp [OneLine]) entry.inventory
  have hlongs : ∀ line ∈ longsLines entry.longs, OneLine line :=
    forall_longsLines (by simp [OneLine, null]) (by simp [OneLine])
      (fun long => oneLine_textField "      " (by simp [OneLine]) long) (by simp [OneLine])
  simp only [objectLines, List.forall_mem_cons, List.forall_mem_append]
  refine ⟨?_, hinventory, hlongs, ?_, ?_⟩ <;> simp [OneLine]

theorem oneLine_obituaryLines (obituary : Obituary) :
    ∀ line ∈ obituaryLines obituary, OneLine line := by
  have hquery := oneLine_textField "    .query = " (by simp [OneLine]) obituary.query
  have hanswer :=
    oneLine_textField "    .yes_response = " (by simp [OneLine]) obituary.yesResponse
  simp only [obituaryLines, List.forall_mem_cons]
  refine ⟨?_, hquery, hanswer, ?_, ?_⟩ <;> simp [OneLine]

/-- A block whose opening line and items hold no line feed but at the ends of
their lines. -/
theorem oneLine_block {α : Type} {opening : String} {items : List α} {lines : α → List String}
    (hopening : OneLine opening) (h : ∀ item ∈ items, ∀ line ∈ lines item, OneLine line) :
    ∀ line ∈ (⟨opening, items.map lines⟩ : Block).lines, OneLine line := by
  have hclosing : OneLine Block.closing := by simp [OneLine, Block.closing]
  intro line hmem
  rcases List.mem_cons.mp hmem with rfl | hmem
  · exact hopening
  rcases List.mem_append.mp hmem with hmem | hmem
  · obtain ⟨item, hitem, hline⟩ := List.mem_flatMap.mp (List.flatMap_def ▸ hmem)
    exact h item hitem line hline
  · exact List.mem_singleton.mp hmem ▸ hclosing

theorem OneLine.append {a b : String} (ha : OneLine a) (hb : OneLine b) : OneLine (a ++ b) := by
  simp_all [OneLine]

/-- A count is one line. -/
theorem oneLine_count {lead : String} (hlead : OneLine lead) (count : Nat) :
    OneLine (lead ++ toString count ++ ";") := by
  have hcount : OneLine (toString count) := notMem_toString rfl count
  exact (hlead.append hcount).append (by simp [OneLine])

/-! ## The files, block by block -/

/-- The source file is six arrays between two lines before them and the lines
of the counts. -/
theorem sourceLines_eq (dungeon : Dungeon) (headerName : String) :
    sourceLines dungeon headerName = includeLine headerName :: "" ::
      ((messageBlock "arbitrary_messages" dungeon.arbitraryMessages).lines ++ "" ::
      ((messageBlock "class_messages" dungeon.classMessages).lines ++ "" ::
      ((messageBlock "turn_threshold_messages" dungeon.turnThresholdMessages).lines ++ "" ::
      ((locationBlock dungeon.locations).lines ++ "" ::
      ((objectBlock dungeon.objectDescriptions).lines ++ "" ::
      ((obituaryBlock dungeon.obituaries).lines ++ "" ::
      [classCountLine dungeon.classCount, "", maximumDeathsLine dungeon.maximumDeaths])))))) := by
  simp [sourceLines, arrayBlocks, messages, messageTables]

/-- The header is five enumerations between the declarations of the types and
those of the arrays. -/
theorem headerLines_eq (dungeon : Dungeon) :
    headerLines dungeon = typeLines ++
      ((enumBlock "arbitrary_messages" dungeon.arbitraryMessages).lines ++ "" ::
      ((enumBlock "class_messages" dungeon.classMessages).lines ++ "" ::
      ((enumBlock "turn_threshold_messages" dungeon.turnThresholdMessages).lines ++ "" ::
      ((enumBlock "locations" dungeon.locations).lines ++ "" ::
      ((enumBlock "object_descriptions" dungeon.objectDescriptions).lines ++ "" ::
      externLines))))) := by
  simp [headerLines, enumBlocks, messages, messageTables]

/-- The lines of the source file but the first one hold no line feed. -/
theorem oneLine_sourceLines (dungeon : Dungeon) (headerName : String) :
    ∀ line ∈ (sourceLines dungeon headerName).tail, OneLine line := by
  have hmessages : ∀ (name : String) (entries : List (Entry String)), OneLine name →
      ∀ line ∈ (messageBlock name entries).lines, OneLine line := by
    intro name entries hname
    exact oneLine_block (by simpa [OneLine] using hname) fun entry _ => oneLine_messageLines entry
  have hempty : OneLine "" := by simp [OneLine]
  simp only [sourceLines_eq, List.tail_cons, List.forall_mem_cons, List.forall_mem_append]
  refine ⟨hempty, hmessages _ _ (by simp [OneLine]), hempty, hmessages _ _ (by simp [OneLine]),
    hempty, hmessages _ _ (by simp [OneLine]), hempty, ?_, hempty, ?_, hempty, ?_, hempty, ?_,
    hempty, ?_, by simp⟩
  · exact oneLine_block (by simp [OneLine]) fun entry _ => oneLine_locationLines entry
  · exact oneLine_block (by simp [OneLine]) fun entry _ => oneLine_objectLines entry
  · exact oneLine_block (by simp [OneLine]) fun obituary _ => oneLine_obituaryLines obituary
  · exact oneLine_count (by simp [OneLine]) dungeon.classCount
  · exact oneLine_count (by simp [OneLine]) dungeon.maximumDeaths

/-- The lines of the header hold no line feed if no identifier does. -/
theorem oneLine_headerLines {dungeon : Dungeon}
    (h : ∀ table : Table, ∀ id ∈ table.ids dungeon, OneLine id) :
    ∀ line ∈ headerLines dungeon, OneLine line := by
  have henum : ∀ {α : Type} (name : String) (entries : List (Entry α)), OneLine name →
      (∀ id ∈ ids entries, OneLine id) → ∀ line ∈ (enumBlock name entries).lines, OneLine line := by
    intro α name entries hname hids
    refine oneLine_block (by simpa [OneLine] using hname) fun entry hentry line hline => ?_
    have hid := hids entry.id (List.mem_map_of_mem hentry)
    rw [List.mem_singleton.mp hline]
    simpa [constantLine, OneLine] using hid
  have hempty : OneLine "" := by simp [OneLine]
  have htypes : ∀ line ∈ typeLines, OneLine line := by simp [typeLines, OneLine]
  have hexterns : ∀ line ∈ externLines, OneLine line := by simp [externLines, OneLine]
  simp only [headerLines_eq, List.forall_mem_cons, List.forall_mem_append]
  exact ⟨htypes, henum _ _ (by simp [OneLine]) (h .arbitraryMessages), hempty,
    henum _ _ (by simp [OneLine]) (h .classMessages), hempty,
    henum _ _ (by simp [OneLine]) (h .turnThresholdMessages), hempty,
    henum _ _ (by simp [OneLine]) (h .locations), hempty,
    henum _ _ (by simp [OneLine]) (h .objectDescriptions), hempty, hexterns⟩

end AdventureTables.Code
