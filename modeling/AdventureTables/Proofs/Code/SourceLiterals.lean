import AdventureTables.Proofs.Code.Layout
import AdventureTables.Proofs.Code.Scanner
/-!
# The literals of the source file

Every part of the source file carries some texts: a field carries the text it
is given, an initialiser the texts of its entry, an array those of its items,
and the lines around them none.  `Carries` says it of a part wherever it
stands, so it passes from parts to the whole.

What a part carries is decided by the scanner.  If all texts close, the
scanner finds their escapes, in order, and ends outside a literal.  If one does
not, the scanner goes astray at the first such text, and what comes later in
the file cannot make up for it.  So the literals of the whole file are the
escapes of the texts of the dungeon exactly if all these texts close.
-/

namespace AdventureTables

/-- The texts of a dungeon that are present, in the order of the source file. -/
def Dungeon.texts (dungeon : Dungeon) : List String :=
  dungeon.arbitraryMessages.flatMap (fun entry => entry.text.toList) ++
    dungeon.classMessages.flatMap (fun entry => entry.text.toList) ++
    dungeon.turnThresholdMessages.flatMap (fun entry => entry.text.toList) ++
    dungeon.locations.flatMap (fun entry => entry.short.toList ++ entry.long.toList) ++
    dungeon.objectDescriptions.flatMap (fun entry => entry.inventory.toList ++ entry.longs) ++
    dungeon.obituaries.flatMap (fun obituary => [obituary.query, obituary.yesResponse])

namespace Code

/-- A piece of code carries some texts: from outside a literal the scanner
finds their escapes in it, and after it whatever it would find there, exactly
if all the texts close. -/
def Carries (code : String) (texts : List String) : Prop :=
  ∀ rest found,
    scan .outside (code.toList ++ rest) = some (texts.map escape ++ found) ↔
      (∀ text ∈ texts, Closes text) ∧ scan .outside rest = some found

/-- Code without double quotes carries nothing. -/
theorem carries_plain {code : String} (h : '"' ∉ code.toList) : Carries code [] := by
  intro rest found
  simp [scan_outside_append h]

/-- The literal of a text carries that text. -/
theorem carries_literal (text : String) : Carries (literal text) [text] := by
  intro rest found
  simpa using scan_literal_iff

/-- Two pieces carry one after the other what each of them carries. -/
theorem Carries.append {a b : String} {s t : List String} (ha : Carries a s) (hb : Carries b t) :
    Carries (a ++ b) (s ++ t) := by
  intro rest found
  calc scan .outside ((a ++ b).toList ++ rest) = some ((s ++ t).map escape ++ found)
      ↔ scan .outside (a.toList ++ (b.toList ++ rest)) =
          some (s.map escape ++ (t.map escape ++ found)) := by simp
    _ ↔ (∀ text ∈ s, Closes text) ∧
          scan .outside (b.toList ++ rest) = some (t.map escape ++ found) := ha _ _
    _ ↔ (∀ text ∈ s, Closes text) ∧ (∀ text ∈ t, Closes text) ∧
          scan .outside rest = some found := by rw [hb]
    _ ↔ (∀ text ∈ s ++ t, Closes text) ∧ scan .outside rest = some found := by
        simp only [List.forall_mem_append, and_assoc]

/-- A literal or the null pointer carries the text, if there is one. -/
theorem carries_literalOrNull (text : Option String) :
    Carries (literalOrNull text) text.toList := by
  cases text with
  | none => exact carries_plain (by simp [literalOrNull, null])
  | some text => exact carries_literal text

/-! ## Lines -/

/-- Lines carry what the first one and the others carry. -/
theorem carries_cons {line : String} {lines s t : List String} (hline : Carries line s)
    (hlines : Carries (unlines lines) t) : Carries (unlines (line :: lines)) (s ++ t) := by
  have hend : Carries "\n" [] := carries_plain (by simp)
  have hall := (hline.append hend).append hlines
  simpa [unlines] using hall

/-- A line without double quotes adds nothing to what lines carry. -/
theorem carries_plain_cons (line : String) {lines t : List String} (hline : '"' ∉ line.toList)
    (hlines : Carries (unlines lines) t) : Carries (unlines (line :: lines)) t :=
  carries_cons (carries_plain hline) hlines

/-- No lines carry nothing. -/
theorem carries_nil : Carries (unlines []) [] :=
  carries_plain (by simp [unlines])

/-- Lines carry what their parts carry. -/
theorem carries_append {a b s t : List String} (ha : Carries (unlines a) s)
    (hb : Carries (unlines b) t) : Carries (unlines (a ++ b)) (s ++ t) :=
  unlines_append a b ▸ ha.append hb

/-- The lines of some items carry what the items carry. -/
theorem carries_flatMap {α : Type} {items : List α} {lines texts : α → List String}
    (h : ∀ item ∈ items, Carries (unlines (lines item)) (texts item)) :
    Carries (unlines (items.flatMap lines)) (items.flatMap texts) := by
  induction items with
  | nil => exact carries_nil
  | cons item items ih =>
      have hrest := ih fun other hmem => h other (List.mem_cons_of_mem _ hmem)
      simpa using carries_append (h item List.mem_cons_self) hrest

/-- A field carries its text. -/
theorem carries_field (lead : String) (hlead : '"' ∉ lead.toList) (text : Option String) :
    Carries (lead ++ literalOrNull text ++ ",") text.toList := by
  have hcomma : Carries "," [] := carries_plain (by simp)
  have hall := ((carries_plain hlead).append (carries_literalOrNull text)).append hcomma
  simpa using hall

/-- A field whose text is always there carries it. -/
theorem carries_textField (lead : String) (hlead : '"' ∉ lead.toList) (text : String) :
    Carries (lead ++ literal text ++ ",") [text] :=
  carries_field lead hlead (some text)

/-! ## The emitters -/

/-- The initialiser of a message carries its text. -/
theorem carries_messageLines (entry : Entry String) :
    Carries (unlines (messageLines entry)) entry.text.toList := by
  simpa [messageLines] using carries_cons (carries_field "  " (by simp) entry.text) carries_nil

/-- The initialiser of a location carries its two texts. -/
theorem carries_locationLines (entry : Entry Location) :
    Carries (unlines (locationLines entry)) (entry.short.toList ++ entry.long.toList) := by
  have hclose : Carries (unlines ["    \x7d,", "  \x7d,"]) [] :=
    carries_plain_cons _ (by simp) (carries_plain_cons _ (by simp) carries_nil)
  have hlong := carries_cons (carries_field "      .big = " (by simp) entry.long) hclose
  have hshort := carries_cons (carries_field "      .small = " (by simp) entry.short) hlong
  simpa [locationLines] using
    carries_plain_cons "  \x7b" (by simp)
      (carries_plain_cons "    .description = \x7b" (by simp) hshort)

/-- The array of an object's texts carries these texts. -/
theorem carries_longsLines (longs : List String) : Carries (unlines (longsLines longs)) longs := by
  unfold longsLines
  split
  · next hnone =>
      rw [List.isEmpty_iff.mp hnone]
      exact carries_plain_cons _ (by simp [null]) carries_nil
  · have hclose : Carries (unlines ["    \x7d,"]) [] :=
      carries_plain_cons _ (by simp) carries_nil
    have hitems : Carries (unlines (longs.flatMap fun long => ["      " ++ literal long ++ ","]))
        (longs.flatMap fun long => [long]) :=
      carries_flatMap fun long _ => by
        simpa using carries_cons (carries_textField "      " (by simp) long) carries_nil
    have hall := carries_plain_cons "    .longs = (const char* []) \x7b" (by simp)
      (carries_append hitems hclose)
    simpa [List.flatMap_singleton', ← List.map_eq_flatMap] using hall

/-- The initialiser of an object carries its text in the inventory and the
texts of its states. -/
theorem carries_objectLines (entry : Entry ObjectDescription) :
    Carries (unlines (objectLines entry)) (entry.inventory.toList ++ entry.longs) := by
  have hclose : Carries (unlines ["  \x7d,"]) [] :=
    carries_plain_cons _ (by simp) carries_nil
  have hlongs := carries_append (carries_longsLines entry.longs) hclose
  have hfields := carries_cons
    (carries_field "    .inventory = " (by simp) entry.inventory) hlongs
  simpa [objectLines] using carries_plain_cons "  \x7b" (by simp) hfields

/-- The initialiser of an obituary carries its question and its answer. -/
theorem carries_obituaryLines (obituary : Obituary) :
    Carries (unlines (obituaryLines obituary)) [obituary.query, obituary.yesResponse] := by
  have hclose : Carries (unlines ["  \x7d,"]) [] :=
    carries_plain_cons _ (by simp) carries_nil
  have hanswer := carries_cons
    (carries_textField "    .yes_response = " (by simp) obituary.yesResponse) hclose
  have hquery := carries_cons
    (carries_textField "    .query = " (by simp) obituary.query) hanswer
  simpa [obituaryLines] using carries_plain_cons "  \x7b" (by simp) hquery

/-- An array carries what its items carry, if its opening line carries
nothing. -/
theorem carries_block {α : Type} {opening : String} {items : List α} {lines texts : α → List String}
    (hopening : '"' ∉ opening.toList) (h : ∀ item, Carries (unlines (lines item)) (texts item)) :
    Carries (unlines ((⟨opening, items.map lines⟩ : Block).lines ++ [""]))
      (items.flatMap texts) := by
  have hclose : Carries (unlines [Block.closing, ""]) [] :=
    carries_plain_cons _ (by simp [Block.closing]) (carries_plain_cons _ (by simp) carries_nil)
  have hitems : Carries (unlines (items.flatMap lines)) (items.flatMap texts) :=
    carries_flatMap fun item _ => h item
  simpa [Block.lines, List.flatMap_def] using
    carries_plain_cons opening hopening (carries_append hitems hclose)

/-- A number carries nothing. -/
theorem carries_number (n : Nat) : Carries (toString n) [] :=
  carries_plain (notMem_toString rfl n)

/-- The lines after the arrays carry nothing. -/
theorem carries_counts (classes deaths : Nat) :
    Carries (unlines [classCountLine classes, "", maximumDeathsLine deaths]) [] := by
  have hend : Carries ";" [] := carries_plain (by simp)
  have hclasses : Carries (classCountLine classes) [] :=
    ((carries_plain (by simp)).append (carries_number classes)).append hend
  have hdeaths : Carries (maximumDeathsLine deaths) [] :=
    ((carries_plain (by simp)).append (carries_number deaths)).append hend
  exact carries_cons hclasses (carries_plain_cons _ (by simp) (carries_cons hdeaths carries_nil))

/-- The source file but its first line carries the texts of the dungeon. -/
theorem carries_source (dungeon : Dungeon) (headerName : String) :
    Carries (unlines (sourceLines dungeon headerName).tail) dungeon.texts := by
  have hmessages : ∀ (name : String) (entries : List (Entry String)), '"' ∉ name.toList →
      Carries (unlines ((messageBlock name entries).lines ++ [""]))
        (entries.flatMap fun entry => entry.text.toList) := by
    intro name entries hname
    exact carries_block (by simpa using hname) carries_messageLines
  have harbitrary := hmessages "arbitrary_messages" dungeon.arbitraryMessages (by simp)
  have hclass := hmessages "class_messages" dungeon.classMessages (by simp)
  have hturn := hmessages "turn_threshold_messages" dungeon.turnThresholdMessages (by simp)
  have hlocations : Carries (unlines ((locationBlock dungeon.locations).lines ++ [""])) _ :=
    carries_block (by simp) carries_locationLines
  have hobjects : Carries (unlines ((objectBlock dungeon.objectDescriptions).lines ++ [""])) _ :=
    carries_block (by simp) carries_objectLines
  have hobituaries : Carries (unlines ((obituaryBlock dungeon.obituaries).lines ++ [""])) _ :=
    carries_block (by simp) carries_obituaryLines
  have hcounts := carries_counts dungeon.classCount dungeon.maximumDeaths
  have hall := carries_append harbitrary <| carries_append hclass <| carries_append hturn <|
    carries_append hlocations <| carries_append hobjects <| carries_append hobituaries hcounts
  simpa [sourceLines_eq, Dungeon.texts] using
    carries_plain_cons "" (by simp) hall

/-- **The literals of the source file.**  After its first line the source file
is code in which a scanner finds the escapes of the texts of the dungeon, in
order and nothing else, and ends outside a literal, if and only if all these
texts close. -/
theorem literalsIn_source_iff (dungeon : Dungeon) (headerName : String) :
    ∃ code, (tables dungeon headerName).source = includeLine headerName ++ "\n" ++ code ∧
      (literalsIn code = some (dungeon.texts.map escape) ↔
        ∀ text ∈ dungeon.texts, Closes text) := by
  refine ⟨unlines (sourceLines dungeon headerName).tail, ?_, ?_⟩
  · simp [tables, sourceLines, unlines]
  · have hcode := carries_source dungeon headerName [] []
    simpa [literalsIn, scan] using hcode

end Code

end AdventureTables
