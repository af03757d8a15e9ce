import AdventureTables.Dungeon.Problem
import AdventureTables.Proofs.Code.Layout
/-!
# What the tables tell apart

Generating code forgets something of a dungeon, and it forgets no more than it
is meant to.  Of a text the source file keeps the escape.  It tells an absent
text from one that spells `NULL`, but not an absent list of texts from an empty
one, nor an absent record from one without texts.  Identifiers appear in the
header only, and the header keeps nothing else.

Two dungeons therefore have the same source file exactly if they agree text by
text (`SameSource`), and the same header exactly if they have the same
identifiers, as long as no identifier breaks its line.
-/

namespace AdventureTables.Code

/-- Two texts are written alike. -/
def SameLiteral (s t : String) : Prop :=
  escape s = escape t

/-- Two texts that may be absent are both absent, or both there and written
alike. -/
def Alike : Option String → Option String → Prop :=
  Option.Rel SameLiteral

/-- Two dungeons agree in what the source file keeps: table by table they have
as many entries, and entries at the same place agree text by text.  The lists
of an object's texts agree if both are absent or empty, or if they are as long
and agree text by text. -/
structure SameSource (d e : Dungeon) : Prop where
  arbitraryMessages :
    List.Forall₂ (fun a b => Alike a.text b.text) d.arbitraryMessages e.arbitraryMessages
  classMessages : List.Forall₂ (fun a b => Alike a.text b.text) d.classMessages e.classMessages
  turnThresholdMessages :
    List.Forall₂ (fun a b => Alike a.text b.text) d.turnThresholdMessages e.turnThresholdMessages
  locations :
    List.Forall₂ (fun a b => Alike a.short b.short ∧ Alike a.long b.long) d.locations e.locations
  objectDescriptions :
    List.Forall₂
      (fun a b => Alike a.inventory b.inventory ∧ List.Forall₂ SameLiteral a.longs b.longs)
      d.objectDescriptions e.objectDescriptions
  obituaries :
    List.Forall₂ (fun a b => SameLiteral a.query b.query ∧ SameLiteral a.yesResponse b.yesResponse)
      d.obituaries e.obituaries

/-! ## Fields -/

/-- A literal shows the escape of its text. -/
theorem literal_inj {s t : String} : literal s = literal t ↔ SameLiteral s t := by
  simp [literal, quote, SameLiteral]

/-- A literal is never taken for the null pointer, not even if its text spells
it. -/
theorem literal_ne_null (text : String) : literal text ≠ null := by
  intro h
  have hchars := congrArg String.toList h
  simp [literal, quote, null] at hchars

/-- A field shows whether its text is there, and how it is written. -/
theorem literalOrNull_inj {a b : Option String} :
    literalOrNull a = literalOrNull b ↔ Alike a b := by
  cases a with
  | none =>
      cases b with
      | none => exact ⟨fun _ => .none, fun _ => rfl⟩
      | some t => exact ⟨fun h => absurd h.symm (literal_ne_null t), nofun⟩
  | some s =>
      cases b with
      | none => exact ⟨fun h => absurd h (literal_ne_null s), nofun⟩
      | some t =>
          refine literal_inj.trans ⟨.some, fun h => ?_⟩
          cases h with
          | some h => exact h

/-- Fields of one name are the same exactly if their values are. -/
theorem field_inj {lead s t : String} : lead ++ s ++ "," = lead ++ t ++ "," ↔ s = t := by
  simp

/-! ## Items -/

theorem messageLines_inj {a b : Entry String} :
    messageLines a = messageLines b ↔ Alike a.text b.text := by
  simp [messageLines, literalOrNull_inj]

theorem locationLines_inj {a b : Entry Location} :
    locationLines a = locationLines b ↔ Alike a.short b.short ∧ Alike a.long b.long := by
  simp [locationLines, literalOrNull_inj]

/-- Items are laid out the same one by one. -/
theorem map_inj_iff {α β : Type} {lines : α → β} {xs ys : List α} :
    xs.map lines = ys.map lines ↔ List.Forall₂ (fun a b => lines a = lines b) xs ys := by
  rw [← List.forall₂_eq_eq_eq, List.forall₂_map_left_iff, List.forall₂_map_right_iff]

/-- An array of texts shows its texts one by one, and an empty one is like
none. -/
theorem longsLines_inj {a b : List String} :
    longsLines a = longsLines b ↔ List.Forall₂ SameLiteral a b := by
  cases a with
  | nil => cases b <;> simp [longsLines, null]
  | cons s a =>
      cases b with
      | nil => simp [longsLines, null]
      | cons t b =>
          have hitems : (s :: a).map (fun long => "      " ++ literal long ++ ",") =
              (t :: b).map (fun long => "      " ++ literal long ++ ",") ↔
              List.Forall₂ SameLiteral (s :: a) (t :: b) := by
            simp only [map_inj_iff, field_inj, literal_inj]
          rw [← hitems]
          simp [longsLines]

theorem objectLines_inj {a b : Entry ObjectDescription} :
    objectLines a = objectLines b ↔
      Alike a.inventory b.inventory ∧ List.Forall₂ SameLiteral a.longs b.longs := by
  simp [objectLines, literalOrNull_inj, longsLines_inj]

theorem obituaryLines_inj {a b : Obituary} :
    obituaryLines a = obituaryLines b ↔
      SameLiteral a.query b.query ∧ SameLiteral a.yesResponse b.yesResponse := by
  simp [obituaryLines, literal_inj]

/-! ## Files -/

/-- Two blocks of one kind, each with a line after it, followed by something. -/
theorem ItemLayout.block_append_inj {α : Type} {lines : α → List String} (h : ItemLayout lines)
    {opening line : String} {xs ys : List α} {r s : List String} :
    (⟨opening, xs.map lines⟩ : Block).lines ++ line :: r =
        (⟨opening, ys.map lines⟩ : Block).lines ++ line :: s ↔
      List.Forall₂ (fun a b => lines a = lines b) xs ys ∧ r = s := by
  rw [h.block_inj, map_inj_iff, List.cons_inj_right]

/-- The counts are the same if the tables are as long. -/
theorem SameSource.counts {d e : Dungeon} (h : SameSource d e) :
    d.classCount = e.classCount ∧ d.maximumDeaths = e.maximumDeaths :=
  ⟨h.classMessages.length_eq, h.obituaries.length_eq⟩

/-- The lines of the source file are the same exactly if the dungeons agree
text by text. -/
theorem sourceLines_inj {d e : Dungeon} (headerName : String) :
    sourceLines d headerName = sourceLines e headerName ↔ SameSource d e := by
  simp only [sourceLines_eq, List.cons_inj_right, messageBlock, locationBlock, objectBlock,
    obituaryBlock, messageLayout.block_append_inj, locationLayout.block_append_inj,
    objectLayout.block_append_inj, obituaryLayout.block_append_inj, messageLines_inj,
    locationLines_inj, objectLines_inj, obituaryLines_inj]
  constructor
  · intro h
    obtain ⟨harbitrary, hclass, hturn, hlocations, hobjects, hobituaries, -⟩ := h
    exact ⟨harbitrary, hclass, hturn, hlocations, hobjects, hobituaries⟩
  · intro h
    obtain ⟨hclasses, hdeaths⟩ := h.counts
    exact ⟨h.arbitraryMessages, h.classMessages, h.turnThresholdMessages, h.locations,
      h.objectDescriptions, h.obituaries, by rw [hclasses, hdeaths]⟩

/-- Constants of identifiers. -/
theorem forall₂_constantLine_iff {α : Type} {xs ys : List (Entry α)} :
    List.Forall₂ (fun a b => [constantLine a.id] = [constantLine b.id]) xs ys ↔
      ids xs = ids ys := by
  simp [ids, map_inj_iff, constantLine]

/-- The lines of the header are the same exactly if the identifiers are. -/
theorem headerLines_inj {d e : Dungeon} :
    headerLines d = headerLines e ↔ ∀ table : Table, table.ids d = table.ids e := by
  simp only [headerLines_eq, List.append_cancel_left_eq, enumBlock,
    constantLayout.block_append_inj, forall₂_constantLine_iff, and_true]
  constructor
  · intro h table
    obtain ⟨harbitrary, hclass, hturn, hlocations, hobjects⟩ := h
    cases table <;> assumption
  · intro h
    exact ⟨h .arbitraryMessages, h .classMessages, h .turnThresholdMessages, h .locations,
      h .objectDescriptions⟩

/-- **What the tables keep.**  Two dungeons have the same source file exactly
if they agree text by text, up to the escapes of the texts.  If no identifier
holds a line feed, they have the same header exactly if they have the same
identifiers in each table. -/
theorem tables_inj_iff (d e : Dungeon) (headerName : String) :
    ((tables d headerName).source = (tables e headerName).source ↔ SameSource d e) ∧
    ((∀ table : Table, ∀ id ∈ table.ids d ++ table.ids e, '\n' ∉ id.toList) →
      ((tables d headerName).header = (tables e headerName).header ↔
        ∀ table : Table, table.ids d = table.ids e)) := by
  constructor
  · -- The first line is the same in both, and may hold line feeds.
    have hfirst : ∀ dungeon, (tables dungeon headerName).source =
        includeLine headerName ++ "\n" ++ unlines (sourceLines dungeon headerName).tail :=
      fun dungeon => by simp [tables, sourceLines, unlines]
    rw [hfirst d, hfirst e, String.append_right_inj,
      unlines_inj (oneLine_sourceLines d headerName) (oneLine_sourceLines e headerName),
      ← sourceLines_inj headerName]
    simp [sourceLines_eq]
  · intro hids
    have hd := oneLine_headerLines fun table id hid => hids table id (List.mem_append_left _ hid)
    have he := oneLine_headerLines fun table id hid => hids table id (List.mem_append_right _ hid)
    rw [← headerLines_inj, ← unlines_inj hd he, tables, tables]

/-- A dungeon with one class, and no text for it. -/
def classOf (id : String) : Dungeon where
  arbitraryMessages := []
  classMessages := [⟨id, none⟩]
  turnThresholdMessages := []
  locations := []
  objectDescriptions := []
  obituaries := []

/-- A class with another identifier shows in the header, and only there. -/
theorem tables_renamed_class :
    (∀ table : Table, ∀ id ∈ table.ids (classOf "NOVICE") ++ table.ids (classOf "EXPERT"),
      '\n' ∉ id.toList) ∧
    (tables (classOf "NOVICE") "newdb.h").source = (tables (classOf "EXPERT") "newdb.h").source ∧
    (tables (classOf "NOVICE") "newdb.h").header ≠
      (tables (classOf "EXPERT") "newdb.h").header := by
  have hids : ∀ table : Table,
      ∀ id ∈ table.ids (classOf "NOVICE") ++ table.ids (classOf "EXPERT"), '\n' ∉ id.toList := by
    intro table
    cases table <;> simp [Table.ids, ids, classOf]
  obtain ⟨hsource, hheader⟩ := tables_inj_iff (classOf "NOVICE") (classOf "EXPERT") "newdb.h"
  refine ⟨hids, hsource.mpr ?_, ?_⟩
  · constructor <;> simp [classOf, Alike, Entry.text]
  · intro heq
    have hclass := (hheader hids).mp heq .classMessages
    simp [Table.ids, ids, classOf] at hclass

end AdventureTables.Code
