import AdventureTables.Proofs.Code.Alignment
import AdventureTables.Proofs.Dungeon.Identifiers
import AdventureTables.Proofs.Outcome
import Mathlib.Data.List.Pairwise
/-!
# The constants of a header

A reader takes the constants of an enumeration from its lines, each without the
two blanks before it and the comma behind it, and those of the whole header
from all enumerations that he comes across.  If no identifier holds a line
feed, he finds the identifiers of each table, and those of all tables one
after the other (`readEnum?_header`, `declared?_header`).

So the check of the identifiers tells what he will find: a dungeon has no
problems exactly if the constants of each enumeration match the pattern and
are all different.  Two tables are not compared by it, and an identifier that
they share is a constant declared twice.
-/

namespace AdventureTables

open Code

/-! ## Reading constants -/

/-- The constant that a line of an enumeration declares: what is between two
blanks and a comma. -/
def constant? (line : String) : Option String :=
  match line.toList with
  | ' ' :: ' ' :: rest =>
    if rest.getLast? = some ',' then some (String.ofList rest.dropLast) else none
  | _ => none

/-- The constants that a reader finds in the enumeration of a table. -/
def Table.readEnum? (table : Table) (header : String) : Option (List String) :=
  (table.readConstants? header).bind fun lines => lines.mapM constant?

/-- The lines in the enumerations of a file, `inside` telling whether one is
open. -/
def enumLines (inside : Bool) : List String → List String
  | [] => []
  | line :: rest =>
    if inside then
      if line = Block.closing then enumLines false rest else line :: enumLines true rest
    else enumLines (begins "enum " line) rest

/-- The constants that a reader finds in all enumerations of a header. -/
def declared? (header : String) : Option (List String) :=
  (enumLines false (linesOf header)).mapM constant?

theorem constant?_constantLine (id : String) : constant? (constantLine id) = some id := by
  simp [constant?, constantLine]

theorem mapM_constantLine (ids : List String) :
    (ids.map constantLine).mapM constant? = some ids := by
  refine mapM_eq_some_iff.mpr (List.forall₂_map_left_iff.mpr (List.forall₂_same.mpr ?_))
  intro id _
  exact constant?_constantLine id

/-! ## Lines in enumerations -/

theorem enumLines_outside {before rest : List String}
    (h : ∀ line ∈ before, begins "enum " line = false) :
    enumLines false (before ++ rest) = enumLines false rest := by
  induction before with
  | nil => rfl
  | cons line before ih =>
      obtain ⟨hline, hbefore⟩ := List.forall_mem_cons.mp h
      simp [enumLines, hline, ih hbefore]

theorem enumLines_inside {body rest : List String} (h : Block.closing ∉ body) :
    enumLines true (body ++ Block.closing :: rest) = body ++ enumLines false rest := by
  induction body with
  | nil => simp [enumLines]
  | cons line body ih =>
      have hline : line ≠ Block.closing := fun heq => h (heq ▸ List.mem_cons_self)
      have hbody : Block.closing ∉ body := fun hmem => h (List.mem_cons_of_mem _ hmem)
      simp [enumLines, hline, ih hbody]

/-- Among enumerations, the lines of their items are found. -/
theorem enumLines_blocks {blocks : List Block} {rest : List String}
    (hopening : ∀ block ∈ blocks, begins "enum " block.opening = true)
    (hclosing : ∀ block ∈ blocks, Block.closing ∉ block.items.flatten) :
    enumLines false (blocks.flatMap (fun block => block.lines ++ [""]) ++ rest) =
      blocks.flatMap (fun block => block.items.flatten) ++ enumLines false rest := by
  induction blocks with
  | nil => rfl
  | cons block blocks ih =>
      obtain ⟨hopen, hopening⟩ := List.forall_mem_cons.mp hopening
      obtain ⟨hclose, hclosing⟩ := List.forall_mem_cons.mp hclosing
      have hempty : begins "enum " "" = false := by decide
      have hlines : (block :: blocks).flatMap (fun block => block.lines ++ [""]) ++ rest =
          block.opening :: (block.items.flatten ++ Block.closing ::
            ("" :: (blocks.flatMap (fun block => block.lines ++ [""]) ++ rest))) := by
        simp [Block.lines]
      rw [hlines, enumLines, hopen, if_neg (by decide), enumLines_inside hclose, enumLines, hempty]
      simp [ih hopening hclosing]

/-! ## Constants of a dungeon -/

section Dungeon

variable {dungeon : Dungeon}

theorem items_enumBlock (dungeon : Dungeon) (table : Table) :
    (table.enumBlock dungeon).items.flatten = (table.ids dungeon).map constantLine := by
  rw [Table.enumBlock, ← map_fst_written, List.map_map, ← List.flatMap_def, ← List.map_eq_flatMap]
  rfl

theorem readEnum?_header (hids : ∀ table : Table, ∀ id ∈ table.ids dungeon, '\n' ∉ id.toList)
    (headerName : String) (table : Table) :
    table.readEnum? (tables dungeon headerName).header = some (table.ids dungeon) := by
  have hbody := (header_findable dungeon).bodyOf?_eq (enumBlock_mem dungeon table)
  rw [items_enumBlock] at hbody
  rw [Table.readEnum?, Table.readConstants?, linesOf_header hids]
  exact (congrArg (Option.bind · _) hbody).trans (mapM_constantLine _)

theorem declared?_header (hids : ∀ table : Table, ∀ id ∈ table.ids dungeon, '\n' ∉ id.toList)
    (headerName : String) :
    declared? (tables dungeon headerName).header =
      some (Table.all.flatMap fun table => table.ids dungeon) := by
  have hopening : ∀ block ∈ enumBlocks dungeon, begins "enum " block.opening = true := by
    rw [enumBlocks_eq]
    refine List.forall_mem_map.mpr fun table _ => ?_
    rw [Table.enumBlock, Table.enumOpening, String.append_assoc]
    exact begins_append _ _
  have hclosing : ∀ block ∈ enumBlocks dungeon, Block.closing ∉ block.items.flatten :=
    fun block hmem => closing_notMem_of_indented ((header_findable dungeon).indented block hmem)
  have hbefore : ∀ line ∈ typeLines, begins "enum " line = false := by decide +kernel
  have hafter : ∀ line ∈ externLines ++ [""], begins "enum " line = false := by decide +kernel
  have hlines : enumLines false (fileLines typeLines (enumBlocks dungeon) (externLines ++ [""])) =
      (Table.all.flatMap fun table => table.ids dungeon).map constantLine := by
    rw [fileLines, enumLines_outside hbefore, enumLines_blocks hopening hclosing,
      ← List.append_nil (externLines ++ [""]), enumLines_outside hafter, enumBlocks_eq,
      List.flatMap_map, List.map_flatMap]
    simp only [items_enumBlock, enumLines, List.append_nil]
  rw [declared?, linesOf_header hids, hlines, mapM_constantLine]

/-- Something is found twice in tables without repetitions exactly if two of
them share it. -/
theorem exists_two_le_count_iff (hnodup : ∀ table : Table, (table.ids dungeon).Nodup) :
    (∃ id, 2 ≤ (Table.all.flatMap fun table => table.ids dungeon).count id) ↔
      ∃ table other : Table, table ≠ other ∧ ∃ id ∈ table.ids dungeon, id ∈ other.ids dungeon := by
  have : Std.Symm (Function.onFun List.Disjoint fun table : Table => table.ids dungeon) :=
    ⟨fun _ _ h _ hmem hmem' => h hmem' hmem⟩
  have hdisjoint : (Table.all.flatMap fun table => table.ids dungeon).Nodup ↔
      ∀ table other : Table, table ≠ other →
        (table.ids dungeon).Disjoint (other.ids dungeon) := by
    rw [List.nodup_flatMap, and_iff_right fun table _ => hnodup table]
    constructor
    · intro h table other hne
      exact h.forall (Table.mem_all table) (Table.mem_all other) hne
    · intro h
      have hall : Table.all.Nodup := by decide
      exact hall.pairwise_of_forall_ne fun table _ other _ hne => h table other hne
  have hcount : (∃ id, 2 ≤ (Table.all.flatMap fun table => table.ids dungeon).count id) ↔
      ¬ (Table.all.flatMap fun table => table.ids dungeon).Nodup := by
    simp only [List.nodup_iff_count_le_one, not_forall, Nat.not_le]
    rfl
  rw [hcount, hdisjoint]
  simp only [List.Disjoint, not_forall, not_false_eq_true, exists_prop, and_true]

end Dungeon

/-- **The check agrees with what is generated.**  If no identifier holds a line
feed, a dungeon has no problems exactly if a reader finds different constants
in each enumeration, and all of them match the pattern.  A dungeon without
problems has no such identifier.  Then the constants of each enumeration are
the identifiers of the table, and a constant is declared twice in the whole
header exactly if two tables share an identifier. -/
theorem problems_eq_nil_iff_header (dungeon : Dungeon) (headerName : String) :
    ((∀ table : Table, ∀ id ∈ table.ids dungeon, '\n' ∉ id.toList) →
      (dungeon.problems = [] ↔ ∀ table : Table, ∃ constants,
        table.readEnum? (tables dungeon headerName).header = some constants ∧
          constants.Nodup ∧ ∀ constant ∈ constants, MatchesIdentifier constant)) ∧
    (dungeon.problems = [] →
      (∀ table : Table,
        table.readEnum? (tables dungeon headerName).header = some (table.ids dungeon) ∧
          (table.ids dungeon).Nodup ∧ ∀ id ∈ table.ids dungeon, MatchesIdentifier id) ∧
      ∃ constants, declared? (tables dungeon headerName).header = some constants ∧
        ((∃ constant, 2 ≤ constants.count constant) ↔
          ∃ table other : Table, table ≠ other ∧
            ∃ id ∈ table.ids dungeon, id ∈ other.ids dungeon)) := by
  constructor
  · intro hids
    simp only [readEnum?_header hids, Option.some.injEq, exists_eq_left', problems_eq_nil_iff]
    exact forall_congr' fun table => and_comm
  · intro hnone
    have htables := problems_eq_nil_iff.mp hnone
    -- An identifier that matches the pattern holds no line feed.
    have hids : ∀ table : Table, ∀ id ∈ table.ids dungeon, '\n' ∉ id.toList :=
      fun table id hmem => ((htables table).1 id hmem).newline_notMem
    refine ⟨fun table => ⟨readEnum?_header hids headerName table, (htables table).symm⟩,
      _, declared?_header hids headerName, ?_⟩
    exact exists_two_le_count_iff fun table => (htables table).2

/-- A dungeon with a message and a location of one name. -/
def sharingDungeon : Dungeon where
  arbitraryMessages := [⟨"OK_MAN", some "\x7d;\nenum"⟩, ⟨"_2", none⟩]
  classMessages := []
  turnThresholdMessages := []
  locations := [⟨"LOC_START", none⟩, ⟨"OK_MAN", none⟩]
  objectDescriptions := []
  obituaries := []

/-- The check finds no problem in it, each enumeration is as it should be, and
a constant is declared twice. -/
theorem problems_sharingDungeon :
    (∀ table : Table, ∀ id ∈ table.ids sharingDungeon, '\n' ∉ id.toList) ∧
    sharingDungeon.problems = [] ∧
    (∃ constants, Table.locations.readEnum? (tables sharingDungeon "newdb.h").header =
      some constants ∧ constants.Nodup ∧ ∀ constant ∈ constants, MatchesIdentifier constant) ∧
    ∃ constants, declared? (tables sharingDungeon "newdb.h").header = some constants ∧
      ∃ constant, 2 ≤ constants.count constant := by
  obtain ⟨hiff, hempty⟩ := problems_eq_nil_iff_header sharingDungeon "newdb.h"
  have hids : ∀ table : Table, ∀ id ∈ table.ids sharingDungeon, '\n' ∉ id.toList := by
    intro table
    cases table <;> simp [Table.ids, ids, sharingDungeon]
  have hnone : sharingDungeon.problems = [] := by decide
  obtain ⟨-, constants, hdeclared, htwice⟩ := hempty hnone
  refine ⟨hids, hnone, (hiff hids).mp hnone .locations, constants, hdeclared, htwice.mpr ?_⟩
  exact ⟨.arbitraryMessages, .locations, by decide, "OK_MAN", by decide, by decide⟩

end AdventureTables
