import AdventureTables.Proofs.Code.Alignment
import AdventureTables.Proofs.Dungeon.Identifiers
import AdventureTables.Proofs.Reading.Reordering
/-!
# Tables in another order

The entries of a dungeon reach the generated files in one place each, or in
two: an initialiser in the array of their collection, and a constant in its
enumeration if it is a table.  Nothing else in the files depends on an entry;
the two counts depend on how many there are.  So a document whose items are
written in another order has the same files as before, with the pieces of its
collection in that order (`OnlyRearranged`).
-/

namespace AdventureTables

open Code
open Yaml (Value)

/-! ## Collections -/

/-- The collections of a dungeon: the tables, and the obituaries. -/
inductive Collection where
  | ofTable (table : Table)
  | obituaries
  deriving DecidableEq, Repr

/-- The collections in the order of their arrays. -/
def Collection.all : List Collection :=
  Table.all.map .ofTable ++ [.obituaries]

/-- The name of a collection, in a document and in the generated code. -/
def Collection.name : Collection → String
  | .ofTable table => table.name
  | .obituaries => "obituaries"

/-- The array of a collection. -/
def Collection.arrayBlock (dungeon : Dungeon) : Collection → Block
  | .ofTable table => table.arrayBlock dungeon
  | .obituaries => obituaryBlock dungeon.obituaries

/-- A block with its items in another order. -/
def Code.Block.arranged (order : List Nat) (block : Block) : Block :=
  { block with items := arrange order block.items }

/-- Two texts are the same, but for the items of one block, which a permutation
of their places puts in another order. -/
def OnlyRearranged (order : List Nat) (block : Block) (text text' : String) : Prop :=
  order.Perm (List.range block.items.length) ∧
    ∃ before after, text = before ++ unlines block.lines ++ after ∧
      text' = before ++ unlines (block.arranged order).lines ++ after

theorem Collection.mem_all (collection : Collection) : collection ∈ Collection.all := by
  cases collection with
  | ofTable table => exact List.mem_append_left _ (List.mem_map_of_mem (Table.mem_all table))
  | obituaries => exact List.mem_append_right _ List.mem_cons_self

/-- No two collections have the same name. -/
theorem Collection.name_injective : Function.Injective Collection.name := by
  have hall : ∀ c ∈ Collection.all, ∀ d ∈ Collection.all, c.name = d.name → c = d := by
    decide +kernel
  exact fun c d h => hall c c.mem_all d d.mem_all h

theorem arrayBlocks_eq_collections (dungeon : Dungeon) :
    arrayBlocks dungeon = Collection.all.map (Collection.arrayBlock dungeon) := by
  rw [arrayBlocks_eq, Collection.all, List.map_append, List.map_map]
  rfl

/-! ## Blocks of a dungeon in another order -/

section Blocks

variable {name : String} {order : List Nat} {dungeon : Dungeon}

theorem arrangeNamed_map {α β : Type} (f : α → β) {given : String} (things : List α) :
    arrangeNamed name given order (things.map f) =
      (arrangeNamed name given order things).map f := by
  simp only [arrangeNamed, arrange_map, apply_ite (List.map f)]

theorem written_arranged (table : Table) :
    table.written (dungeon.arranged name order) =
      arrangeNamed name table.name order (table.written dungeon) := by
  cases table <;> exact (arrangeNamed_map _ _).symm

theorem enumBlock_arranged (table : Table) :
    table.enumBlock (dungeon.arranged name order) =
      { table.enumBlock dungeon with
        items := arrangeNamed name table.name order (table.enumBlock dungeon).items } := by
  rw [Table.enumBlock, written_arranged, ← arrangeNamed_map]
  rfl

theorem arrayBlock_arranged (collection : Collection) :
    collection.arrayBlock (dungeon.arranged name order) =
      { collection.arrayBlock dungeon with
        items :=
          arrangeNamed name collection.name order (collection.arrayBlock dungeon).items } := by
  cases collection with
  | ofTable table =>
      rw [Collection.arrayBlock, Table.arrayBlock, written_arranged, ← arrangeNamed_map]
      rfl
  | obituaries =>
      rw [Collection.arrayBlock, obituaryBlock, Dungeon.arranged, ← arrangeNamed_map]
      rfl

theorem enumBlock_arranged_self (table : Table) :
    table.enumBlock (dungeon.arranged table.name order) =
      (table.enumBlock dungeon).arranged order := by
  rw [enumBlock_arranged, arrangeNamed, if_pos rfl, Block.arranged]

theorem enumBlock_arranged_of_ne {table : Table} (h : table.name ≠ name) :
    table.enumBlock (dungeon.arranged name order) = table.enumBlock dungeon := by
  rw [enumBlock_arranged, arrangeNamed, if_neg h]

theorem arrayBlock_arranged_self (collection : Collection) :
    collection.arrayBlock (dungeon.arranged collection.name order) =
      (collection.arrayBlock dungeon).arranged order := by
  rw [arrayBlock_arranged, arrangeNamed, if_pos rfl, Block.arranged]

theorem arrayBlock_arranged_of_ne {collection : Collection} (h : collection.name ≠ name) :
    collection.arrayBlock (dungeon.arranged name order) = collection.arrayBlock dungeon := by
  rw [arrayBlock_arranged, arrangeNamed, if_neg h]

end Blocks

/-! ## Numbers of entries -/

section Numbers

variable {order : List Nat} {dungeon : Dungeon}

/-- A collection has an initialiser for each of the items in the document. -/
theorem length_arrayBlock {document : Value} (h : Dungeon.ofValue document = .ok dungeon)
    (collection : Collection) :
    (collection.arrayBlock dungeon).items.length = (itemsIn collection.name document).length := by
  obtain ⟨pairs, hpairs, -, hmeans⟩ := exists_pairs_of_ofValue h
  cases collection with
  | obituaries => exact (List.length_map _).trans (hmeans.obituaries.length_eq hpairs)
  | ofTable table =>
      rw [Collection.arrayBlock, Table.arrayBlock, List.length_map]
      cases table with
      | arbitraryMessages =>
          exact (List.length_map _).trans (hmeans.arbitraryMessages.length_eq hpairs)
      | classMessages => exact (List.length_map _).trans (hmeans.classMessages.length_eq hpairs)
      | turnThresholdMessages =>
          exact (List.length_map _).trans (hmeans.turnThresholdMessages.length_eq hpairs)
      | locations => exact (List.length_map _).trans (hmeans.locations.length_eq hpairs)
      | objectDescriptions =>
          exact (List.length_map _).trans (hmeans.objectDescriptions.length_eq hpairs)

/-- No collection has more or fewer initialisers in another order. -/
theorem length_arrayBlock_arranged {collection : Collection}
    (h : order.Perm (List.range (collection.arrayBlock dungeon).items.length))
    (other : Collection) :
    (other.arrayBlock (dungeon.arranged collection.name order)).items.length =
      (other.arrayBlock dungeon).items.length := by
  by_cases hname : other.name = collection.name
  · obtain rfl := Collection.name_injective hname
    rw [arrayBlock_arranged_self]
    exact length_arrange h
  · rw [arrayBlock_arranged_of_ne hname]

theorem classCount_eq_length (dungeon : Dungeon) :
    dungeon.classCount = ((Collection.ofTable .classMessages).arrayBlock dungeon).items.length := by
  simp [Dungeon.classCount, Collection.arrayBlock, Table.arrayBlock, Table.written]

theorem maximumDeaths_eq_length (dungeon : Dungeon) :
    dungeon.maximumDeaths = (Collection.obituaries.arrayBlock dungeon).items.length := by
  simp [Dungeon.maximumDeaths, Collection.arrayBlock, obituaryBlock]

end Numbers

/-! ## Files -/

/-- In a file one of whose blocks is in another order, nothing else is
different. -/
theorem onlyRearranged_of_blocks {α : Type} {all : List α} {a : α} {blocks blocks' : α → Block}
    {order : List Nat} (hall : all.Nodup) (hmem : a ∈ all)
    (hperm : order.Perm (List.range (blocks a).items.length))
    (hblock : blocks' a = (blocks a).arranged order)
    (hothers : ∀ b, b ≠ a → blocks' b = blocks b) (first last : List String) :
    OnlyRearranged order (blocks a)
      (unlines (first ++ (all.map blocks).flatMap (fun block => block.lines ++ [""]) ++ last))
      (unlines
        (first ++ (all.map blocks').flatMap (fun block => block.lines ++ [""]) ++ last)) := by
  -- The block that differs stands at one place, and all blocks before and after it agree.
  obtain ⟨before, after, rfl⟩ := List.append_of_mem hmem
  obtain ⟨-, hafter, hdisjoint⟩ := List.nodup_append'.mp hall
  have hbefore : before.map blocks' = before.map blocks := by
    refine List.map_congr_left fun b hb => hothers b ?_
    rintro rfl
    exact hdisjoint hb List.mem_cons_self
  have hrest : after.map blocks' = after.map blocks := by
    refine List.map_congr_left fun b hb => hothers b ?_
    rintro rfl
    exact (List.nodup_cons.mp hafter).1 hb
  refine ⟨hperm, unlines (first ++ (before.map blocks).flatMap fun block => block.lines ++ [""]),
    unlines ("" :: (after.map blocks).flatMap (fun block => block.lines ++ [""]) ++ last), ?_, ?_⟩
  · simp [← unlines_append]
  · simp [← unlines_append, hbefore, hrest, hblock]

/-- **The order of a collection is the order of its output.**  If the items of
one collection of an accepted document are permuted, the document is accepted
and has the same files, but that the initialisers of the collection are
permuted like the items, and so are its constants if it is a table. -/
theorem tables_arrangeDocument {document : Value} {dungeon : Dungeon}
    (hread : Dungeon.ofValue document = .ok dungeon) (collection : Collection)
    {order : List Nat}
    (horder : order.Perm (List.range (itemsIn collection.name document).length))
    (headerName : String) :
    ∃ dungeon', Dungeon.ofValue (arrangeDocument collection.name order document) = .ok dungeon' ∧
      (∀ table, collection = .ofTable table →
        OnlyRearranged order (table.enumBlock dungeon) (tables dungeon headerName).header
          (tables dungeon' headerName).header) ∧
      (collection = .obituaries →
        (tables dungeon' headerName).header = (tables dungeon headerName).header) ∧
      OnlyRearranged order (collection.arrayBlock dungeon) (tables dungeon headerName).source
        (tables dungeon' headerName).source := by
  have hperm : order.Perm (List.range (collection.arrayBlock dungeon).items.length) := by
    rwa [length_arrayBlock hread]
  have htables : ∀ table, .ofTable table ≠ collection →
      table.enumBlock (dungeon.arranged collection.name order) = table.enumBlock dungeon :=
    fun table hne => enumBlock_arranged_of_ne fun hname => hne (Collection.name_injective hname)
  refine ⟨dungeon.arranged collection.name order, ofValue_arrangeDocument hread _ order, ?_, ?_, ?_⟩
  · rintro table rfl
    have hconstants : order.Perm (List.range (table.enumBlock dungeon).items.length) := by
      simpa [Table.enumBlock, Collection.arrayBlock, Table.arrayBlock] using hperm
    have hself : table.enumBlock (dungeon.arranged (Collection.ofTable table).name order) =
        (table.enumBlock dungeon).arranged order := enumBlock_arranged_self table
    have hheader := onlyRearranged_of_blocks (by decide) (Table.mem_all table) hconstants hself
      (fun other hne => htables other (by simpa using hne)) typeLines externLines
    simpa only [tables, headerLines, enumBlocks_eq] using hheader
  · rintro rfl
    have hblocks : enumBlocks (dungeon.arranged Collection.obituaries.name order) =
        enumBlocks dungeon := by
      rw [enumBlocks_eq, enumBlocks_eq]
      exact List.map_congr_left fun table _ => htables table (by simp)
    rw [tables, tables, headerLines, headerLines, hblocks]
  · have hothers : ∀ other : Collection, other ≠ collection →
        other.arrayBlock (dungeon.arranged collection.name order) = other.arrayBlock dungeon :=
      fun other hne => arrayBlock_arranged_of_ne fun hname =>
        hne (Collection.name_injective hname)
    have hsource := onlyRearranged_of_blocks (by decide) collection.mem_all hperm
      (arrayBlock_arranged_self collection) hothers [includeLine headerName, ""]
      [classCountLine dungeon.classCount, "", maximumDeathsLine dungeon.maximumDeaths]
    -- The last lines of the file hold counts, which a permutation does not change.
    have hclasses : (dungeon.arranged collection.name order).classCount = dungeon.classCount := by
      simp only [classCount_eq_length, length_arrayBlock_arranged hperm]
    have hdeaths : (dungeon.arranged collection.name order).maximumDeaths =
        dungeon.maximumDeaths := by
      simp only [maximumDeaths_eq_length, length_arrayBlock_arranged hperm]
    simpa only [tables, sourceLines, arrayBlocks_eq_collections, hclasses, hdeaths] using hsource

/-- A document with two classes, and tags around the whole and the classes. -/
def rankedDocument : Value :=
  .tagged "!dungeon" (.map [(.string "arbitrary_messages", .null),
    (.tagged "!ranks" (.string "class_messages"), .tagged "!!omap" (.seq
      [.map [(.string "NOVICE", .string "You are obviously a rank amateur.")],
        .map [(.string "EXPERIENCED", .string "Your score qualifies you.")]])),
    (.string "turn_threshold_messages", .null), (.string "locations", .null),
    (.string "object_descriptions", .null), (.string "obituaries", .seq [])])

/-- The dungeon that is read from it. -/
def rankedDungeon : Dungeon where
  arbitraryMessages := []
  classMessages := [⟨"NOVICE", some "You are obviously a rank amateur."⟩,
    ⟨"EXPERIENCED", some "Your score qualifies you."⟩]
  turnThresholdMessages := []
  locations := []
  objectDescriptions := []
  obituaries := []

/-- The two classes change places, in the document and in both files. -/
theorem tables_rankedDocument :
    Dungeon.ofValue rankedDocument = .ok rankedDungeon ∧
    [1, 0].Perm (List.range (itemsIn "class_messages" rankedDocument).length) ∧
    ∃ dungeon', Dungeon.ofValue (arrangeDocument "class_messages" [1, 0] rankedDocument) =
        .ok dungeon' ∧
      OnlyRearranged [1, 0] ⟨"enum class_messages_refs \x7b", [["  NOVICE,"], ["  EXPERIENCED,"]]⟩
        (tables rankedDungeon "newdb.h").header (tables dungeon' "newdb.h").header ∧
      OnlyRearranged [1, 0] ⟨"const char* class_messages[] = \x7b",
          [["  \"You are obviously a rank amateur.\","], ["  \"Your score qualifies you.\","]]⟩
        (tables rankedDungeon "newdb.h").source (tables dungeon' "newdb.h").source := by
  have hread : Dungeon.ofValue rankedDocument = .ok rankedDungeon := by rfl
  have horder : [1, 0].Perm (List.range (itemsIn "class_messages" rankedDocument).length) :=
    .swap 0 1 []
  obtain ⟨dungeon', hread', hheader, -, hsource⟩ :=
    tables_arrangeDocument hread (.ofTable .classMessages) horder "newdb.h"
  exact ⟨hread, horder, dungeon', hread', hheader _ rfl, hsource⟩

end AdventureTables
