import AdventureTables.Proofs.Code.Layout
import Mathlib.Data.List.Nodup
/-!
# A reader of generated code

The reader knows nothing of the writer but the lines that open and close
things.  It cuts a text at its line feeds (`linesOf`), looks for the line that
opens a block and takes what is before the next closing line (`bodyOf?`), and
cuts that into records, each from a line that opens one to the next line that
closes one (`records`).

It gives back what was written wherever these lines cannot be taken for
others.  For a file of several blocks this is said by `Findable`: all lines
inside the blocks are indented, no block is opened twice, and no line between
the blocks opens one.
-/

namespace AdventureTables.Code

/-! ## Lines -/

/-- What is between the line feeds of a text. -/
def linesOf (text : String) : List String :=
  (text.toList.splitOn '\n').map String.ofList

/-- Lines that each end in a line feed are what is between line feeds, with
nothing behind the last one. -/
theorem toList_unlines (lines : List String) :
    (unlines lines).toList = ['\n'].intercalate ((lines ++ [""]).map String.toList) := by
  induction lines with
  | nil => simp [unlines]
  | cons line lines ih =>
      have hcons : unlines (line :: lines) = line ++ "\n" ++ unlines lines := by
        simp [unlines]
      have hne : (lines ++ [""]).map String.toList ≠ [] := by simp
      rw [hcons, String.toList_append, String.toList_append, ih, List.cons_append, List.map_cons]
      obtain ⟨first, rest, hrest⟩ := List.exists_cons_of_ne_nil hne
      simp [hrest, List.intercalate]

/-- Lines without line feeds are read back, with nothing behind the last
one. -/
theorem linesOf_unlines {lines : List String} (h : ∀ line ∈ lines, OneLine line) :
    linesOf (unlines lines) = lines ++ [""] := by
  have hpieces : ∀ piece ∈ (lines ++ [""]).map String.toList, '\n' ∉ piece := by
    intro piece hmem
    obtain ⟨line, hline, rfl⟩ := List.mem_map.mp hmem
    rcases List.mem_append.mp hline with hline | hline
    · exact h line hline
    · simp [List.mem_singleton.mp hline]
  rw [linesOf, toList_unlines, List.splitOn_intercalate '\n' hpieces (by simp)]
  simp [Function.comp_def]

/-! ## Blocks -/

/-- The lines from the one that opens a block to the next closing one, without
these two. -/
def bodyOf? (opening : String) (lines : List String) : Option (List String) :=
  match lines.dropWhile (· ≠ opening) with
  | [] => none
  | _ :: rest =>
    if Block.closing ∈ rest then some (rest.takeWhile (· ≠ Block.closing)) else none

/-- A block that is opened for the first time, and in which no line closes it,
is read back. -/
theorem bodyOf?_eq_some {before after : List String} {block : Block}
    (hfirst : block.opening ∉ before) (hclosing : Block.closing ∉ block.items.flatten) :
    bodyOf? block.opening (before ++ (block.lines ++ after)) = some block.items.flatten := by
  have hskip : ∀ line ∈ before, decide (line ≠ block.opening) = true := by
    intro line hmem
    have hne : line ≠ block.opening := fun heq => hfirst (heq ▸ hmem)
    simpa using hne
  have htake : ∀ line ∈ block.items.flatten, decide (line ≠ Block.closing) = true := by
    intro line hmem
    have hne : line ≠ Block.closing := fun heq => hclosing (heq ▸ hmem)
    simpa using hne
  have hdrop : (before ++ (block.lines ++ after)).dropWhile (· ≠ block.opening) =
      block.opening :: (block.items.flatten ++ Block.closing :: after) := by
    rw [List.dropWhile_append_of_pos hskip]
    simp [Block.lines]
  rw [bodyOf?, hdrop]
  simp only [List.mem_append, List.mem_cons_self, or_true, if_true]
  rw [List.takeWhile_append_of_pos htake]
  simp

/-! ## Records -/

/-- The line that opens a record. -/
def recordOpening : String := "  \x7b"

/-- The line that closes a record. -/
def recordClosing : String := "  \x7d,"

/-- The records that some lines are, if they are records, `read` being the
lines of the one that is open. -/
def records : Option (List String) → List String → Option (List (List String))
  | none, [] => some []
  | some _, [] => none
  | none, line :: rest => if line = recordOpening then records (some [line]) rest else none
  | some read, line :: rest =>
    if line = recordClosing then (records none rest).map ((read ++ [line]) :: ·)
    else records (some (read ++ [line])) rest

/-- The lines of one record. -/
def IsRecord (lines : List String) : Prop :=
  ∃ fields, lines = recordOpening :: (fields ++ [recordClosing]) ∧ recordClosing ∉ fields

/-- A record that is open ends at the first line that closes one. -/
theorem records_open {read fields rest : List String} (h : recordClosing ∉ fields) :
    records (some read) (fields ++ recordClosing :: rest) =
      (records none rest).map ((read ++ fields ++ [recordClosing]) :: ·) := by
  induction fields generalizing read with
  | nil => simp [records]
  | cons line fields ih =>
      have hline : line ≠ recordClosing := fun heq => h (heq ▸ List.mem_cons_self)
      have hfields : recordClosing ∉ fields := fun hmem => h (List.mem_cons_of_mem _ hmem)
      simp [records, hline, ih hfields]

theorem records_flatten {items : List (List String)} (h : ∀ item ∈ items, IsRecord item) :
    records none items.flatten = some items := by
  induction items with
  | nil => rfl
  | cons item items ih =>
      obtain ⟨hitem, hitems⟩ := List.forall_mem_cons.mp h
      obtain ⟨fields, rfl, hfields⟩ := hitem
      have hlines : (recordOpening :: (fields ++ [recordClosing])) ++ items.flatten =
          recordOpening :: (fields ++ recordClosing :: items.flatten) := by simp
      rw [List.flatten_cons, hlines, records, if_pos rfl, records_open hfields, ih hitems]
      simp

/-! ## Files -/

/-- The lines of a file of blocks, with an empty line behind each. -/
def fileLines (before : List String) (blocks : List Block) (after : List String) : List String :=
  before ++ (blocks.flatMap (fun block => block.lines ++ [""]) ++ after)

/-- The blocks of a file can be told from each other and from what is around
them: inside a block all lines are indented, and the line that opens it is not
and occurs nowhere else. -/
structure Findable (before : List String) (blocks : List Block) (after : List String) :
    Prop where
  indented : ∀ block ∈ blocks, ∀ line ∈ block.items.flatten, Indented line
  plain : ∀ block ∈ blocks, ¬ Indented block.opening
  named : ∀ block ∈ blocks, block.opening ≠ "" ∧ block.opening ≠ Block.closing
  nodup : (blocks.map Block.opening).Nodup
  notMem_before : ∀ block ∈ blocks, block.opening ∉ before
  notMem_after : ∀ block ∈ blocks, block.opening ∉ after

/-- Among blocks with indented lines inside, what is not indented occurs as
often as it opens a block. -/
theorem count_blocks {line : String} {blocks : List Block}
    (hindented : ∀ block ∈ blocks, ∀ inner ∈ block.items.flatten, Indented inner)
    (hplain : ¬ Indented line) (hnamed : line ≠ "" ∧ line ≠ Block.closing) :
    (blocks.flatMap fun block => block.lines ++ [""]).count line =
      (blocks.map Block.opening).count line := by
  induction blocks with
  | nil => rfl
  | cons block blocks ih =>
      obtain ⟨hblock, hblocks⟩ := List.forall_mem_cons.mp hindented
      -- All lines of the items are indented, so it cannot be one of them.
      have hinner : line ∉ block.items.flatten := fun hmem => hplain (hblock line hmem)
      have hlines : (block.lines ++ [""]).count line =
          if block.opening == line then 1 else 0 := by
        simp [Block.lines, List.count_cons, List.count_eq_zero_of_not_mem hinner, hnamed.1.symm,
          hnamed.2.symm]
      rw [List.flatMap_cons, List.count_append, hlines, ih hblocks, List.map_cons,
        List.count_cons, Nat.add_comm]

section Findable

variable {before after : List String} {blocks : List Block} {block : Block}

theorem Findable.count_opening (h : Findable before blocks after) (hblock : block ∈ blocks) :
    (fileLines before blocks after).count block.opening = 1 := by
  have hbefore := List.count_eq_zero_of_not_mem (h.notMem_before block hblock)
  have hafter := List.count_eq_zero_of_not_mem (h.notMem_after block hblock)
  have honce := List.count_eq_one_of_mem h.nodup (List.mem_map_of_mem hblock)
  have hblocks := count_blocks h.indented (h.plain block hblock) (h.named block hblock)
  rw [fileLines, List.count_append, List.count_append, hbefore, hafter, hblocks, honce]

/-- Each block is found, and ends where it was closed. -/
theorem Findable.bodyOf?_eq (h : Findable before blocks after) (hblock : block ∈ blocks) :
    bodyOf? block.opening (fileLines before blocks after) = some block.items.flatten := by
  obtain ⟨earlier, later, rfl⟩ := List.append_of_mem hblock
  have hsplit : fileLines before (earlier ++ block :: later) after =
      (before ++ earlier.flatMap fun block => block.lines ++ [""]) ++
        (block.lines ++ ("" :: (later.flatMap fun block => block.lines ++ [""]) ++ after)) := by
    simp [fileLines]
  -- The block itself has the one line that opens it, so there is none before.
  have honce := h.count_opening hblock
  have hfirst : block.opening ∉ before ++ earlier.flatMap fun block => block.lines ++ [""] := by
    intro hmem
    have hearlier := List.count_pos_iff.mpr hmem
    have hself : 0 < (block.lines ++ ("" :: (later.flatMap fun block => block.lines ++ [""]) ++
        after)).count block.opening := List.count_pos_iff.mpr (by simp [Block.lines])
    rw [hsplit, List.count_append] at honce
    omega
  rw [hsplit]
  exact bodyOf?_eq_some hfirst (closing_notMem_of_indented (h.indented block hblock))

/-- What a reader looks for outside the blocks is found there. -/
theorem Findable.filter_eq (h : Findable before blocks after) {wanted : String → Bool}
    (hindented : ∀ line, Indented line → wanted line = false) (hempty : wanted "" = false)
    (hclosing : wanted Block.closing = false)
    (hopening : ∀ block ∈ blocks, wanted block.opening = false) :
    (fileLines before blocks after).filter wanted =
      before.filter wanted ++ after.filter wanted := by
  have hblocks : (blocks.flatMap fun block => block.lines ++ [""]).filter wanted = [] := by
    refine List.filter_eq_nil_iff.mpr fun line hmem => ?_
    obtain ⟨block, hblock, hline⟩ := List.mem_flatMap.mp hmem
    rw [Block.lines, List.cons_append, List.append_assoc, List.mem_cons, List.mem_append] at hline
    rw [Bool.not_eq_true]
    rcases hline with rfl | hline | hline
    · exact hopening block hblock
    · exact hindented line (h.indented block hblock line hline)
    · have hend : line = Block.closing ∨ line = "" := by simpa using hline
      rcases hend with rfl | rfl
      · exact hclosing
      · exact hempty
  rw [fileLines, List.filter_append, List.filter_append, hblocks, List.nil_append]

end Findable

end AdventureTables.Code
