import AdventureTables.Code.Tables
import Mathlib.Data.List.Forall2
/-!
# Reading generated code line by line

A reader of a generated file cuts it at the line feeds, finds the blocks by
their opening lines, cuts each block at the next closing line, and what is
between into items.  Every cut has to be where the writer made it:

* `unlines_inj`: lines are read back if none of them holds a line feed, and
  no literal does (`oneLine_literal`);
* `block_inj`: a block ends at the first closing line if none of its items
  holds one;
* `SelfDelimiting.flatMap_inj`: items are told apart if each one shows by
  itself where it ends, be it by its height or by a last line that occurs
  nowhere else in it.

`ItemLayout` collects what a layout of items owes to such a reader.
-/

namespace AdventureTables.Code

/-- What comes before the first occurrence of a thing, and what comes after
it, can be told. -/
theorem append_cons_inj_iff {α : Type} {stop : α} {a b r s : List α} (ha : stop ∉ a)
    (hb : stop ∉ b) : a ++ stop :: r = b ++ stop :: s ↔ a = b ∧ r = s := by
  induction a generalizing b with
  | nil =>
      cases b with
      | nil => simp
      | cons x b =>
          have hx : stop ≠ x := fun heq => hb (heq ▸ List.mem_cons_self)
          simp [hx]
  | cons x a ih =>
      have hx : x ≠ stop := fun heq => ha (heq ▸ List.mem_cons_self)
      have ha' : stop ∉ a := fun hmem => ha (List.mem_cons_of_mem _ hmem)
      cases b with
      | nil => simp [hx]
      | cons y b =>
          have hb' : stop ∉ b := fun hmem => hb (List.mem_cons_of_mem _ hmem)
          simp [ih ha' hb', and_assoc]

/-! ## Lines -/

/-- A line without line feeds in it. -/
def OneLine (line : String) : Prop :=
  '\n' ∉ line.toList

/-- Lines without line feeds are read back from their text. -/
theorem unlines_inj {a b : List String} (ha : ∀ line ∈ a, OneLine line)
    (hb : ∀ line ∈ b, OneLine line) : unlines a = unlines b ↔ a = b := by
  refine ⟨fun h => ?_, fun h => h ▸ rfl⟩
  have hchars := congrArg String.toList h
  induction a generalizing b with
  | nil => cases b <;> simp_all [unlines]
  | cons line a ih =>
      cases b with
      | nil => simp [unlines] at hchars
      | cons other b =>
          obtain ⟨hline, ha⟩ := List.forall_mem_cons.mp ha
          obtain ⟨hother, hb⟩ := List.forall_mem_cons.mp hb
          simp only [unlines, List.map_cons, String.join_cons, String.toList_append,
            List.append_assoc] at hchars
          obtain ⟨hfirst, hrest⟩ := (append_cons_inj_iff hline hother).mp hchars
          rw [String.toList_inj.mp hfirst, ih ha hb (String.toList_inj.mp hrest) hrest]

/-- No escape holds a line feed. -/
theorem oneLine_escape (text : String) : OneLine (escape text) := by
  simp only [OneLine, escape, String.toList_ofList, List.mem_flatMap, not_exists, not_and]
  intro c _ hmem
  unfold escapeChar at hmem
  split at hmem <;> grind

/-- No literal holds a line feed. -/
theorem oneLine_literal (text : String) : OneLine (literal text) := by
  simpa [OneLine, literal, quote] using oneLine_escape text

/-- Nor does the null pointer. -/
theorem oneLine_literalOrNull (text : Option String) : OneLine (literalOrNull text) := by
  cases text with
  | none => simp [OneLine, literalOrNull, null]
  | some text => exact oneLine_literal text

/-- A number is written in digits. -/
theorem notMem_toString {c : Char} (hc : c.isDigit = false) (n : Nat) :
    c ∉ (toString n).toList := by
  rw [Nat.toString_eq_repr, Nat.toList_repr]
  intro hmem
  have hdigit : c.isDigit = true :=
    Nat.isDigit_of_mem_toDigits (b := 10) (n := n) (by decide) (by decide) hmem
  simp [hc] at hdigit

/-! ## Items -/

/-- Each item shows by itself where its lines end. -/
def SelfDelimiting {α β : Type} (lines : α → List β) : Prop :=
  ∀ a b r s, lines a ++ r = lines b ++ s → lines a = lines b ∧ r = s

/-- Items of one height are self-delimiting. -/
theorem selfDelimiting_of_length {α β : Type} {lines : α → List β} {n : Nat}
    (h : ∀ a, (lines a).length = n) : SelfDelimiting lines := by
  intro a b r s heq
  exact List.append_inj heq ((h a).trans (h b).symm)

/-- Items with a last line that occurs nowhere else in them are
self-delimiting. -/
theorem selfDelimiting_of_last {α β : Type} {lines : α → List β} (body : α → List β) (stop : β)
    (h : ∀ a, lines a = body a ++ [stop]) (hstop : ∀ a, stop ∉ body a) :
    SelfDelimiting lines := by
  intro a b r s heq
  rw [h a, h b] at heq
  obtain ⟨hbody, hrest⟩ := (append_cons_inj_iff (hstop a) (hstop b)).mp (by simpa using heq)
  exact ⟨by rw [h a, h b, hbody], hrest⟩

/-- Self-delimiting items are told apart in a sequence of items. -/
theorem SelfDelimiting.flatMap_inj {α β : Type} {lines : α → List β} (h : SelfDelimiting lines)
    (hne : ∀ a, lines a ≠ []) {xs ys : List α} :
    xs.flatMap lines = ys.flatMap lines ↔ xs.map lines = ys.map lines := by
  refine ⟨fun heq => ?_, fun heq => by simp only [List.flatMap_def, heq]⟩
  induction xs generalizing ys with
  | nil =>
      cases ys with
      | nil => rfl
      | cons y ys => simp [hne y] at heq
  | cons x xs ih =>
      cases ys with
      | nil => simp [hne x] at heq
      | cons y ys =>
          obtain ⟨hfirst, hrest⟩ := h x y _ _ (by simpa using heq)
          simp [hfirst, ih hrest]

/-! ## Blocks -/

/-- What a layout of items owes to a reader of blocks: an item has at least one
line, shows where it ends, and never looks like the end of the block. -/
structure ItemLayout {α : Type} (lines : α → List String) : Prop where
  nonempty : ∀ a, lines a ≠ []
  selfDelimiting : SelfDelimiting lines
  closing_notMem : ∀ a, Block.closing ∉ lines a

/-- Two blocks of one kind with something after each are the same exactly if
their items are laid out the same, and what comes after is the same. -/
theorem ItemLayout.block_inj {α : Type} {lines : α → List String} (h : ItemLayout lines)
    {opening : String} {xs ys : List α} {r s : List String} :
    (⟨opening, xs.map lines⟩ : Block).lines ++ r = (⟨opening, ys.map lines⟩ : Block).lines ++ s ↔
      xs.map lines = ys.map lines ∧ r = s := by
  have hopen : ∀ items : List α, Block.closing ∉ items.flatMap lines := by
    intro items hmem
    obtain ⟨item, -, hline⟩ := List.mem_flatMap.mp hmem
    exact h.closing_notMem item hline
  calc _ ↔ xs.flatMap lines ++ Block.closing :: r = ys.flatMap lines ++ Block.closing :: s := by
        simp [Block.lines, List.flatMap_def]
    _ ↔ xs.flatMap lines = ys.flatMap lines ∧ r = s := append_cons_inj_iff (hopen xs) (hopen ys)
    _ ↔ xs.map lines = ys.map lines ∧ r = s := by rw [h.selfDelimiting.flatMap_inj h.nonempty]

end AdventureTables.Code
