import AdventureTables.Dungeon.Problem
import Mathlib.Data.List.Nodup
/-!
# Identifiers without problems

Which texts are identifiers of C is said here by ranges of characters, as the
pattern `[A-Za-z_][A-Za-z0-9_]*` (`isIdentifier_iff`).  The check of a table
goes through its identifiers with those before in hand.  It finds nothing
exactly if all of them match the pattern and no two are the same
(`problemsFrom_eq_nil_iff`), and each table is checked by itself
(`problems_eq_nil_iff`).
-/

namespace AdventureTables

/-! ## The pattern -/

/-- `[A-Za-z_]` -/
def IsLetter (c : Char) : Prop :=
  'A' ≤ c ∧ c ≤ 'Z' ∨ 'a' ≤ c ∧ c ≤ 'z' ∨ c = '_'

/-- `[0-9]` -/
def IsDigit (c : Char) : Prop :=
  '0' ≤ c ∧ c ≤ '9'

/-- `[A-Za-z_][A-Za-z0-9_]*` -/
def MatchesIdentifier (text : String) : Prop :=
  ∃ first rest, text.toList = first :: rest ∧ IsLetter first ∧ ∀ c ∈ rest, IsLetter c ∨ IsDigit c

theorem isLetter_iff {c : Char} : (c.isAlpha || c = '_') = true ↔ IsLetter c := by
  have hupper : c.isUpper = decide ('A'.val ≤ c.val ∧ c.val ≤ 'Z'.val) := rfl
  have hlower : c.isLower = (decide ('a'.val ≤ c.val) && decide (c.val ≤ 'z'.val)) := rfl
  have halpha : c.isAlpha = (c.isUpper || c.isLower) := rfl
  simp only [halpha, hupper, hlower, IsLetter, Char.le_def, Bool.or_eq_true, Bool.and_eq_true,
    decide_eq_true_eq, or_assoc]

theorem isLetter_or_isDigit_iff {c : Char} :
    (c.isAlphanum || c = '_') = true ↔ IsLetter c ∨ IsDigit c := by
  have hdigit : c.isDigit = true ↔ IsDigit c := by
    simp only [Char.isDigit, IsDigit, Char.le_def, ge_iff_le, Bool.and_eq_true, decide_eq_true_eq]
  rw [← isLetter_iff, ← hdigit, Char.isAlphanum]
  simp only [Bool.or_eq_true]
  tauto

/-- Identifiers are the texts that match the pattern. -/
theorem isIdentifier_iff {text : String} : isIdentifier text = true ↔ MatchesIdentifier text := by
  unfold isIdentifier MatchesIdentifier
  cases text.toList with
  | nil => simp
  | cons c rest =>
      rw [Bool.and_eq_true, isLetter_iff, List.all_eq_true]
      simp only [isLetter_or_isDigit_iff, List.cons.injEq, and_assoc, exists_and_left,
        exists_eq_left']

/-- An identifier is all on one line. -/
theorem MatchesIdentifier.newline_notMem {text : String} (h : MatchesIdentifier text) :
    '\n' ∉ text.toList := by
  have hletter : ¬ IsLetter '\n' := by simp [IsLetter]
  have hdigit : ¬ IsDigit '\n' := by simp [IsDigit]
  obtain ⟨first, rest, htext, hfirst, hrest⟩ := h
  rw [htext, List.mem_cons]
  rintro (rfl | hmem)
  · exact hletter hfirst
  · exact (hrest _ hmem).elim hletter hdigit

/-! ## Tables without problems -/

/-- Nothing is found in a table exactly if all identifiers match the pattern,
and none of them was seen before. -/
theorem problemsFrom_eq_nil_iff {table : Table} {seen ids : List String} :
    problemsFrom table seen ids = [] ↔
      (∀ id ∈ ids, MatchesIdentifier id) ∧ ids.Nodup ∧ ∀ id ∈ ids, id ∉ seen := by
  induction ids generalizing seen with
  | nil => simp [problemsFrom]
  | cons id ids ih =>
      have hvalid : (if isIdentifier id then [] else [Problem.invalid table id]) = [] ↔
          MatchesIdentifier id := by
        rw [← isIdentifier_iff]
        split <;> simp_all
      have hfresh : (if seen.contains id then [Problem.duplicate table id] else []) = [] ↔
          id ∉ seen := by
        simp
      have hseen : (∀ other ∈ ids, other ∉ id :: seen) ↔
          id ∉ ids ∧ ∀ other ∈ ids, other ∉ seen := by
        simp only [List.mem_cons, not_or, forall_and, List.forall_mem_ne']
      rw [problemsFrom, List.append_eq_nil_iff, List.append_eq_nil_iff, hvalid, hfresh, ih, hseen,
        List.forall_mem_cons, List.forall_mem_cons, List.nodup_cons]
      tauto

theorem Table.mem_all (table : Table) : table ∈ Table.all := by
  cases table <;> decide

/-- Nothing is found in a dungeon exactly if nothing is found in any table. -/
theorem problems_eq_nil_iff {dungeon : Dungeon} :
    dungeon.problems = [] ↔ ∀ table : Table,
      (∀ id ∈ table.ids dungeon, MatchesIdentifier id) ∧ (table.ids dungeon).Nodup := by
  simp [Dungeon.problems, List.flatMap_eq_nil_iff, problemsFrom_eq_nil_iff, Table.mem_all]

end AdventureTables
