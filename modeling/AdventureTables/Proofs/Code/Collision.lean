import AdventureTables.Proofs.Code.Denotation
import Mathlib.Data.List.Basic
import Mathlib.Data.Set.Operations
/-!
# Which texts are written alike

Two different texts may have the same escape.  A line feed or a tab is written
as a backslash and a letter, and a text that has the backslash and the letter is
written the same.  There is no other way: the two quotes are escaped as well,
but a quote that is written always has the backslash of its escape before it, so
the escapes of quotes can be taken out again, however many backslashes of the
text come before them (`unquoted_flatMap`).

So escaping is done in two steps, of which only the first one forgets anything:
line feeds and tabs are spelled out (`spelled`), and then the quotes are
escaped.
-/

namespace AdventureTables.Code

/-! ## Two steps -/

/-- A character, with a line feed or a tab spelled out. -/
def spellChar : Char → List Char
  | '\n' => ['\\', 'n']
  | '\t' => ['\\', 't']
  | c => [c]

/-- A text with each line feed replaced by a backslash and an `n`, and each tab
by a backslash and a `t`. -/
def spelled (text : String) : String :=
  String.ofList (text.toList.flatMap spellChar)

/-- A character, with a backslash before it if it is a quote. -/
def quoteChar : Char → List Char
  | '"' => ['\\', '"']
  | '\'' => ['\\', '\'']
  | c => [c]

theorem escapeChar_eq_flatMap (c : Char) : escapeChar c = (spellChar c).flatMap quoteChar := by
  unfold escapeChar spellChar
  split
  · rfl
  · rfl
  · rfl
  · rfl
  · simp [quoteChar]

/-- Quotes are escaped after line feeds and tabs are spelled out. -/
theorem escape_eq (text : String) :
    escape text = String.ofList ((spelled text).toList.flatMap quoteChar) := by
  have hchars : escapeChar = fun c => (spellChar c).flatMap quoteChar :=
    funext escapeChar_eq_flatMap
  simp [escape, spelled, List.flatMap_assoc, hchars]

/-! ## The step that forgets nothing -/

/-- Some characters without the backslashes that come right before a quote. -/
def unquoted : List Char → List Char
  | '\\' :: '"' :: rest => '"' :: unquoted rest
  | '\\' :: '\'' :: rest => '\'' :: unquoted rest
  | c :: rest => c :: unquoted rest
  | [] => []

theorem unquoted_cons {c : Char} (h : c ≠ '\\') (rest : List Char) :
    unquoted (c :: rest) = c :: unquoted rest := by
  simp [unquoted, h]

/-- What is written for a text never begins with a quote. -/
theorem head?_flatMap_quoteChar (text : List Char) :
    (text.flatMap quoteChar).head? ≠ some '"' ∧ (text.flatMap quoteChar).head? ≠ some '\'' := by
  cases text with
  | nil => simp
  | cons c text =>
      rw [List.flatMap_cons]
      unfold quoteChar
      split <;> simp_all

theorem unquoted_backslash {rest : List Char}
    (h : rest.head? ≠ some '"' ∧ rest.head? ≠ some '\'') :
    unquoted ('\\' :: rest) = '\\' :: unquoted rest := by
  cases rest with
  | nil => rfl
  | cons c rest => simp_all [unquoted]

/-- Escaped quotes can be told from the backslashes of the text. -/
theorem unquoted_flatMap (text : List Char) : unquoted (text.flatMap quoteChar) = text := by
  induction text with
  | nil => rfl
  | cons c text ih =>
      rw [List.flatMap_cons]
      by_cases hdouble : c = '"'
      · subst hdouble
        simp [quoteChar, unquoted, ih]
      by_cases hsingle : c = '\''
      · subst hsingle
        simp [quoteChar, unquoted, ih]
      have hplain : quoteChar c = [c] := by
        unfold quoteChar
        split <;> simp_all
      rw [hplain, List.singleton_append]
      by_cases hback : c = '\\'
      · subst hback
        rw [unquoted_backslash (head?_flatMap_quoteChar text), ih]
      · rw [unquoted_cons hback, ih]

theorem escape_inj_spelled {s t : String} : escape s = escape t ↔ spelled s = spelled t := by
  constructor
  · intro h
    rw [escape_eq, escape_eq] at h
    have hsame := congrArg unquoted (String.ofList_injective h)
    rw [unquoted_flatMap, unquoted_flatMap] at hsame
    exact String.toList_injective hsame
  · intro h
    rw [escape_eq, escape_eq, h]

/-! ## Texts that no other text is taken for -/

/-- A text without line feeds and tabs has nothing to spell out. -/
theorem spelled_eq_self {text : String} (hline : '\n' ∉ text.toList) (htab : '\t' ∉ text.toList) :
    spelled text = text := by
  have hplain : ∀ c ∈ text.toList, spellChar c = [c] := by
    intro c hmem
    have hc : c ≠ '\n' := fun h => hline (h ▸ hmem)
    have hc' : c ≠ '\t' := fun h => htab (h ▸ hmem)
    unfold spellChar
    split <;> simp_all
  rw [spelled, List.flatMap_congr hplain, List.flatMap_singleton', String.ofList_toList]

/-- A text without backslashes is read back from its escape. -/
theorem denotedFrom?_escape {text : List Char} (h : '\\' ∉ text) :
    denotedFrom? (text.flatMap escapeChar ++ ['"']) = some text := by
  refine (denotedFrom?_escape_iff text).mpr fun i hback => ?_
  exact absurd (List.mem_of_getElem? hback) h

/-- **Which texts collide.**  Two texts have the same escape exactly if they are
the same once every line feed and every tab is spelled out.  So among texts
without backslashes different texts have different escapes, and also among texts
without line feeds and tabs, whatever backslashes and quotes are in them. -/
theorem escape_collisions :
    (∀ s t : String, escape s = escape t ↔ spelled s = spelled t) ∧
    Set.InjOn escape {text | '\\' ∉ text.toList} ∧
    Set.InjOn escape {text | '\n' ∉ text.toList ∧ '\t' ∉ text.toList} := by
  refine ⟨fun s t => escape_inj_spelled, ?_, ?_⟩
  · intro s hs t ht h
    have hchars : s.toList.flatMap escapeChar = t.toList.flatMap escapeChar :=
      String.ofList_injective h
    have hread := denotedFrom?_escape hs
    rw [hchars, denotedFrom?_escape ht] at hread
    exact String.toList_injective (Option.some.inj hread).symm
  · intro s hs t ht h
    have hsame := escape_inj_spelled.mp h
    rwa [spelled_eq_self hs.1 hs.2, spelled_eq_self ht.1 ht.2] at hsame

/-- A line feed collides with its escape, but the quotes in a text and the
backslashes before them are told apart. -/
theorem escape_backslashes :
    escape "a\nb" = escape "a\\nb" ∧
    '\n' ∉ "\\\"".toList ∧ '\t' ∉ "\\\"".toList ∧ escape "\\\"" ≠ escape "\"" := by
  obtain ⟨hiff, -, hinj⟩ := escape_collisions
  have hfree : "\\\"" ∈ {text : String | '\n' ∉ text.toList ∧ '\t' ∉ text.toList} := by
    constructor <;> decide
  refine ⟨(hiff _ _).mpr (by decide), hfree.1, hfree.2, fun h => ?_⟩
  have hsame := hinj hfree (by constructor <;> decide) h
  exact absurd hsame (by decide)

end AdventureTables.Code
