import AdventureTables.Code.Literal
import Mathlib.Algebra.Group.Nat.Even
/-!
# A scanner of string literals

A compiler that reads the source file finds the string literals in it without
knowing anything else of the file.  Outside a literal it skips to the next
double quote; inside one a backslash takes the next character with it, and a
double quote that no backslash took closes the literal.

The escape of a text leaves its backslashes as they are, so the literal of a
text need not close where its text ends.  Whether it does is a matter of the
runs of backslashes in the text (`Closes`): the run before each double quote
and the run at the end must be of even length.  `scan_literal_iff` says that
this is exactly when the scanner takes the literal for what it was meant to
be, whatever comes after it: a text that fails the test yields another first
literal, either a shorter one or one that runs on.
-/

namespace AdventureTables.Code

/-- Where a scanner stands; inside a literal, with what it read of it. -/
inductive Scanner where
  | outside
  | inside (read : List Char)
  /-- After a backslash that takes the next character with it. -/
  | escaped (read : List Char)

/-- The literals that a scanner finds from where it stands, unless the code
ends inside one. -/
def scan : Scanner → List Char → Option (List String)
  | .outside, [] => some []
  | .inside _, [] => none
  | .escaped _, [] => none
  | .outside, c :: rest => if c = '"' then scan (.inside []) rest else scan .outside rest
  | .inside read, c :: rest =>
    if c = '"' then (scan .outside rest).map (String.ofList read :: ·)
    else if c = '\\' then scan (.escaped (read ++ [c])) rest
    else scan (.inside (read ++ [c])) rest
  | .escaped read, c :: rest => scan (.inside (read ++ [c])) rest

/-- The literals in some code, unless it ends inside one. -/
def literalsIn (code : String) : Option (List String) :=
  scan .outside code.toList

/-- Code without double quotes is skipped. -/
theorem scan_outside_append {gap rest : List Char} (h : '"' ∉ gap) :
    scan .outside (gap ++ rest) = scan .outside rest := by
  induction gap with
  | nil => rfl
  | cons c gap ih =>
      have hc : c ≠ '"' := fun heq => h (heq ▸ List.mem_cons_self)
      have hgap : '"' ∉ gap := fun hmem => h (List.mem_cons_of_mem _ hmem)
      simp only [List.cons_append, scan, hc, if_false]
      exact ih hgap

/-- Where the scanner stands inside a literal; `odd` says whether a run of
backslashes of odd length was read last. -/
def Scanner.within (odd : Bool) (read : List Char) : Scanner :=
  if odd then .escaped read else .inside read

/-- What was read of a literal is the beginning of it. -/
theorem scan_within_begins (odd : Bool) (read : List Char) {code : List Char} {found : List String}
    (h : scan (.within odd read) code = some found) :
    ∃ more others, found = String.ofList (read ++ more) :: others := by
  induction code generalizing odd read with
  | nil => cases odd <;> simp [Scanner.within, scan] at h
  | cons c rest ih =>
      have hmore : ∀ odd, scan (.within odd (read ++ [c])) rest = some found →
          ∃ more others, found = String.ofList (read ++ more) :: others := by
        intro odd h
        obtain ⟨more, others, rfl⟩ := ih odd _ h
        exact ⟨c :: more, others, by simp⟩
      cases odd with
      | true => exact hmore false h
      | false =>
          simp only [Scanner.within, Bool.false_eq_true, if_false, scan] at h
          split at h
          · obtain ⟨others, -, rfl⟩ := Option.map_eq_some_iff.mp h
            exact ⟨[], others, by simp⟩
          · split at h
            · exact hmore true h
            · exact hmore false h

/-! ## Runs of backslashes -/

/-- The number of backslashes at the end of some characters. -/
def trailingBackslashes (read : List Char) : Nat :=
  (read.reverse.takeWhile (· = '\\')).length

/-- Whether the literal of a text closes at the end of the text and not
before: each double quote, and the end of the text, comes after a run of
backslashes of even length, which may be zero. -/
structure Closes (text : String) : Prop where
  quotes : ∀ before after, text.toList = before ++ '"' :: after →
    Even (trailingBackslashes before)
  finish : Even (trailingBackslashes text.toList)

/-- A backslash makes the run longer. -/
theorem trailingBackslashes_backslash (read : List Char) :
    trailingBackslashes (read ++ ['\\']) = trailingBackslashes read + 1 := by
  simp [trailingBackslashes]

/-- Any other character ends the run. -/
theorem trailingBackslashes_other (read : List Char) {c : Char} (h : c ≠ '\\') :
    trailingBackslashes (read ++ [c]) = 0 := by
  simp [trailingBackslashes, h]

/-- Whether a literal closes at the end of a text, by one pass over the text;
`odd` says whether a run of odd length came before. -/
def closesFrom (odd : Bool) : List Char → Bool
  | [] => !odd
  | c :: rest =>
    if c = '\\' then closesFrom (!odd) rest
    else if c = '"' then !odd && closesFrom false rest
    else closesFrom false rest

/-- A double quote is the first character of some others, or is among the
rest. -/
theorem forall_quote_cons {P : List Char → Prop} {c : Char} {text : List Char} :
    (∀ before after, c :: text = before ++ '"' :: after → P before) ↔
      (c = '"' → P []) ∧ ∀ before after, text = before ++ '"' :: after → P (c :: before) := by
  constructor
  · intro h
    refine ⟨fun hc => h [] text (by simp [hc]), ?_⟩
    intro before after heq
    exact h (c :: before) after (by simp [heq])
  · intro h before after heq
    obtain ⟨hhead, htail⟩ := h
    cases before with
    | nil => exact hhead (List.cons.inj heq).1
    | cons d before =>
        obtain ⟨rfl, htext⟩ := List.cons.inj heq
        exact htail before after htext

/-- The pass decides the rule about the runs, whatever was read before it. -/
theorem closesFrom_iff (odd : Bool) (read : List Char) {text : List Char}
    (hodd : odd = true ↔ ¬ Even (trailingBackslashes read)) :
    closesFrom odd text = true ↔
      (∀ before after, text = before ++ '"' :: after →
        Even (trailingBackslashes (read ++ before))) ∧
      Even (trailingBackslashes (read ++ text)) := by
  induction text generalizing odd read with
  | nil => cases odd <;> simp_all [closesFrom]
  | cons c text ih =>
      rw [forall_quote_cons (P := fun before => Even (trailingBackslashes (read ++ before)))]
      by_cases hback : c = '\\'
      · subst hback
        have := ih (!odd) (read ++ ['\\'])
          (by rw [trailingBackslashes_backslash, Nat.even_add_one]; cases odd <;> simp_all)
        simpa [closesFrom] using this
      · have := ih false (read ++ [c])
          (by simp [trailingBackslashes_other read hback])
        by_cases hquote : c = '"'
        · subst hquote
          cases odd <;> simp_all [closesFrom]
        · simpa [closesFrom, hback, hquote] using this

/-- The rule about the runs is decided by one pass over the text. -/
theorem closes_iff {text : String} : Closes text ↔ closesFrom false text.toList = true := by
  rw [closesFrom_iff false [] (by simp [trailingBackslashes])]
  constructor
  · intro h
    exact ⟨by simpa using h.quotes, by simpa using h.finish⟩
  · intro h
    obtain ⟨hquotes, hfinish⟩ := h
    exact ⟨by simpa using hquotes, by simpa using hfinish⟩

instance (text : String) : Decidable (Closes text) :=
  decidable_of_iff _ closes_iff.symm

/-! ## The literal of a text -/

/-- An escaped character that is neither a backslash nor a double quote is
read as it is, and ends a run. -/
theorem scan_escapeChar {c : Char} (hback : c ≠ '\\') (hquote : c ≠ '"') (odd : Bool)
    (read rest : List Char) :
    scan (.within odd read) (escapeChar c ++ rest) =
      scan (.inside (read ++ escapeChar c)) rest := by
  unfold escapeChar
  split <;> cases odd <;> simp_all [Scanner.within, scan]

/-- The scanner finds the escape of a text, and what follows it, exactly if
the literal closes at the end of the text. -/
theorem scan_within_iff (odd : Bool) (read : List Char) {text rest : List Char}
    {found : List String} :
    scan (.within odd read) (text.flatMap escapeChar ++ '"' :: rest) =
        some (String.ofList (read ++ text.flatMap escapeChar) :: found) ↔
      closesFrom odd text = true ∧ scan .outside rest = some found := by
  induction text generalizing odd read with
  | nil =>
      cases odd with
      | false => simp [Scanner.within, scan, closesFrom]
      | true =>
          -- The closing quote is taken for a part of the literal.
          simp only [closesFrom, Bool.not_true, Bool.false_eq_true, false_and, iff_false]
          intro h
          obtain ⟨more, others, heq⟩ := scan_within_begins false (read ++ ['"']) h
          have hlen := congrArg List.length (String.ofList_injective (List.cons.inj heq).1)
          simp at hlen
  | cons c text ih =>
      simp only [List.flatMap_cons, List.append_assoc]
      by_cases hback : c = '\\'
      · subst hback
        have := ih (!odd) (read ++ ['\\'])
        cases odd <;> simpa [Scanner.within, scan, escapeChar, closesFrom] using this
      · by_cases hquote : c = '"'
        · subst hquote
          cases odd with
          | false =>
              have := ih false (read ++ ['\\', '"'])
              simpa [Scanner.within, scan, escapeChar, closesFrom] using this
          | true =>
              -- The double quote of the text closes the literal too early.
              have hlong : ∀ more, String.ofList (read ++ ['\\']) ≠
                  String.ofList (read ++ '\\' :: '"' :: more) := by
                intro more heq
                have hlen := congrArg List.length (String.ofList_injective heq)
                simp at hlen
              simp [Scanner.within, scan, escapeChar, closesFrom, hlong, -String.ofList_append,
                -String.ofList_cons]
        · rw [scan_escapeChar hback hquote]
          have := ih false (read ++ escapeChar c)
          simpa [Scanner.within, closesFrom, hback, hquote] using this

/-- The scanner takes the literal of a text for the escape of that text, and
finds the same literals after it as by itself, exactly if the literal closes at
the end of the text. -/
theorem scan_literal_iff {text : String} {rest : List Char} {found : List String} :
    scan .outside ((literal text).toList ++ rest) = some (escape text :: found) ↔
      Closes text ∧ scan .outside rest = some found := by
  rw [closes_iff, ← scan_within_iff false []]
  simp [literal, quote, escape, scan, Scanner.within]

/-- Quotes in a text are harmless, a backslash at its end is not. -/
example : Closes "say \"hello\"" ∧ ¬ Closes "back\\" := by decide

end AdventureTables.Code
