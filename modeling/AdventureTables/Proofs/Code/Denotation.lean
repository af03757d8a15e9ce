import AdventureTables.Code.Literal
/-!
# What a literal denotes

A compiler that has found a string literal decodes its escapes.  Writing a text
as a literal escapes everything but backslashes, so a backslash of the text is
read together with the first character that was written for its neighbour.

Mostly that is not what was meant.  Before an ordinary character the two make an
escape, and so they do at the end with the closing quote; before another
backslash they make one backslash, and the text is shorter than it was.  But
before a single quote, which is itself written with a backslash, the two
backslashes make one and the quote stands for itself, so the text survives.
`denoted?_literal_iff` says that this is the only way for a backslash to
survive: once a backslash has taken the next one with it the reader is ahead of
the text, and what it reads from there on is too short
(`length_le_of_denotedFrom?`).
-/

namespace AdventureTables.Code

/-- The character that an escape stands for. -/
def unescape? : Char → Option Char
  | 'n' => some '\n'
  | 't' => some '\t'
  | '"' => some '"'
  | '\'' => some '\''
  | '\\' => some '\\'
  | _ => none

/-- What a literal denotes, from behind its opening quote.  Nothing may follow
the closing one. -/
def denotedFrom? : List Char → Option (List Char)
  | [] => none
  | ['\\'] => none
  | '\\' :: c :: rest =>
    match unescape? c with
    | some meant => (denotedFrom? rest).map (meant :: ·)
    | none => none
  | c :: rest =>
    if c = '"' then (if rest = [] then some [] else none)
    else (denotedFrom? rest).map (c :: ·)

/-- The text that some code denotes, if it is one string literal. -/
def denoted? (code : String) : Option String :=
  match code.toList with
  | '"' :: rest => (denotedFrom? rest).map String.ofList
  | _ => none

/-- Each backslash comes right before a single quote. -/
def BackslashesQuoted (text : List Char) : Prop :=
  ∀ i : Nat, text[i]? = some '\\' → text[i + 1]? = some '\''

theorem backslashesQuoted_cons_iff {c : Char} {text : List Char} :
    BackslashesQuoted (c :: text) ↔
      (c = '\\' → text.head? = some '\'') ∧ BackslashesQuoted text := by
  constructor
  · intro h
    refine ⟨fun hc => ?_, fun i => h (i + 1)⟩
    simpa [List.head?_eq_getElem?] using h 0 (by simp [hc])
  · intro h i
    obtain ⟨hhead, htail⟩ := h
    cases i with
    | zero => simpa [List.head?_eq_getElem?] using hhead
    | succ i => exact htail i

/-! ## Reading what was written for a character -/

/-- Any character but a backslash is read as it was meant. -/
theorem denotedFrom?_escapeChar {c : Char} (h : c ≠ '\\') (rest : List Char) :
    denotedFrom? (escapeChar c ++ rest) = (denotedFrom? rest).map (c :: ·) := by
  unfold escapeChar
  split <;> simp_all [denotedFrom?, unescape?]

/-- What a backslash is read as, together with what was written for the
character after it. -/
def readTogether? : Char → Option (List Char)
  | '\n' => some ['\\', 'n']
  | '\t' => some ['\\', 't']
  | '\'' => some ['\\', '\'']
  | '\\' => some ['\\']
  | 'n' => some ['\n']
  | 't' => some ['\t']
  | _ => none

/-- A double quote after a backslash closes the literal too early, and most other
characters make no escape. -/
theorem denotedFrom?_backslash {c : Char} {rest : List Char} (hrest : rest ≠ []) :
    denotedFrom? ('\\' :: (escapeChar c ++ rest)) =
      (readTogether? c).bind fun read => (denotedFrom? rest).map (read ++ ·) := by
  by_cases hquote : c = '"'
  · subst hquote
    simp [escapeChar, readTogether?, denotedFrom?, unescape?, hrest]
  · unfold readTogether?
    split
    case h_7 =>
      have hescape : escapeChar c = [c] := by
        unfold escapeChar
        split <;> simp_all
      have hunknown : unescape? c = none := by
        unfold unescape?
        split <;> simp_all
      simp [hescape, denotedFrom?, hunknown]
    all_goals simp [escapeChar, denotedFrom?, unescape?, Function.comp_def]

/-- What was read is the text that was meant only before a single quote, or if
another backslash was swallowed. -/
theorem eq_of_readTogether? {c : Char} {read more text : List Char}
    (h : readTogether? c = some read) (hsame : read ++ more = '\\' :: c :: text) :
    c = '\'' ∧ more = text ∨ c = '\\' ∧ more = '\\' :: text := by
  unfold readTogether? at h
  split at h <;> cases h <;> simp_all

theorem length_le_of_readTogether? {c : Char} {read : List Char}
    (h : readTogether? c = some read) : read.length ≤ 2 := by
  unfold readTogether? at h
  split at h <;> cases h <;> simp

/-! ## Reading what was written for a text -/

/-- What is denoted is never longer than the text that was written, also if the
reader comes upon it right after a backslash. -/
theorem length_le_of_denotedFrom? (text : List Char) {read : List Char} :
    (denotedFrom? (text.flatMap escapeChar ++ ['"']) = some read →
      read.length ≤ text.length) ∧
    (denotedFrom? ('\\' :: (text.flatMap escapeChar ++ ['"'])) = some read →
      read.length ≤ text.length + 1) := by
  induction text generalizing read with
  | nil => simp [denotedFrom?, unescape?]
  | cons c text ih =>
      simp only [List.flatMap_cons, List.append_assoc, List.length_cons]
      constructor
      · intro h
        by_cases hback : c = '\\'
        · subst hback
          exact ih.2 h
        · rw [denotedFrom?_escapeChar hback] at h
          obtain ⟨more, hmore, rfl⟩ := Option.map_eq_some_iff.mp h
          simpa using ih.1 hmore
      · intro h
        rw [denotedFrom?_backslash (by simp)] at h
        obtain ⟨first, hfirst, h⟩ := Option.bind_eq_some_iff.mp h
        obtain ⟨more, hmore, rfl⟩ := Option.map_eq_some_iff.mp h
        have hshort := length_le_of_readTogether? hfirst
        have hrest := ih.1 hmore
        simp only [List.length_append]
        omega

/-- A reader gets the text back exactly if each backslash in it comes right
before a single quote. -/
theorem denotedFrom?_escape_iff (text : List Char) :
    denotedFrom? (text.flatMap escapeChar ++ ['"']) = some text ↔ BackslashesQuoted text := by
  induction text with
  | nil => simp [denotedFrom?, BackslashesQuoted]
  | cons c text ih =>
      rw [backslashesQuoted_cons_iff, ← ih]
      simp only [List.flatMap_cons, List.append_assoc]
      by_cases hback : c = '\\'
      · subst hback
        cases text with
        | nil => simp [escapeChar, denotedFrom?, unescape?]
        | cons d text =>
            simp only [List.flatMap_cons, List.append_assoc]
            have htogether : denotedFrom? ('\\' :: (escapeChar d ++
                (text.flatMap escapeChar ++ ['"']))) = _ := denotedFrom?_backslash (by simp)
            constructor
            · intro h
              obtain ⟨first, hfirst, h⟩ := Option.bind_eq_some_iff.mp (htogether.symm.trans h)
              obtain ⟨more, hmore, hsame⟩ := Option.map_eq_some_iff.mp h
              obtain ⟨rfl, rfl⟩ | ⟨-, rfl⟩ := eq_of_readTogether? hfirst hsame
              · simp [denotedFrom?_escapeChar, hmore]
              · -- The second backslash was swallowed, and nothing makes up for it.
                have hlen := (length_le_of_denotedFrom? text).1 hmore
                exact absurd hlen (by simp)
            · intro h
              obtain ⟨hhead, h⟩ := h
              obtain rfl : d = '\'' := by simpa using hhead
              rw [denotedFrom?_escapeChar (by decide)] at h
              obtain ⟨more, hmore, hsame⟩ := Option.map_eq_some_iff.mp h
              refine htogether.trans ?_
              simpa [readTogether?, hmore] using hsame
      · simp [denotedFrom?_escapeChar hback, hback]

/-- **What an emitted literal denotes.**  A reader of string literals gets a text
back from its literal exactly if each backslash of the text comes right before a
single quote, so in particular if there is no backslash in it. -/
theorem denoted?_literal_iff (text : String) :
    (denoted? (literal text) = some text ↔
      ∀ i : Nat, text.toList[i]? = some '\\' → text.toList[i + 1]? = some '\'') ∧
    ('\\' ∉ text.toList → denoted? (literal text) = some text) := by
  have hiff : denoted? (literal text) = some text ↔ BackslashesQuoted text.toList := by
    rw [← denotedFrom?_escape_iff]
    have hchars : (literal text).toList = '"' :: (text.toList.flatMap escapeChar ++ ['"']) := by
      simp [literal, quote, escape]
    rw [denoted?, hchars]
    constructor
    · intro h
      obtain ⟨read, hread, rfl⟩ := Option.map_eq_some_iff.mp h
      simpa using hread
    · intro h
      simp [h]
  refine ⟨hiff, fun hnone => hiff.mpr ?_⟩
  intro i hback
  exact absurd (List.mem_of_getElem? hback) hnone

/-- A backslash survives before a single quote only. -/
example :
    denoted? (literal "a\\'b") = some "a\\'b" ∧
    denoted? (literal "a\\\\'b") ≠ some "a\\\\'b" := by
  decide

end AdventureTables.Code
