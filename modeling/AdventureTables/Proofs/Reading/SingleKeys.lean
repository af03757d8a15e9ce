import AdventureTables.Proofs.Reading.Acceptance
import Mathlib.Data.Finset.Card
import Mathlib.Data.Finset.Dedup
/-!
# Entries with one key

Every item of a table has to be a mapping with one key.  That is checked in two
passes.  In the first one all items are read, and the first of them that cannot
be read is reported: one that is no mapping, has a key that is no text, or has a
value with a tag left in it (`ItemFault`).  Only if there is none does the
second pass count the keys, and reports the first item with another number of
them than one, by its place and that number (`CountFault`).

Keys are counted as texts: what is counted is how many different ones there are
(`distinctKeys`), whatever tags they have and however often they are given.
-/

namespace AdventureTables

open Yaml (Value)
open Yaml.Value (TaggedKey TagInKey)

/-! ## What is wrong with an item -/

/-- What is wrong with a pair of an item: its key is no text, or its value is
refused. -/
inductive PairFault (refused : Value → Prop) : Value × Value → Mismatch → Prop
  | key {key value : Value} (h : keyText? key = none) :
      PairFault refused (key, value) (.shape (.of key) .text)
  | value {key value : Value} {id : String} (hkey : keyText? key = some id) (h : refused value) :
      PairFault refused (key, value) .strayTag

/-- What is wrong with an item: it is neither null nor a mapping, or one of its
pairs is at fault, of which the first one counts. -/
inductive ItemFault (refused : Value → Prop) : Value → Mismatch → Prop
  | shape {item : Value} (hnull : item ≠ .null) (hmap : ∀ pairs, item ≠ .map pairs) :
      ItemFault refused item (.shape (.of item) .mapping)
  | pair {pairs : List (Value × Value)} {mismatch : Mismatch}
      (h : Reports (fun _ => PairFault refused) pairs mismatch) :
      ItemFault refused (.map pairs) mismatch

/-- The texts of the keys of an item. -/
def keyTexts : Value → List String
  | .map pairs => pairs.filterMap fun pair => keyText? pair.1
  | _ => []

/-- The number of different texts among the keys of an item. -/
def distinctKeys (item : Value) : Nat :=
  (keyTexts item).toFinset.card

/-- A key counts once, however often it is given and under whatever tags. -/
example : distinctKeys (.map [(.string "A", .null), (.tagged "!x" (.string "A"), .null),
    (.string "B", .null)]) = 2 := by decide

/-- What is wrong with an item that has not one key, told by its place among the
items. -/
def CountFault (before : List Value) (item : Value) (mismatch : Mismatch) : Prop :=
  distinctKeys item ≠ 1 ∧ mismatch = .keyCount before.length (distinctKeys item)

theorem itemFault_map_iff {refused : Value → Prop} {pairs : List (Value × Value)}
    {mismatch : Mismatch} :
    ItemFault refused (.map pairs) mismatch ↔
      Reports (fun _ => PairFault refused) pairs mismatch := by
  constructor
  · intro h
    cases h with
    | shape _ hmap => exact absurd rfl (hmap pairs)
    | pair h => exact h
  · exact .pair

theorem exists_pairFault_iff {refused : Value → Prop} {pair : Value × Value} :
    (∃ mismatch, PairFault refused pair mismatch) ↔ keyText? pair.1 = none ∨ refused pair.2 := by
  obtain ⟨key, value⟩ := pair
  constructor
  · rintro ⟨mismatch, h⟩
    cases h with
    | key h => exact .inl h
    | value _ h => exact .inr h
  · intro h
    cases hkey : keyText? key with
    | none => exact ⟨_, .key hkey⟩
    | some id => exact ⟨_, .value hkey (h.resolve_left (by simp [hkey]))⟩

/-- A mapping is without fault if all its keys are texts, and none of its values
is refused. -/
theorem forall_not_itemFault_map_iff {refused : Value → Prop} {pairs : List (Value × Value)} :
    (∀ mismatch, ¬ ItemFault refused (.map pairs) mismatch) ↔
      ∀ pair ∈ pairs, keyText? pair.1 ≠ none ∧ ¬ refused pair.2 := by
  calc (∀ mismatch, ¬ ItemFault refused (.map pairs) mismatch)
      ↔ Faultless (fun _ => PairFault refused) pairs := by
        simp only [itemFault_map_iff, ← not_exists, exists_reports_iff, not_not]
    _ ↔ ∀ pair ∈ pairs, keyText? pair.1 ≠ none ∧ ¬ refused pair.2 := by
        simp only [faultless_iff_forall, ← not_exists, exists_pairFault_iff, not_or, ne_eq]

/-! ## The first pass -/

section Reading

variable {α : Type} {value? : Value → Option α}

theorem readPair_eq_error_iff {pair : Value × Value} {mismatch : Mismatch} :
    readPair value? pair = .error mismatch ↔
      PairFault (fun value => value.holdsTag = true) pair mismatch := by
  obtain ⟨key, value⟩ := pair
  constructor
  · intro h
    unfold readPair at h
    split at h
    · rename_i hkey
      cases h
      exact .key hkey
    · rename_i id hkey
      split at h
      · rename_i htag
        cases h
        exact .value hkey htag
      · simp at h
  · intro h
    cases h with
    | key hkey => simp [readPair, hkey]
    | value hkey htag => simp [readPair, hkey, htag]

theorem readItem_eq_error_iff {item : Value} {mismatch : Mismatch} :
    readItem value? item = .error mismatch ↔
      ItemFault (fun value => value.holdsTag = true) item mismatch := by
  cases item with
  | null =>
      constructor
      · intro h
        simp [readItem] at h
      · intro h
        cases h with
        | shape hnull => exact absurd rfl hnull
  | map pairs =>
      rw [readItem, mapM_eq_error_iff, itemFault_map_iff]
      simp only [readPair_eq_error_iff]
  | _ =>
      constructor
      · intro h
        cases h
        exact .shape (by simp) (by simp)
      · intro h
        cases h
        rfl

/-- The keys that are read from an item are the texts of its keys. -/
theorem map_fst_of_readItem {item : Value} {read : List (String × Option α)}
    (h : readItem value? item = .ok read) : read.map Prod.fst = keyTexts item := by
  cases item with
  | null =>
      obtain rfl : [] = read := Except.ok.inj h
      rfl
  | map pairs =>
      have hpairs := mapM_eq_ok_iff.mp h
      clear h
      induction hpairs with
      | nil => rfl
      | cons hpair _ ih =>
          obtain ⟨hkey, -⟩ := readPair_eq_ok_iff.mp hpair
          simp_all [keyTexts]
  | _ => simp [readItem] at h

/-! ## The second pass -/

/-- What is left without repetitions is as much as there is of different
things. -/
theorem length_eraseDups {β : Type} [DecidableEq β] (things : List β) :
    things.eraseDups.length = things.toFinset.card := by
  match things with
  | [] => rfl
  | a :: things =>
      have hrest := length_eraseDups (things.filter fun b => !b == a)
      have hset : (a :: things).toFinset =
          insert a (things.filter fun b => !b == a).toFinset := by
        ext b
        by_cases hb : b = a <;> simp [hb]
      rw [List.eraseDups_cons, List.length_cons, hrest, hset,
        Finset.card_insert_of_notMem (by simp)]
  termination_by things.length
  decreasing_by
    have hle := List.length_filter_le (fun b => !b == a) things
    simp only [List.length_cons]
    omega

theorem keyCount_of_readItem {item : Value} {read : List (String × Option α)}
    (h : readItem value? item = .ok read) : keyCount read = distinctKeys item := by
  rw [keyCount, map_fst_of_readItem h, length_eraseDups, distinctKeys]

theorem singleEntry_eq_error_iff {pairs : List (String × Option α)} {index : Nat}
    {mismatch : Mismatch} :
    singleEntry pairs index = .error mismatch ↔
      keyCount pairs ≠ 1 ∧ mismatch = .keyCount index (keyCount pairs) := by
  unfold singleEntry
  cases hlast : pairs.getLast? with
  | none =>
      obtain rfl := List.getLast?_eq_none_iff.mp hlast
      simp [keyCount, eq_comm]
  | some last =>
      by_cases hcount : keyCount pairs = 1 <;> simp [hcount, eq_comm]

/-- The entries are not made exactly if one of the items has not one key, and
the first such item is reported.  The place of the first item of all is the
number of the items in `earlier`. -/
theorem singleEntries_eq_error_iff {items : List Value} {read : List (List (String × Option α))}
    (h : List.Forall₂ (fun item pairs => readItem value? item = .ok pairs) items read)
    (earlier : List Value) {mismatch : Mismatch} :
    ((read.zipIdx earlier.length).mapM fun numbered => singleEntry numbered.1 numbered.2) =
        .error mismatch ↔
      Reports (fun before => CountFault (earlier ++ before)) items mismatch := by
  induction h generalizing earlier with
  | nil => simp [pure, Except.pure, not_reports_nil]
  | @cons item pairs items read hitem _ ih =>
      have hfault : ∀ e,
          singleEntry pairs earlier.length = .error e ↔ CountFault earlier item e := by
        intro e
        rw [singleEntry_eq_error_iff, keyCount_of_readItem hitem, CountFault]
      have hrest := ih (earlier ++ [item])
      simp only [List.length_append, List.length_singleton, List.append_assoc,
        List.singleton_append] at hrest
      rw [List.zipIdx_cons, List.mapM_cons, reports_cons_iff, ← hrest, List.append_nil]
      simp only [← hfault]
      cases hentry : singleEntry pairs earlier.length with
      | error fault => simp [bind, Except.bind]
      | ok entry => simp [bind_eq_error_iff, pure, Except.pure]

/-- A table is not read exactly if one of its items is at fault, or else if one
of them has not one key. -/
theorem readEntries_seq_eq_error_iff {items : List Value} {mismatch : Mismatch} :
    readEntries value? (.seq items) = .error mismatch ↔
      Reports (fun _ => ItemFault fun value => value.holdsTag = true) items mismatch ∨
      Faultless (fun _ => ItemFault fun value => value.holdsTag = true) items ∧
        Reports CountFault items mismatch := by
  have hread : ∀ e, items.mapM (readItem value?) = .error e ↔
      Reports (fun _ => ItemFault fun value => value.holdsTag = true) items e := by
    intro e
    simp only [mapM_eq_error_iff, readItem_eq_error_iff]
  rw [readEntries, bind_eq_error_iff, hread, ← not_not (a := Faultless _ _), ← exists_reports_iff]
  simp only [← hread]
  refine or_congr_right ?_
  cases hitems : items.mapM (readItem value?) with
  | error fault => simp
  | ok read =>
      simpa using singleEntries_eq_error_iff (mapM_eq_ok_iff.mp hitems) []

/-- An item of a table is one without fault that has one key. -/
theorem describesEntry_iff (value? : Value → Option α) {item : Value} :
    DescribesEntry (fun value => value.holdsTag = true) item ↔
      (∀ mismatch, ¬ ItemFault (fun value => value.holdsTag = true) item mismatch) ∧
        distinctKeys item = 1 := by
  rw [← @readItem_single_iff α value?]
  simp only [← @readItem_eq_error_iff α value?, ← not_exists, ← not_reads_iff, not_not]
  constructor
  · rintro ⟨read, hread, hcount⟩
    exact ⟨⟨read, hread⟩, keyCount_of_readItem hread ▸ hcount⟩
  · rintro ⟨⟨read, hread⟩, hcount⟩
    exact ⟨read, hread, keyCount_of_readItem hread ▸ hcount⟩

/-- A table has as many entries as items. -/
theorem length_of_readEntries {items : List Value} {entries : List (Entry α)}
    (h : readEntries value? (.seq items) = .ok entries) : entries.length = items.length := by
  obtain ⟨read, hread, hsingle⟩ := bind_eq_ok_iff.mp h
  have hitems := (mapM_eq_ok_iff.mp hread).length_eq
  have hentries := (mapM_eq_ok_iff.mp hsingle).length_eq
  rw [List.length_zipIdx] at hentries
  omega

end Reading

/-! ## Tables of documents -/

section Refused

variable {refused refused' : Value → Prop}

theorem pairFault_congr {pair : Value × Value} (hsame : refused pair.2 ↔ refused' pair.2)
    {mismatch : Mismatch} : PairFault refused pair mismatch ↔ PairFault refused' pair mismatch := by
  constructor
  · intro h
    cases h with
    | key hkey => exact .key hkey
    | value hkey h => exact .value hkey (hsame.mp h)
  · intro h
    cases h with
    | key hkey => exact .key hkey
    | value hkey h => exact .value hkey (hsame.mpr h)

/-- What is wrong with an item can be said with the same values refused. -/
theorem itemFault_congr (hsame : ∀ v : Value, v.untagged = v → (refused v ↔ refused' v))
    {item : Value} (hitem : item.untagged = item) {mismatch : Mismatch} :
    ItemFault refused item mismatch ↔ ItemFault refused' item mismatch := by
  by_cases hmap : ∃ pairs, item = .map pairs
  · obtain ⟨pairs, rfl⟩ := hmap
    rw [itemFault_map_iff, itemFault_map_iff]
    apply reports_congr
    intro pair hmem mismatch
    exact pairFault_congr (hsame _ (Value.untagged_map_iff.mp hitem pair hmem))
  · constructor
    · intro h
      cases h with
      | shape hnull hmap => exact .shape hnull hmap
      | pair => exact absurd ⟨_, rfl⟩ hmap
    · intro h
      cases h with
      | shape hnull hmap => exact .shape hnull hmap
      | pair => exact absurd ⟨_, rfl⟩ hmap

end Refused

/-- **Which item of a table is reported.**  If some item of a table is at fault,
the first one that is at fault is reported, whatever keys the items before it
have.  If none is at fault, but some item has not one key, the first one that has
not is reported, by its place and the number of its different keys.  Otherwise
the table is read, with as many entries as items. -/
theorem readEntries_reports_first {α : Type} (value? : Value → Option α) {table : Value}
    {items : List Value} (htable : table.untagged = .seq items) :
    (∀ mismatch, readEntries value? table.untagged = .error mismatch ↔
      Reports (fun _ => ItemFault TagInKey) items mismatch ∨
      Faultless (fun _ => ItemFault TagInKey) items ∧ Reports CountFault items mismatch) ∧
    ((∃ entries, readEntries value? table.untagged = .ok entries) ↔
      Faultless (fun _ => ItemFault TagInKey) items ∧ ∀ item ∈ items, distinctKeys item = 1) ∧
    ∀ entries, readEntries value? table.untagged = .ok entries → entries.length = items.length := by
  have hitems : ∀ item ∈ items, item.untagged = item := by
    rw [← Value.untagged_seq_iff, ← htable, Value.untagged_untagged]
  have hfault : ∀ item ∈ items, ∀ mismatch,
      ItemFault (fun value => value.holdsTag = true) item mismatch ↔
        ItemFault TagInKey item mismatch := by
    intro item hmem mismatch
    exact itemFault_congr (fun v hv => Value.holdsTag_iff_tagInKey hv) (hitems item hmem)
  have hfaultless : Faultless (fun _ => ItemFault fun value => value.holdsTag = true) items ↔
      Faultless (fun _ => ItemFault TagInKey) items := by
    simp only [faultless_iff_forall]
    exact forall₂_congr fun item hmem => forall_congr' fun e => not_congr (hfault item hmem e)
  rw [htable]
  refine ⟨fun mismatch => ?_, ?_, fun entries => length_of_readEntries⟩
  · rw [readEntries_seq_eq_error_iff, reports_congr hfault, hfaultless]
  · rw [← hfaultless, faultless_iff_forall, ← forall₂_and]
    calc (∃ entries, readEntries value? (.seq items) = .ok entries)
        ↔ ∀ item ∈ items, DescribesEntry (fun value => value.holdsTag = true) item := by
          simpa [DescribesTable, Reads] using @reads_readEntries_iff α value? (.seq items)
      _ ↔ ∀ item ∈ items,
            (∀ mismatch, ¬ ItemFault (fun value => value.holdsTag = true) item mismatch) ∧
              distinctKeys item = 1 := forall₂_congr fun item _ => describesEntry_iff value?

/-- An item that gives one key under two spellings. -/
def twiceGiven : Value :=
  .map [(.string "A", .null), (.tagged "!x" (.string "A"), .string "a")]

/-- Such an item, one that has no key, and one that has two. -/
def unevenItems : List Value :=
  [twiceGiven, .null, .map [(.string "B", .bool true), (.string "C", .null)]]

/-- The item without a key is reported. -/
theorem unevenItems_reported :
    (Value.seq unevenItems).untagged = .seq unevenItems ∧
    readEntries text? (Value.seq unevenItems).untagged = .error (.keyCount 1 0) ∧
    (Mismatch.keyCount 1 0).message =
      "entry 1: expected a single `ID: value` mapping, found 0 keys" := by
  have htable : (Value.seq unevenItems).untagged = .seq unevenItems := by rfl
  refine ⟨htable, ?_, by decide⟩
  have hnull : ¬ TagInKey .null := by
    intro h
    cases h
  have hbool : ¬ TagInKey (.bool true) := by
    intro h
    cases h
  have htext : ¬ TagInKey (.string "a") := by
    intro h
    cases h
  have hempty : ∀ mismatch, ¬ ItemFault TagInKey .null mismatch := by
    intro mismatch h
    cases h with
    | shape hnull => exact hnull rfl
  have hfaultless : Faultless (fun _ => ItemFault TagInKey) unevenItems := by
    simp only [faultless_iff_forall, unevenItems, List.forall_mem_cons, twiceGiven,
      forall_not_itemFault_map_iff]
    simp [keyText?, Value.content, hempty, hnull, hbool, htext]
  have hone : Faultless CountFault [twiceGiven] := by
    refine faultless_cons_iff.mpr ⟨fun mismatch h => ?_, faultless_nil⟩
    exact absurd h.1 (by decide)
  obtain ⟨hreport, -⟩ := readEntries_reports_first text? htable
  exact (hreport _).mpr (.inr ⟨hfaultless, [twiceGiven], .null, _, rfl, hone, by decide, rfl⟩)

/-- The second item gives one key, with a value that has a tag in a key. -/
def seqKeyedItems : List Value :=
  [.map [(.string "A", .null)], .map [(.string "B", .seq [Value.seqKeyed])]]

/-- A table may be refused although every item is a mapping with one text for a
key, and no key in it has a tag of its own. -/
theorem seqKeyedItems_refused :
    (Value.seq seqKeyedItems).untagged = .seq seqKeyedItems ∧
    readEntries text? (Value.seq seqKeyedItems).untagged = .error .strayTag ∧
    ¬ ((∃ entries, readEntries text? (Value.seq seqKeyedItems).untagged = .ok entries) ↔
      Faultless (fun _ => ItemFault TaggedKey) seqKeyedItems ∧
        ∀ item ∈ seqKeyedItems, distinctKeys item = 1) := by
  have hrefused : readEntries text? (Value.seq seqKeyedItems).untagged = .error .strayTag := by rfl
  refine ⟨rfl, hrefused, fun h => ?_⟩
  have hnull : ¬ TaggedKey .null := by
    intro h
    cases h
  have hseq : ¬ TaggedKey (.seq [Value.seqKeyed]) := by
    intro h
    cases h with
    | inItem hmem h =>
        obtain rfl := List.mem_singleton.mp hmem
        exact Value.seqKeyed_tagInKey.2 h
  have hfaultless : Faultless (fun _ => ItemFault TaggedKey) seqKeyedItems := by
    simp only [faultless_iff_forall, seqKeyedItems, List.forall_mem_cons,
      forall_not_itemFault_map_iff]
    simp [keyText?, Value.content, hnull, hseq]
  obtain ⟨entries, hentries⟩ := h.mpr ⟨hfaultless, by decide⟩
  rw [hrefused] at hentries
  cases hentries

end AdventureTables
