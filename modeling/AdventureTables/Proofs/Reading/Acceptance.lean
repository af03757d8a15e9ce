import AdventureTables.Proofs.Reading.Strict
import AdventureTables.Proofs.Reading.Tags
/-!
# Which documents describe a dungeon

The shape of a document that describes a dungeon is said here once more, as a
reader of documents would say it, and without the order in which things are
looked at.  `DescribesDungeon` and what it is made of are about the value whose
tags are taken out of the value positions.

What an entry is given may be anything at all, but for tags that are left in
it.  Such a tag is always in a key: the key may have the tag itself, or be made
of something that has one.  It does not take a key with a tag of its own, so a
document all of whose keys are without one may still be refused.
-/

namespace AdventureTables

open Yaml (Value)
open Yaml.Value (TaggedKey TagInKey)

/-! ## The shape of a description -/

/-- An item of a table: a mapping all of whose keys are one text, tags aside,
with no value that is refused. -/
def DescribesEntry (refused : Value → Prop) (item : Value) : Prop :=
  ∃ pairs id, item = .map pairs ∧ pairs ≠ [] ∧
    ∀ pair ∈ pairs, keyText? pair.1 = some id ∧ ¬ refused pair.2

/-- A table of entries: null, or a sequence of items with one entry each. -/
def DescribesTable (refused : Value → Prop) (table : Value) : Prop :=
  table = .null ∨ ∃ items, table = .seq items ∧ ∀ item ∈ items, DescribesEntry refused item

/-- An obituary: a mapping with texts for keys that gives the question and the
answer once each, as texts. -/
def DescribesObituary (item : Value) : Prop :=
  ∃ pairs, item = .map pairs ∧ TextKeys pairs ∧
    ∀ name ∈ ["query", "yes_response"], ∃ text, valuesOf name pairs = [.string text]

/-- The obituaries: null, or a sequence of them. -/
def DescribesObituaries (value : Value) : Prop :=
  value = .null ∨ ∃ items, value = .seq items ∧ ∀ item ∈ items, DescribesObituary item

/-- The names of the tables of entries. -/
def tableNames : List String :=
  ["arbitrary_messages", "class_messages", "turn_threshold_messages", "locations",
    "object_descriptions"]

/-- A dungeon: a mapping with texts for keys that gives each of the tables, and
the obituaries, once. -/
def DescribesDungeon (refused : Value → Prop) (document : Value) : Prop :=
  ∃ pairs, document = .map pairs ∧ TextKeys pairs ∧
    (∀ name ∈ tableNames, ∃ table, valuesOf name pairs = [table] ∧ DescribesTable refused table) ∧
    ∃ obituaries, valuesOf "obituaries" pairs = [obituaries] ∧ DescribesObituaries obituaries

/-! ## Tables -/

/-- There is one different thing among some exactly if all of them are one. -/
theorem length_eraseDups_eq_one_iff {α : Type} [BEq α] [LawfulBEq α] {things : List α} :
    things.eraseDups.length = 1 ↔ things ≠ [] ∧ ∃ a, ∀ b ∈ things, b = a := by
  constructor
  · intro h
    obtain ⟨a, ha⟩ := List.length_eq_one_iff.mp h
    refine ⟨by rintro rfl; simp at h, a, fun b hb => ?_⟩
    have hmem := List.mem_eraseDups.mpr hb
    simpa [ha] using hmem
  · intro h
    obtain ⟨hne, a, hall⟩ := h
    cases things with
    | nil => exact absurd rfl hne
    | cons b things =>
        obtain ⟨rfl, hrest⟩ := List.forall_mem_cons.mp hall
        have hnone : things.filter (fun c => !c == b) = [] := by
          simpa using hrest
        simp [List.eraseDups_cons, hnone]

/-- An entry is made of keys and values exactly if there is one key among
them. -/
theorem reads_singleEntry_iff {α : Type} {pairs : List (String × Option α)} {index : Nat} :
    Reads (fun pairs => singleEntry pairs index) pairs ↔ keyCount pairs = 1 := by
  cases hlast : pairs.getLast? with
  | none => simp [Reads, singleEntry, List.getLast?_eq_none_iff.mp hlast, keyCount]
  | some pair => by_cases hcount : keyCount pairs = 1 <;> simp [Reads, singleEntry, hlast, hcount]

/-- A pair is read exactly if its key is a text, and no tag is left in its
value. -/
theorem readPair_eq_ok_iff {α : Type} {value? : Value → Option α} {pair : Value × Value}
    {result : String × Option α} :
    readPair value? pair = .ok result ↔
      keyText? pair.1 = some result.1 ∧ ¬ pair.2.holdsTag = true ∧ value? pair.2 = result.2 := by
  obtain ⟨id, value⟩ := result
  unfold readPair
  cases keyText? pair.1 with
  | none => simp
  | some text => by_cases htag : pair.2.holdsTag = true <;> simp [htag]

/-- The keys that are read are one text exactly if the keys of the item are. -/
theorem pairs_of_read {α : Type} {value? : Value → Option α} {pairs : List (Value × Value)}
    {read : List (String × Option α)} {id : String}
    (h : List.Forall₂ (fun pair result => readPair value? pair = .ok result) pairs read)
    (hid : ∀ result ∈ read, result.1 = id) :
    ∀ pair ∈ pairs, keyText? pair.1 = some id ∧ ¬ pair.2.holdsTag = true := by
  induction h with
  | nil => simp
  | cons hpair _ ih =>
      obtain ⟨hfirst, hrest⟩ := List.forall_mem_cons.mp hid
      obtain ⟨hkey, htag, -⟩ := readPair_eq_ok_iff.mp hpair
      exact List.forall_mem_cons.mpr ⟨⟨hfirst ▸ hkey, htag⟩, ih hrest⟩

/-- The pairs of an item with one text for a key are read under this text. -/
theorem readItem_eq_ok {α : Type} {value? : Value → Option α} {pairs : List (Value × Value)}
    {id : String}
    (h : ∀ pair ∈ pairs, keyText? pair.1 = some id ∧ ¬ pair.2.holdsTag = true) :
    readItem value? (.map pairs) = .ok (pairs.map fun pair => (id, value? pair.2)) := by
  refine mapM_eq_ok_iff.mpr (List.forall₂_map_right_iff.mpr (List.forall₂_same.mpr ?_))
  intro pair hmem
  obtain ⟨hkey, htag⟩ := h pair hmem
  exact readPair_eq_ok_iff.mpr ⟨hkey, htag, rfl⟩

/-- An item is read with one key in it exactly if it is an item of a table. -/
theorem readItem_single_iff {α : Type} {value? : Value → Option α} {item : Value} :
    (∃ read, readItem value? item = .ok read ∧ keyCount read = 1) ↔
      DescribesEntry (fun value => value.holdsTag = true) item := by
  constructor
  · intro h
    obtain ⟨read, hread, hcount⟩ := h
    obtain ⟨hne, id, hid⟩ := length_eraseDups_eq_one_iff.mp hcount
    cases item with
    | null =>
        obtain rfl : [] = read := Except.ok.inj hread
        simp at hne
    | map pairs =>
        have hpairs := mapM_eq_ok_iff.mp hread
        refine ⟨pairs, id, rfl, ?_, pairs_of_read hpairs (by simpa using hid)⟩
        intro heq
        subst heq
        cases hpairs
        simp at hne
    | _ => simp [readItem] at hread
  · intro h
    obtain ⟨pairs, id, rfl, hne, hpairs⟩ := h
    refine ⟨pairs.map fun pair => (id, value? pair.2), readItem_eq_ok hpairs, ?_⟩
    exact length_eraseDups_eq_one_iff.mpr ⟨by simpa using hne, id, by simp [eq_comm]⟩

/-- A table is read exactly if it is a table of entries. -/
theorem reads_readEntries_iff {α : Type} {value? : Value → Option α} {table : Value} :
    Reads (readEntries value?) table ↔
      DescribesTable (fun value => value.holdsTag = true) table := by
  cases table with
  | null => simp [Reads, readEntries, DescribesTable]
  | seq items =>
      have hsingle : ∀ read : List (List (String × Option α)),
          Reads (fun read => read.mapM fun numbered => singleEntry numbered.1 numbered.2)
            read.zipIdx ↔ ∀ pairs ∈ read, keyCount pairs = 1 := by
        intro read
        calc Reads (fun read => read.mapM fun numbered => singleEntry numbered.1 numbered.2)
              read.zipIdx
            ↔ ∀ numbered ∈ read.zipIdx, keyCount numbered.1 = 1 := by
              rw [reads_mapM_iff]
              exact forall₂_congr fun numbered _ => reads_singleEntry_iff
          _ ↔ ∀ pairs ∈ read.zipIdx.map Prod.fst, keyCount pairs = 1 := by
              rw [List.forall_mem_map]
          _ ↔ ∀ pairs ∈ read, keyCount pairs = 1 := by rw [List.zipIdx_map_fst]
      calc Reads (readEntries value?) (.seq items)
          ↔ ∃ read, items.mapM (readItem value?) = .ok read ∧
              Reads (fun read => read.mapM fun numbered => singleEntry numbered.1 numbered.2)
                read.zipIdx := by
            rw [Reads, readEntries, exists_bind_eq_ok_iff]
            rfl
        _ ↔ ∃ read, List.Forall₂ (fun item result => readItem value? item = .ok result) items read ∧
              ∀ pairs ∈ read, keyCount pairs = 1 := by simp only [hsingle, mapM_eq_ok_iff]
        _ ↔ ∀ item ∈ items, DescribesEntry (fun value => value.holdsTag = true) item := by
            simp only [exists_forall₂_iff, readItem_single_iff]
        _ ↔ DescribesTable (fun value => value.holdsTag = true) (.seq items) := by
            simp [DescribesTable]
  | _ => simp [Reads, readEntries, DescribesTable]

/-! ## Obituaries -/

/-- A text is read as one. -/
theorem reads_readText_iff {value : Value} :
    Reads readText value ↔ ∃ text, value = .string text := by
  cases value <;> simp [Reads, readText, text?]

/-- A field is read exactly if it is given, and its value passes as its check
is. -/
theorem exists_field_iff {α : Type} {read : Value → Except Mismatch α} {name : String}
    {pairs : List (Value × Value)} {P : Prop} :
    (∃ given, field name pairs = .ok given ∧ ∃ result, read given = .ok result ∧ P) ↔
      (∃ given, field name pairs = .ok given ∧ fault? (read given) = none) ∧ P := by
  simp only [fault?_eq_none_iff, Reads, exists_and_right, ← and_assoc]

/-- An obituary is read exactly if it is described. -/
theorem reads_obituary_iff {value : Value} :
    Reads Obituary.ofValue value ↔ DescribesObituary value := by
  calc Reads Obituary.ofValue value
      ↔ ∃ pairs, readRecord .obituary Obituary.checks value = .ok pairs ∧
          ∀ entry ∈ Obituary.checks,
            ∃ given, field entry.1 pairs = .ok given ∧ entry.2 given = none := by
        simp only [Reads, Obituary.ofValue, exists_bind_eq_ok_iff, exists_pure_eq_ok_iff,
          exists_field_iff]
        simp [Obituary.checks]
    _ ↔ ∃ pairs, value = .map pairs ∧ TextKeys pairs ∧
          ∀ entry ∈ Obituary.checks,
            ∃ given, valuesOf entry.1 pairs = [given] ∧ entry.2 given = none :=
        completeRecord_iff (by simp [Obituary.checks]) (by decide)
    _ ↔ DescribesObituary value := by
        simp [DescribesObituary, Obituary.checks, fault?_eq_none_iff, reads_readText_iff]

/-- The obituaries are read exactly if each of them is described. -/
theorem reads_readObituaries_iff {value : Value} :
    Reads readObituaries value ↔ DescribesObituaries value := by
  cases value with
  | null => simp [Reads, readObituaries, DescribesObituaries]
  | seq items =>
      calc Reads readObituaries (.seq items)
          ↔ ∀ item ∈ items, Reads Obituary.ofValue item := reads_mapM_iff
        _ ↔ ∀ item ∈ items, DescribesObituary item :=
            forall₂_congr fun item _ => reads_obituary_iff
        _ ↔ DescribesObituaries (.seq items) := by simp [DescribesObituaries]
  | _ => simp [Reads, readObituaries, DescribesObituaries]

/-! ## Dungeons -/

/-- A value with no tags in value positions is read exactly if it describes a
dungeon, with no entry that holds a tag. -/
theorem reads_ofUntagged_iff {value : Value} :
    Reads Dungeon.ofUntagged value ↔
      DescribesDungeon (fun value => value.holdsTag = true) value := by
  calc Reads Dungeon.ofUntagged value
      ↔ ∃ pairs, readRecord .dungeon Dungeon.checks value = .ok pairs ∧
          ∀ entry ∈ Dungeon.checks,
            ∃ given, field entry.1 pairs = .ok given ∧ entry.2 given = none := by
        simp only [Reads, Dungeon.ofUntagged, exists_bind_eq_ok_iff, exists_pure_eq_ok_iff,
          exists_field_iff]
        simp [Dungeon.checks]
    _ ↔ ∃ pairs, value = .map pairs ∧ TextKeys pairs ∧
          ∀ entry ∈ Dungeon.checks,
            ∃ given, valuesOf entry.1 pairs = [given] ∧ entry.2 given = none :=
        completeRecord_iff (by simp [Dungeon.checks]) (by decide)
    _ ↔ DescribesDungeon (fun value => value.holdsTag = true) value := by
        simp [DescribesDungeon, Dungeon.checks, tableNames, fault?_eq_none_iff, readMessages,
          readLocations, readObjects, reads_readEntries_iff, reads_readObituaries_iff, and_assoc]

/-! ## Tags of documents

Nothing in a document without tags in value positions has one in a value
position.  What is refused can therefore be said in any way that is the same on
such values. -/

section Refused

variable {refused refused' : Value → Prop}

/-- An entry may be described with the same values refused. -/
theorem describesEntry_congr (hsame : ∀ v : Value, v.untagged = v → (refused v ↔ refused' v))
    {item : Value} (h : item.untagged = item) :
    DescribesEntry refused item ↔ DescribesEntry refused' item := by
  refine exists₂_congr fun pairs id => and_congr_right ?_
  intro heq
  subst heq
  have hpairs := Value.untagged_map_iff.mp h
  refine and_congr_right fun _ => forall₂_congr fun pair hmem => ?_
  rw [hsame _ (hpairs pair hmem)]

/-- A table may be described with the same values refused. -/
theorem describesTable_congr (hsame : ∀ v : Value, v.untagged = v → (refused v ↔ refused' v))
    {table : Value} (h : table.untagged = table) :
    DescribesTable refused table ↔ DescribesTable refused' table := by
  refine or_congr_right (exists_congr fun items => and_congr_right ?_)
  intro heq
  subst heq
  have hitems := Value.untagged_seq_iff.mp h
  exact forall₂_congr fun item hmem => describesEntry_congr hsame (hitems item hmem)

/-- A dungeon may be described with the same values refused. -/
theorem describesDungeon_congr (hsame : ∀ v : Value, v.untagged = v → (refused v ↔ refused' v))
    {document : Value} (h : document.untagged = document) :
    DescribesDungeon refused document ↔ DescribesDungeon refused' document := by
  refine exists_congr fun pairs => and_congr_right ?_
  intro heq
  subst heq
  have hpairs := Value.untagged_map_iff.mp h
  refine and_congr_right fun _ => and_congr_left fun _ => forall₂_congr fun name _ => ?_
  refine exists_congr fun table => and_congr_right fun htable => ?_
  have hmem : table ∈ valuesOf name pairs := by simp [htable]
  obtain ⟨pair, hpair, rfl⟩ := List.mem_map.mp hmem
  exact describesTable_congr hsame (hpairs pair (List.mem_filter.mp hpair).1)

end Refused

/-- A document is read exactly if it describes a dungeon once the tags in value
positions are taken out, with no entry that has a tag in a key. -/
theorem ofValue_accepts_iff (document : Value) :
    (∃ dungeon, Dungeon.ofValue document = .ok dungeon) ↔
      DescribesDungeon TagInKey document.untagged := by
  calc (∃ dungeon, Dungeon.ofValue document = .ok dungeon)
      ↔ DescribesDungeon (fun value => value.holdsTag = true) document.untagged :=
        reads_ofUntagged_iff
    _ ↔ DescribesDungeon TagInKey document.untagged :=
        describesDungeon_congr (fun v hv => Value.holdsTag_iff_tagInKey hv)
          (Value.untagged_untagged document)

/-- A document with one entry, in whose value a key without a tag is made of
something with a tag. -/
def untaggedKey : Value :=
  .map [(.string "arbitrary_messages", .seq [.map [(.string "A", Value.seqKeyed)]]),
    (.string "class_messages", .seq []), (.string "turn_threshold_messages", .seq []),
    (.string "locations", .seq []), (.string "object_descriptions", .seq []),
    (.string "obituaries", .seq [])]

/-- A document is refused for a tag in a key even if no key has a tag of its
own. -/
theorem untaggedKey_refused :
    Dungeon.ofValue untaggedKey = .error .strayTag ∧
      ¬ ((∃ dungeon, Dungeon.ofValue untaggedKey = .ok dungeon) ↔
        DescribesDungeon TaggedKey untaggedKey.untagged) := by
  have hrefused : Dungeon.ofValue untaggedKey = .error .strayTag := by rfl
  have hentry : DescribesEntry TaggedKey (.map [(.string "A", Value.seqKeyed)]) :=
    ⟨_, "A", rfl, by simp, by simpa [keyText?, Value.content] using Value.seqKeyed_tagInKey.2⟩
  have hempty : DescribesTable TaggedKey (.seq []) := .inr ⟨[], rfl, by simp⟩
  have hdescribes : DescribesDungeon TaggedKey untaggedKey.untagged := by
    have hsame : untaggedKey.untagged = untaggedKey := by rfl
    rw [hsame]
    refine ⟨_, rfl, ?_, ?_, .seq [], rfl, .inr ⟨[], rfl, by simp⟩⟩
    · simp [TextKeys, keyText?, Value.content]
    · simp only [tableNames, List.forall_mem_cons, List.not_mem_nil, false_implies, implies_true,
        and_true]
      exact ⟨⟨_, rfl, .inr ⟨_, rfl, by simpa using hentry⟩⟩, ⟨_, rfl, hempty⟩, ⟨_, rfl, hempty⟩,
        ⟨_, rfl, hempty⟩, ⟨_, rfl, hempty⟩⟩
  refine ⟨hrefused, fun h => ?_⟩
  obtain ⟨dungeon, hdungeon⟩ := h.mpr hdescribes
  simp [hrefused] at hdungeon

end AdventureTables
