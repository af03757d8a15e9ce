import AdventureTables.Proofs.Reading.Acceptance
import AdventureTables.Proofs.Reading.Records
/-!
# What a document means

A document that is accepted means one dungeon.  What it means is said here
level by level, without the readers: of a text, of a field in a record, of a
record, of an entry, of a table and of the whole (`MeansDocument`).  Each level
speaks of the values below it only through what they mean, so a value of the
wrong shape costs what it stands for and nothing else.  For the same reason
the spelling of a record makes no difference (`IgnoresSpelling`).
-/

namespace AdventureTables

open Yaml (Value)
open Yaml.Value (TagInKey)

/-! ## Texts -/

/-- A text is present exactly if the value is one. -/
def MeansText (value : Value) (text : Option String) : Prop :=
  ∀ t, text = some t ↔ value = .string t

/-- A list of texts is present exactly if the value is a sequence of texts. -/
def MeansTexts (value : Value) (texts : Option (List String)) : Prop :=
  ∀ ts, texts = some ts ↔ value = .seq (ts.map .string)

theorem text?_eq_some_iff {value : Value} {text : String} :
    text? value = some text ↔ value = .string text := by
  cases value <;> simp [text?]

theorem texts?_eq_some_iff {value : Value} {texts : List String} :
    texts? value = some texts ↔ value = .seq (texts.map .string) := by
  cases value with
  | seq items =>
      have hitems : List.Forall₂ (fun item text => text? item = some text) items texts ↔
          items = texts.map .string := by
        rw [← List.forall₂_eq_eq_eq, List.forall₂_map_right_iff]
        simp only [text?_eq_some_iff]
      rw [texts?, mapM_eq_some_iff, hitems, Value.seq.injEq]
  | _ => simp [texts?]

/-- Two optional things are the same if they are present as the same. -/
theorem forall_eq_some_iff {α : Type} {read a : Option α} {P : α → Prop}
    (h : ∀ b, read = some b ↔ P b) : (∀ b, a = some b ↔ P b) ↔ read = a := by
  constructor
  · intro hmeans
    exact Option.ext fun b => (h b).trans (hmeans b).symm
  · rintro rfl
    exact h

theorem meansText_iff (value : Value) (text : Option String) :
    MeansText value text ↔ text? value = text :=
  forall_eq_some_iff fun _ => text?_eq_some_iff

theorem meansTexts_iff (value : Value) (texts : Option (List String)) :
    MeansTexts value texts ↔ texts? value = texts :=
  forall_eq_some_iff fun _ => texts?_eq_some_iff

/-! ## Records -/

/-- A field means what it is given, and is absent if it is given nothing. -/
def MeansField {α : Type} (names : List String) (n : Nat) (means : Value → Option α → Prop)
    (record : Value) (field : Option α) : Prop :=
  (∀ given, Gives names n record given → means given field) ∧
    ((∀ given, ¬ Gives names n record given) → field = none)

/-- A record is present exactly if the value is one, and is made of its
fields. -/
def MeansRecord {α : Type} (names : List String) (fields : α → Prop) (value : Value)
    (record : Option α) : Prop :=
  (record.isSome ↔ RecordOf names value) ∧ ∀ r, record = some r → fields r

/-- What the texts of a location mean. -/
def MeansDescription (value : Value) (description : Option Description) : Prop :=
  MeansRecord ["short", "long"] (fun d =>
    MeansField ["short", "long"] 0 MeansText value d.short ∧
      MeansField ["short", "long"] 1 MeansText value d.long) value description

/-- What a location means. -/
def MeansLocation (value : Value) (location : Option Location) : Prop :=
  MeansRecord ["description"] (fun l =>
    MeansField ["description"] 0 MeansDescription value l.description) value location

/-- What an object means. -/
def MeansObject (value : Value) (object : Option ObjectDescription) : Prop :=
  MeansRecord ["inventory", "longs"] (fun o =>
    MeansField ["inventory", "longs"] 0 MeansText value o.inventory ∧
      MeansField ["inventory", "longs"] 1 MeansTexts value o.longs) value object

section Reading

variable {α : Type} {names : List String} {value : Value}

theorem meansField_iff (hnames : names.Nodup) {fields : List (Nat × Value)}
    (hfields : recordFields? names value = some fields) {means : Value → Option α → Prop}
    {value? : Value → Option α} (hmeans : ∀ v a, means v a ↔ value? v = a) {n : Nat}
    {field : Option α} :
    MeansField names n means value field ↔ (fields.lookup n).bind value? = field := by
  have hgives : ∀ given, Gives names n value given ↔ fields.lookup n = some given :=
    fun given => (lookup_recordFields? hnames hfields).symm
  simp only [MeansField, hgives, hmeans]
  cases fields.lookup n with
  | none => simp [eq_comm]
  | some given => simp

theorem meansRecord_iff (hnames : names.Nodup) {fieldsMean : α → Prop}
    {read : List (Nat × Value) → α}
    (hread : ∀ fields, recordFields? names value = some fields →
      ∀ r, fieldsMean r ↔ read fields = r) {record : Option α} :
    MeansRecord names fieldsMean value record ↔ (recordFields? names value).map read = record := by
  rw [MeansRecord, ← recordFields?_isSome_iff hnames]
  cases hfields : recordFields? names value with
  | none => cases record <;> simp
  | some fields =>
      cases record with
      | none => simp
      | some r => simp [hread fields hfields]

theorem meansDescription_iff (value : Value) (description : Option Description) :
    MeansDescription value description ↔ Description.ofValue? value = description := by
  have hread : Description.ofValue? value = (recordFields? ["short", "long"] value).map
      fun fields => ⟨(fields.lookup 0).bind text?, (fields.lookup 1).bind text?⟩ := by
    rw [Description.ofValue?]
    cases recordFields? ["short", "long"] value <;> rfl
  have hnames : ["short", "long"].Nodup := by decide
  rw [hread]
  refine meansRecord_iff hnames ?_
  rintro fields hfields ⟨short, long⟩
  rw [meansField_iff hnames hfields meansText_iff, meansField_iff hnames hfields meansText_iff,
    Description.mk.injEq]

theorem meansLocation_iff (value : Value) (location : Option Location) :
    MeansLocation value location ↔ Location.ofValue? value = location := by
  have hread : Location.ofValue? value = (recordFields? ["description"] value).map
      fun fields => ⟨(fields.lookup 0).bind Description.ofValue?⟩ := by
    rw [Location.ofValue?]
    cases recordFields? ["description"] value <;> rfl
  have hnames : ["description"].Nodup := by decide
  rw [hread]
  refine meansRecord_iff hnames ?_
  rintro fields hfields ⟨description⟩
  rw [meansField_iff hnames hfields meansDescription_iff, Location.mk.injEq]

theorem meansObject_iff (value : Value) (object : Option ObjectDescription) :
    MeansObject value object ↔ ObjectDescription.ofValue? value = object := by
  have hread : ObjectDescription.ofValue? value = (recordFields? ["inventory", "longs"] value).map
      fun fields => ⟨(fields.lookup 0).bind text?, (fields.lookup 1).bind texts?⟩ := by
    rw [ObjectDescription.ofValue?]
    cases recordFields? ["inventory", "longs"] value <;> rfl
  have hnames : ["inventory", "longs"].Nodup := by decide
  rw [hread]
  refine meansRecord_iff hnames ?_
  rintro fields hfields ⟨inventory, longs⟩
  rw [meansField_iff hnames hfields meansText_iff, meansField_iff hnames hfields meansTexts_iff,
    ObjectDescription.mk.injEq]

end Reading

/-! ## Tables -/

/-- An entry has the text of the keys of its item for an identifier, and means
what the last of their values does. -/
def MeansEntry {α : Type} (means : Value → Option α → Prop) (item : Value) (entry : Entry α) :
    Prop :=
  ∃ pairs last, item = .map (pairs ++ [last]) ∧
    (∀ pair ∈ pairs ++ [last], keyText? pair.1 = some entry.id) ∧ means last.2 entry.value

/-- A collection is made of what its items mean, in their order; null has no
items. -/
def MeansItems {α : Type} (means : Value → α → Prop) (value : Value) (results : List α) : Prop :=
  value = .null ∧ results = [] ∨ ∃ items, value = .seq items ∧ List.Forall₂ means items results

section Tables

variable {α : Type} {value? : Value → Option α} {means : Value → Option α → Prop}

theorem singleEntry_eq_ok_iff {pairs : List (String × Option α)} {index : Nat} {entry : Entry α} :
    singleEntry pairs index = .ok entry ↔
      keyCount pairs = 1 ∧ pairs.getLast? = some (entry.id, entry.value) := by
  obtain ⟨id, value⟩ := entry
  unfold singleEntry
  cases hlast : pairs.getLast? with
  | none => simp
  | some last => by_cases hcount : keyCount pairs = 1 <;> simp [hcount, Prod.ext_iff]

theorem meansEntry_iff (hmeans : ∀ v a, means v a ↔ value? v = a) {item : Value}
    (h : DescribesEntry (fun value => value.holdsTag = true) item) {entry : Entry α} :
    (∃ read, readItem value? item = .ok read ∧ keyCount read = 1 ∧
      read.getLast? = some (entry.id, entry.value)) ↔ MeansEntry means item entry := by
  obtain ⟨read, hread, hcount⟩ : ∃ read, readItem value? item = .ok read ∧ keyCount read = 1 :=
    readItem_single_iff.mpr h
  obtain ⟨pairs, id, rfl, hne, hpairs⟩ := h
  obtain ⟨earlier, last, rfl⟩ := (List.eq_nil_or_concat' pairs).resolve_left hne
  obtain rfl : (earlier ++ [last]).map (fun pair => (id, value? pair.2)) = read :=
    Except.ok.inj ((readItem_eq_ok hpairs).symm.trans hread)
  have hlast : ((earlier ++ [last]).map fun pair => (id, value? pair.2)).getLast? =
      some (id, value? last.2) := by simp
  simp only [hread, Except.ok.injEq, exists_eq_left', hcount, hlast, true_and, Option.some.injEq,
    Prod.mk.injEq]
  constructor
  · intro h
    obtain ⟨rfl, hvalue⟩ := h
    exact ⟨earlier, last, rfl, fun pair hmem => (hpairs pair hmem).1, (hmeans _ _).mpr hvalue⟩
  · intro h
    obtain ⟨earlier', last', hitem, hkeys, hvalue⟩ := h
    -- An item has only one last pair.
    obtain ⟨-, hsame⟩ := List.append_inj' (Value.map.inj hitem) rfl
    obtain rfl : last = last' := List.head_eq_of_cons_eq hsame
    have hid : keyText? last.1 = some entry.id := hkeys last (by simp)
    have hid' : keyText? last.1 = some id := (hpairs last (by simp)).1
    exact ⟨Option.some.inj (hid'.symm.trans hid), (hmeans _ _).mp hvalue⟩

/-- A table of entries is read as what it means. -/
theorem meansTable_iff (hmeans : ∀ v a, means v a ↔ value? v = a) {table : Value}
    (h : DescribesTable (fun value => value.holdsTag = true) table) {entries : List (Entry α)} :
    readEntries value? table = .ok entries ↔ MeansItems (MeansEntry means) table entries := by
  obtain rfl | ⟨items, rfl, hitems⟩ := h
  · simp [readEntries, MeansItems, eq_comm]
  -- The number of an item matters only for the news that it is none.
  have hsingle : ∀ read : List (List (String × Option α)),
      (read.zipIdx.mapM fun numbered => singleEntry numbered.1 numbered.2) = .ok entries ↔
        List.Forall₂ (fun pairs entry => keyCount pairs = 1 ∧
          pairs.getLast? = some (entry.id, entry.value)) read entries := by
    intro read
    simp only [mapM_eq_ok_iff, singleEntry_eq_ok_iff]
    conv_rhs => rw [← List.zipIdx_map_fst 0 read, List.forall₂_map_left_iff]
  calc readEntries value? (.seq items) = .ok entries
      ↔ ∃ read, List.Forall₂ (fun item result => readItem value? item = .ok result) items read ∧
          List.Forall₂ (fun pairs entry => keyCount pairs = 1 ∧
            pairs.getLast? = some (entry.id, entry.value)) read entries := by
        rw [readEntries, bind_eq_ok_iff]
        exact exists_congr fun read => and_congr mapM_eq_ok_iff (hsingle read)
    _ ↔ List.Forall₂ (fun item entry => ∃ read, readItem value? item = .ok read ∧
          keyCount read = 1 ∧ read.getLast? = some (entry.id, entry.value)) items entries :=
        exists_forall₂_comp_iff
    _ ↔ List.Forall₂ (MeansEntry means) items entries :=
        forall₂_congr_left fun item hmem entry => meansEntry_iff hmeans (hitems item hmem)
    _ ↔ MeansItems (MeansEntry means) (.seq items) entries := by simp [MeansItems]

end Tables

/-! ## Dungeons -/

/-- What an obituary means. -/
def MeansObituary (item : Value) (obituary : Obituary) : Prop :=
  ∃ pairs, item = .map pairs ∧ valuesOf "query" pairs = [.string obituary.query] ∧
    valuesOf "yes_response" pairs = [.string obituary.yesResponse]

/-- The one value that a name is given means something. -/
def MeansNamed {α : Type} (name : String) (means : Value → α → Prop)
    (pairs : List (Value × Value)) (result : α) : Prop :=
  ∃ given, valuesOf name pairs = [given] ∧ means given result

/-- What the pairs of a document mean. -/
structure MeansDungeon (pairs : List (Value × Value)) (dungeon : Dungeon) : Prop where
  arbitraryMessages : MeansNamed "arbitrary_messages" (MeansItems (MeansEntry MeansText)) pairs
    dungeon.arbitraryMessages
  classMessages : MeansNamed "class_messages" (MeansItems (MeansEntry MeansText)) pairs
    dungeon.classMessages
  turnThresholdMessages : MeansNamed "turn_threshold_messages"
    (MeansItems (MeansEntry MeansText)) pairs dungeon.turnThresholdMessages
  locations : MeansNamed "locations" (MeansItems (MeansEntry MeansLocation)) pairs
    dungeon.locations
  objectDescriptions : MeansNamed "object_descriptions" (MeansItems (MeansEntry MeansObject)) pairs
    dungeon.objectDescriptions
  obituaries : MeansNamed "obituaries" (MeansItems MeansObituary) pairs dungeon.obituaries

section Dungeons

variable {demand : Demand} {checks : List (String × (Value → Option Mismatch))} {name : String}
  {pairs read : List (Value × Value)} {given : Value}

theorem readRecord_map_eq_ok (h : readRecord demand checks (.map pairs) = .ok read) :
    read = pairs := by
  obtain ⟨hnull, -⟩ | ⟨hmap, -⟩ := readRecord_eq_ok_iff.mp h
  · cases hnull
  · exact (Value.map.inj hmap).symm

theorem field_eq_ok (h : valuesOf name pairs = [given]) : field name pairs = .ok given :=
  field_eq_ok_iff.mpr (by rw [h, List.head?_cons])

theorem meansNamed_iff {α : Type} (h : valuesOf name pairs = [given]) {means : Value → α → Prop}
    {result : α} : MeansNamed name means pairs result ↔ means given result := by
  simp [MeansNamed, h]

theorem meansNamedTable_iff {α : Type} {value? : Value → Option α}
    {means : Value → Option α → Prop} (hmeans : ∀ v a, means v a ↔ value? v = a)
    (hgiven : valuesOf name pairs = [given])
    (htable : DescribesTable (fun value => value.holdsTag = true) given)
    (entries : List (Entry α)) :
    MeansNamed name (MeansItems (MeansEntry means)) pairs entries ↔
      readEntries value? given = .ok entries :=
  (meansNamed_iff hgiven).trans (meansTable_iff hmeans htable).symm

theorem meansObituary_iff {item : Value} (h : DescribesObituary item) {obituary : Obituary} :
    Obituary.ofValue item = .ok obituary ↔ MeansObituary item obituary := by
  obtain ⟨_, hread⟩ := reads_obituary_iff.mpr h
  obtain ⟨pairs, rfl, -, htexts⟩ := h
  obtain ⟨read, hrecord, -⟩ := bind_eq_ok_iff.mp hread
  obtain rfl := readRecord_map_eq_ok hrecord
  obtain ⟨query, hquery⟩ := htexts "query" (by simp)
  obtain ⟨yesResponse, hyes⟩ := htexts "yes_response" (by simp)
  obtain ⟨query', yesResponse'⟩ := obituary
  simp [Obituary.ofValue, MeansObituary, bind_eq_ok_iff, hrecord, field_eq_ok hquery,
    field_eq_ok hyes, hquery, hyes, readText, text?, pure, Except.pure]

theorem meansObituaries_iff {value : Value} (h : DescribesObituaries value)
    {obituaries : List Obituary} :
    readObituaries value = .ok obituaries ↔ MeansItems MeansObituary value obituaries := by
  obtain rfl | ⟨items, rfl, hitems⟩ := h
  · simp [readObituaries, MeansItems, eq_comm]
  calc readObituaries (.seq items) = .ok obituaries
      ↔ List.Forall₂ (fun item obituary => Obituary.ofValue item = .ok obituary) items
          obituaries := mapM_eq_ok_iff
    _ ↔ List.Forall₂ MeansObituary items obituaries :=
        forall₂_congr_left fun item hmem obituary => meansObituary_iff (hitems item hmem)
    _ ↔ MeansItems MeansObituary (.seq items) obituaries := by simp [MeansItems]

/-- A document is read as what it means. -/
theorem meansDungeon_iff {pairs : List (Value × Value)}
    (h : DescribesDungeon (fun value => value.holdsTag = true) (.map pairs)) {dungeon : Dungeon} :
    Dungeon.ofUntagged (.map pairs) = .ok dungeon ↔ MeansDungeon pairs dungeon := by
  obtain ⟨_, hread⟩ := reads_ofUntagged_iff.mpr h
  obtain ⟨read, hrecord, -⟩ := bind_eq_ok_iff.mp hread
  obtain rfl := readRecord_map_eq_ok hrecord
  obtain ⟨_, hmap, -, htables, obituaries, hobituaries, hlist⟩ := h
  obtain rfl := Value.map.inj hmap
  simp only [tableNames, List.forall_mem_cons, List.not_mem_nil, false_implies, implies_true,
    and_true] at htables
  obtain ⟨⟨arbitrary, harbitrary, htable1⟩, ⟨classes, hclasses, htable2⟩,
    ⟨turns, hturns, htable3⟩, ⟨locations, hlocations, htable4⟩, objects, hobjects, htable5⟩ :=
    htables
  have hsteps : Dungeon.ofUntagged (.map read) = .ok dungeon ↔
      readMessages arbitrary = .ok dungeon.arbitraryMessages ∧
      readMessages classes = .ok dungeon.classMessages ∧
      readMessages turns = .ok dungeon.turnThresholdMessages ∧
      readLocations locations = .ok dungeon.locations ∧
      readObjects objects = .ok dungeon.objectDescriptions ∧
      readObituaries obituaries = .ok dungeon.obituaries := by
    cases dungeon
    simp [Dungeon.ofUntagged, bind_eq_ok_iff, hrecord, field_eq_ok harbitrary,
      field_eq_ok hclasses, field_eq_ok hturns, field_eq_ok hlocations, field_eq_ok hobjects,
      field_eq_ok hobituaries, pure, Except.pure]
  have h1 := meansNamedTable_iff meansText_iff harbitrary htable1 dungeon.arbitraryMessages
  have h2 := meansNamedTable_iff meansText_iff hclasses htable2 dungeon.classMessages
  have h3 := meansNamedTable_iff meansText_iff hturns htable3 dungeon.turnThresholdMessages
  have h4 := meansNamedTable_iff meansLocation_iff hlocations htable4 dungeon.locations
  have h5 := meansNamedTable_iff meansObject_iff hobjects htable5 dungeon.objectDescriptions
  have h6 : MeansNamed "obituaries" (MeansItems MeansObituary) read dungeon.obituaries ↔
      readObituaries obituaries = .ok dungeon.obituaries :=
    (meansNamed_iff hobituaries).trans (meansObituaries_iff hlist).symm
  refine hsteps.trans ⟨fun h => ?_, fun h => ?_⟩
  · obtain ⟨hread1, hread2, hread3, hread4, hread5, hread6⟩ := h
    exact ⟨h1.mpr hread1, h2.mpr hread2, h3.mpr hread3, h4.mpr hread4, h5.mpr hread5,
      h6.mpr hread6⟩
  · exact ⟨h1.mp h.arbitraryMessages, h2.mp h.classMessages, h3.mp h.turnThresholdMessages,
      h4.mp h.locations, h5.mp h.objectDescriptions, h6.mp h.obituaries⟩

end Dungeons

/-! ## Spellings -/

/-- Two values are accepted alike, and mean the same. -/
def SameMeaning {α : Type} (means : Value → Option α → Prop) (v w : Value) : Prop :=
  (TagInKey v ↔ TagInKey w) ∧ ∀ a, means v a ↔ means w a

/-- All spellings of a record mean the same, also with its values replaced by
others that mean the same. -/
def IgnoresSpelling {α : Type} (names : List String) (same : Value → Value → Prop)
    (means : Value → Option α → Prop) : Prop :=
  ∀ given given' v w, List.Forall₂ same given given' → Spells names given v →
    Spells names given' w → SameMeaning means v w

section Spellings

variable {names : List String} {given given' : List Value} {v w : Value}

theorem Spells.meansField_congr {α : Type} {same : Value → Value → Prop}
    (hv : Spells names given v) (hw : Spells names given' w)
    (hsame : List.Forall₂ same given given') (hnames : names.Nodup)
    {means : Value → Option α → Prop} (hmeans : ∀ a b, same a b → ∀ f, means a f ↔ means b f)
    {n : Nat} {field : Option α} :
    MeansField names n means v field ↔ MeansField names n means w field := by
  simp only [MeansField, hv.gives_iff hnames, hw.gives_iff hnames]
  rcases forall₂_getElem? hsame n with ⟨ha, hb⟩ | ⟨a, b, ha, hb, hab⟩
  · simp [ha, hb]
  · simp [ha, hb, hmeans a b hab]

theorem Spells.meansRecord_congr {α : Type} (hv : Spells names given v)
    (hw : Spells names given' w) (hnames : names.Nodup) {fields fields' : α → Prop}
    (hfields : ∀ r, fields r ↔ fields' r) (record : Option α) :
    MeansRecord names fields v record ↔ MeansRecord names fields' w record := by
  have hrecord : RecordOf names v ↔ RecordOf names w :=
    iff_of_true (hv.recordOf hnames) (hw.recordOf hnames)
  simp only [MeansRecord, hrecord, hfields]

theorem ignoresSpelling_description :
    IgnoresSpelling ["short", "long"] (· = ·) MeansDescription := by
  intro given given' v w hsame hv hw
  have hnames : ["short", "long"].Nodup := by decide
  refine ⟨hv.tagInKey_congr hw hsame fun a b h => h ▸ Iff.rfl,
    hv.meansRecord_congr hw hnames fun d => ?_⟩
  exact and_congr (hv.meansField_congr hw hsame hnames fun a b h f => h ▸ Iff.rfl)
    (hv.meansField_congr hw hsame hnames fun a b h f => h ▸ Iff.rfl)

theorem ignoresSpelling_object :
    IgnoresSpelling ["inventory", "longs"] (· = ·) MeansObject := by
  intro given given' v w hsame hv hw
  have hnames : ["inventory", "longs"].Nodup := by decide
  refine ⟨hv.tagInKey_congr hw hsame fun a b h => h ▸ Iff.rfl,
    hv.meansRecord_congr hw hnames fun o => ?_⟩
  exact and_congr (hv.meansField_congr hw hsame hnames fun a b h f => h ▸ Iff.rfl)
    (hv.meansField_congr hw hsame hnames fun a b h f => h ▸ Iff.rfl)

theorem ignoresSpelling_location :
    IgnoresSpelling ["description"] (SameMeaning MeansDescription) MeansLocation := by
  intro given given' v w hsame hv hw
  have hnames : ["description"].Nodup := by decide
  refine ⟨hv.tagInKey_congr hw hsame fun a b h => h.1,
    hv.meansRecord_congr hw hnames fun l => ?_⟩
  exact hv.meansField_congr hw hsame hnames fun a b h => h.2

/-- A description by position in a location by number, with a text that is none. -/
example : Location.ofValue? (.map [(.number (.int 0), .seq [.bool true, .string "A hut."])]) =
    some ⟨some ⟨none, some "A hut."⟩⟩ := by rfl

end Spellings

/-! ## Documents -/

/-- What a document means: a mapping from whose values the parts of a dungeon
are read. -/
def MeansDocument (document : Value) (dungeon : Dungeon) : Prop :=
  ∃ pairs, document = .map pairs ∧ MeansDungeon pairs dungeon

/-- **What an accepted document means.**  A document is read as a dungeon
exactly if it is accepted and means this dungeon once the tags in value
positions are taken out.  The records in it may be spelled in any way. -/
theorem ofValue_eq_ok_iff (document : Value) (dungeon : Dungeon) :
    (Dungeon.ofValue document = .ok dungeon ↔
      DescribesDungeon TagInKey document.untagged ∧ MeansDocument document.untagged dungeon) ∧
    IgnoresSpelling ["description"] (SameMeaning MeansDescription) MeansLocation ∧
    IgnoresSpelling ["short", "long"] (· = ·) MeansDescription ∧
    IgnoresSpelling ["inventory", "longs"] (· = ·) MeansObject := by
  refine ⟨?_, ignoresSpelling_location, ignoresSpelling_description, ignoresSpelling_object⟩
  have hsame : DescribesDungeon (fun value => value.holdsTag = true) document.untagged ↔
      DescribesDungeon TagInKey document.untagged :=
    describesDungeon_congr (fun v hv => Value.holdsTag_iff_tagInKey hv)
      (Value.untagged_untagged document)
  have hmeans : ∀ pairs, document.untagged = .map pairs →
      DescribesDungeon (fun value => value.holdsTag = true) document.untagged →
        (Dungeon.ofValue document = .ok dungeon ↔ MeansDungeon pairs dungeon) := by
    intro pairs hpairs h
    rw [Dungeon.ofValue, hpairs]
    exact meansDungeon_iff (hpairs ▸ h)
  rw [← hsame]
  constructor
  · intro hread
    have hdescribed := reads_ofUntagged_iff.mp ⟨dungeon, hread⟩
    have ⟨pairs, hpairs, _⟩ := hdescribed
    exact ⟨hdescribed, pairs, hpairs, (hmeans pairs hpairs hdescribed).mp hread⟩
  · rintro ⟨hdescribed, pairs, hpairs, hdungeon⟩
    exact (hmeans pairs hpairs hdescribed).mpr hdungeon

end AdventureTables
