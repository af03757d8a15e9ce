import AdventureTables.Proofs.Reading.Alike
import AdventureTables.Proofs.Reading.Untagging
import Mathlib.Logic.Relation
/-!
# Edits that change nothing

In all mappings that fields are read from, the pairs may stand in any order, and
there may be others among them whose keys are texts that name no field: at the
root of a document, in the records that entries are given, and in obituaries.

An edit is such a change in one mapping of a document (`Edits`).  The parts of a
document that are on the way to the mapping are edited in turn, so one lemma for
each level says that what is read there is kept, if it is kept one level below
(`Keeps`).  A pair that is put in at the root does not even change what a
document is refused for.

What a new key is given does not matter at the root and in obituaries, where it
is passed over.  In an entry it must not have a tag in a key, since such a tag is
refused wherever it stands.
-/

namespace AdventureTables

open Yaml (Value)
open Yaml.Value (TaggedKey TagInKey)
open Relation (ReflTransGen)

/-! ## Edits -/

/-- Some pairs with another one put in somewhere, whose key is a text other than
some names, and whose value is not refused. -/
inductive Pads (names : List String) (refused : Value → Prop) :
    List (Value × Value) → List (Value × Value) → Prop
  | intro {before after : List (Value × Value)} {name : String} {value : Value}
      (hname : name ∉ names) (hvalue : ¬ refused value) :
      Pads names refused (before ++ after) (before ++ (.string name, value) :: after)

/-- Some pairs with another one put in, or in another order. -/
def EditsPairs (names : List String) (refused : Value → Prop)
    (pairs pairs' : List (Value × Value)) : Prop :=
  Pads names refused pairs pairs' ∨ pairs.Perm pairs'

/-- One of some things is changed. -/
def ChangesOne {α : Type} (change : α → α → Prop) (things things' : List α) : Prop :=
  ∃ before a b after, change a b ∧ things = before ++ a :: after ∧ things' = before ++ b :: after

/-- The value of a pair with some key is changed. -/
inductive InPair (key : Value → Prop) (change : Value → Value → Prop) :
    Value × Value → Value × Value → Prop
  | intro {k v w : Value} (hkey : key k) (h : change v w) : InPair key change (k, v) (k, w)

/-- The pairs of a mapping are changed, tags around it aside. -/
def InMapping (change : List (Value × Value) → List (Value × Value) → Prop) (v w : Value) : Prop :=
  ∃ pairs pairs', change pairs pairs' ∧ v.content = .map pairs ∧ w.content = .map pairs'

/-- The items of a sequence are changed, tags around it aside. -/
def InSequence (change : List Value → List Value → Prop) (v w : Value) : Prop :=
  ∃ items items', change items items' ∧ v.content = .seq items ∧ w.content = .seq items'

/-- A mapping that the fields with some names are read from is edited. -/
def EditsRecord (names : List String) (refused : Value → Prop) : Value → Value → Prop :=
  InMapping (EditsPairs names refused)

/-- A location is edited, or its description, which may be given by name, by
number or by position. -/
inductive EditsLocation (refused : Value → Prop) (v w : Value) : Prop
  | location (h : EditsRecord ["description"] refused v w)
  | byKey (h : InMapping (ChangesOne (InPair (FieldKey ["description"] 0)
      (EditsRecord ["short", "long"] refused))) v w)
  | byPosition (h : InSequence (ChangesOne (EditsRecord ["short", "long"] refused)) v w)

/-- What is given to a key of an entry is changed. -/
def InEntry (change : Value → Value → Prop) : Value → Value → Prop :=
  InMapping (ChangesOne (InPair (fun _ => True) change))

/-- An item of the collection of a name is changed. -/
def InCollection (name : String) (change : Value → Value → Prop) : Value → Value → Prop :=
  InMapping (ChangesOne (InPair (fun key => keyText? key = some name)
    (InSequence (ChangesOne change))))

/-- A document is edited in one of its mappings. -/
inductive Edits (refused : Value → Prop) (v w : Value) : Prop
  | root (h : EditsRecord collectionNames (fun _ => False) v w)
  | location (h : InCollection "locations" (InEntry (EditsLocation refused)) v w)
  | object (h : InCollection "object_descriptions"
      (InEntry (EditsRecord ["inventory", "longs"] refused)) v w)
  | obituary (h : InCollection "obituaries"
      (EditsRecord ["query", "yes_response"] fun _ => False) v w)

/-! ## Taking the tags out of what is edited -/

/-- A pair with a value without tags. -/
def untaggedPair (pair : Value × Value) : Value × Value :=
  (pair.1, pair.2.untagged)

theorem InMapping.imp {change change' : List (Value × Value) → List (Value × Value) → Prop}
    (hchange : ∀ pairs pairs', change pairs pairs' → change' pairs pairs') {v w : Value}
    (h : InMapping change v w) : InMapping change' v w := by
  obtain ⟨pairs, pairs', hpairs, hv, hw⟩ := h
  exact ⟨pairs, pairs', hchange pairs pairs' hpairs, hv, hw⟩

theorem InMapping.untagged {change : List (Value × Value) → List (Value × Value) → Prop}
    {v w : Value} (h : InMapping change v w) :
    ∃ pairs pairs', change pairs pairs' ∧ v.untagged = .map (pairs.map untaggedPair) ∧
      w.untagged = .map (pairs'.map untaggedPair) := by
  obtain ⟨pairs, pairs', hchange, hv, hw⟩ := h
  refine ⟨pairs, pairs', hchange, ?_, ?_⟩
  · rw [← Value.untagged_content, hv, Value.untagged, Value.untaggedPairs_eq]
    rfl
  · rw [← Value.untagged_content, hw, Value.untagged, Value.untaggedPairs_eq]
    rfl

theorem InSequence.untagged {change : List Value → List Value → Prop} {v w : Value}
    (h : InSequence change v w) :
    ∃ items items', change items items' ∧ v.untagged = .seq (items.map Value.untagged) ∧
      w.untagged = .seq (items'.map Value.untagged) := by
  obtain ⟨items, items', hchange, hv, hw⟩ := h
  refine ⟨items, items', hchange, ?_, ?_⟩
  · rw [← Value.untagged_content, hv, Value.untagged, Value.untaggedItems_eq]
  · rw [← Value.untagged_content, hw, Value.untagged, Value.untaggedItems_eq]

/-- If one thing is changed, all things are related to what stands in their
places then. -/
theorem ChangesOne.forall₂ {α β : Type} {change : α → α → Prop} {same : β → β → Prop} {f : α → β}
    {things things' : List α} (h : ChangesOne change things things')
    (hchange : ∀ a b, change a b → same (f a) (f b)) (hsame : ∀ b, same b b) :
    List.Forall₂ same (things.map f) (things'.map f) := by
  obtain ⟨before, a, b, after, hab, rfl, rfl⟩ := h
  rw [List.map_append, List.map_append, List.map_cons, List.map_cons]
  exact List.rel_append (List.forall₂_same.mpr fun b _ => hsame b)
    (.cons (hchange a b hab) (List.forall₂_same.mpr fun b _ => hsame b))

/-! ## Edited pairs -/

section Pairs

variable {names : List String} {refused : Value → Prop} {pairs pairs' : List (Value × Value)}

/-- A pair is put in among others, or the order is changed, also where the tags
are taken out. -/
theorem EditsPairs.untagged {refused' : Value → Prop} (h : EditsPairs names refused pairs pairs')
    (hvalue : ∀ v : Value, ¬ refused v → ¬ refused' v.untagged) :
    EditsPairs names refused' (pairs.map untaggedPair) (pairs'.map untaggedPair) := by
  rcases h with ⟨hname, hfine⟩ | h
  · left
    rw [List.map_append, List.map_append, List.map_cons]
    exact .intro hname (hvalue _ hfine)
  · exact .inr (h.map _)

/-- An edit leaves all pairs, and puts in some that are passed over. -/
theorem EditsPairs.exists_perm (h : EditsPairs names refused pairs pairs') :
    ∃ extra, pairs'.Perm (extra ++ pairs) ∧
      ∀ pair ∈ extra, (∃ name, name ∉ names ∧ pair.1 = .string name) ∧ ¬ refused pair.2 := by
  rcases h with ⟨hname, hfine⟩ | h
  · refine ⟨[_], List.perm_middle, fun pair hmem => ?_⟩
    obtain rfl := List.mem_singleton.mp hmem
    exact ⟨⟨_, hname, rfl⟩, hfine⟩
  · exact ⟨[], h.symm, by simp⟩

/-! ## Strict records -/

theorem EditsPairs.textKeys (h : EditsPairs names refused pairs pairs') (hkeys : TextKeys pairs) :
    TextKeys pairs' := by
  obtain ⟨extra, hperm, hextra⟩ := h.exists_perm
  intro pair hmem
  rcases List.mem_append.mp (hperm.mem_iff.mp hmem) with hmem | hmem
  · obtain ⟨⟨name, -, hkey⟩, -⟩ := hextra pair hmem
    exact ⟨name, by rw [hkey]; rfl⟩
  · exact hkeys pair hmem

/-- A name is still given its one value. -/
theorem EditsPairs.valuesOf_eq (h : EditsPairs names refused pairs pairs') {name : String}
    (hname : name ∈ names) {v : Value} (hv : valuesOf name pairs = [v]) :
    valuesOf name pairs' = [v] := by
  obtain ⟨extra, hperm, hextra⟩ := h.exists_perm
  have hnone : extra.filter (fun pair => keyText? pair.1 = some name) = [] := by
    refine List.filter_eq_nil_iff.mpr fun pair hmem => ?_
    obtain ⟨⟨other, hother, hkey⟩, -⟩ := hextra pair hmem
    have hne : other ≠ name := fun heq => hother (heq ▸ hname)
    simpa [hkey, keyText?, Value.content] using hne
  have hvalues : (valuesOf name pairs').Perm (valuesOf name (extra ++ pairs)) :=
    (hperm.filter _).map _
  have hsame : valuesOf name (extra ++ pairs) = valuesOf name pairs := by
    rw [valuesOf, List.filter_append, hnone, List.nil_append, valuesOf]
  rw [hsame, hv] at hvalues
  exact List.perm_singleton.mp hvalues

theorem EditsPairs.meansNamed {α : Type} {means : Value → α → Prop} {result : α} {name : String}
    (h : EditsPairs names refused pairs pairs') (hname : name ∈ names)
    (hmeans : MeansNamed name means pairs result) : MeansNamed name means pairs' result := by
  obtain ⟨given, hgiven, hresult⟩ := hmeans
  exact ⟨given, h.valuesOf_eq hname hgiven, hresult⟩

/-- An obituary keeps what is read from it. -/
theorem EditsPairs.keeps_obituary
    (h : EditsPairs ["query", "yes_response"] refused pairs pairs') :
    Keeps Obituary.ofValue (.map pairs) (.map pairs') := by
  intro obituary hread
  have hdescribed := reads_obituary_iff.mp ⟨obituary, hread⟩
  obtain ⟨_, hmap, hquery, hyes⟩ := (meansObituary_iff hdescribed).mp hread
  obtain rfl := Value.map.inj hmap
  obtain ⟨_, hmap, hkeys, htexts⟩ := hdescribed
  obtain rfl := Value.map.inj hmap
  have hdescribed' : DescribesObituary (.map pairs') := by
    refine ⟨pairs', rfl, h.textKeys hkeys, fun name hname => ?_⟩
    obtain ⟨text, htext⟩ := htexts name hname
    exact ⟨text, h.valuesOf_eq hname htext⟩
  exact (meansObituary_iff hdescribed').mpr
    ⟨pairs', rfl, h.valuesOf_eq (by simp) hquery, h.valuesOf_eq (by simp) hyes⟩

/-! ## Lenient records -/

/-- What is put in is given for no field, and the order does not count. -/
theorem EditsPairs.gives_iff (h : EditsPairs names refused pairs pairs') {n : Nat} {given : Value} :
    Gives names n (.map pairs) given ↔ Gives names n (.map pairs') given := by
  obtain ⟨extra, hperm, hextra⟩ := h.exists_perm
  rw [gives_map_iff, gives_map_iff]
  refine exists_congr fun key => and_congr_right fun hkey => ?_
  have hother : (key, given) ∉ extra := by
    intro hmem
    obtain ⟨⟨name, hname, rfl⟩, -⟩ := hextra _ hmem
    exact not_fieldKey_of_notMem hname hkey
  rw [hperm.mem_iff, List.mem_append, or_iff_right hother]

theorem EditsPairs.recordOf_iff (h : EditsPairs names refused pairs pairs') :
    RecordOf names (.map pairs) ↔ RecordOf names (.map pairs') := by
  obtain ⟨extra, hperm, hextra⟩ := h.exists_perm
  have hrecord : ∀ pair ∈ extra, RecordKey pair.1 := by
    intro pair hmem
    obtain ⟨⟨name, -, hkey⟩, -⟩ := hextra pair hmem
    rw [hkey]
    exact .text name
  have hnone : ∀ pair ∈ extra, ∀ n, ¬ FieldKey names n pair.1 := by
    intro pair hmem n
    obtain ⟨⟨name, hname, hkey⟩, -⟩ := hextra pair hmem
    rw [hkey]
    exact not_fieldKey_of_notMem hname
  -- What is put in belongs to no field, so it cannot give one twice.
  have hapart : extra.Pairwise fun p q => ∀ n, FieldKey names n p.1 → ¬ FieldKey names n q.1 :=
    List.pairwise_of_forall_mem_list fun p hp q _ n hkey => absurd hkey (hnone p hp n)
  rw [recordOf_map_iff, recordOf_map_iff, hperm.pairwise_iff fun h n hq hp => h n hp hq,
    List.pairwise_append]
  simp only [hperm.mem_iff, List.mem_append, or_imp, forall_and]
  constructor
  · rintro ⟨hkeys, honce⟩
    exact ⟨⟨hrecord, hkeys⟩, hapart, honce, fun p hp q _ n hkey => absurd hkey (hnone p hp n)⟩
  · rintro ⟨⟨-, hkeys⟩, -, honce, -⟩
    exact ⟨hkeys, honce⟩

/-- An edit leaves a record alone. -/
theorem EditsPairs.sameRecord {same : Value → Value → Prop}
    (h : EditsPairs names refused pairs pairs') (hsame : ∀ v, same v v) :
    SameRecord names same (.map pairs) (.map pairs') where
  recordOf_iff := h.recordOf_iff
  forth := fun _ given hgives => ⟨given, h.gives_iff.mp hgives, hsame given⟩
  back := fun _ given hgives => ⟨given, h.gives_iff.mpr hgives, hsame given⟩

/-- There is a tag in a record exactly if there was one before. -/
theorem EditsPairs.holdsTag_eq (h : EditsPairs names (fun v => v.holdsTag = true) pairs pairs') :
    (Value.map pairs).holdsTag = (Value.map pairs').holdsTag := by
  obtain ⟨extra, hperm, hextra⟩ := h.exists_perm
  have hnone : extra.any (fun pair => pair.1.holdsTag || pair.2.holdsTag) = false := by
    refine List.any_eq_false.mpr fun pair hmem => ?_
    obtain ⟨⟨name, -, hkey⟩, hvalue⟩ := hextra pair hmem
    simpa [hkey, Value.holdsTag] using hvalue
  rw [Value.holdsTag, Value.holdsTag, Value.anyPairHoldsTag_eq, Value.anyPairHoldsTag_eq,
    hperm.any_eq, List.any_append, hnone, Bool.false_or]

end Pairs

/-! ## Edited entries -/

section Entries

variable {α : Type} {value? : Value → Option α} {change : Value → Value → Prop} {v w : Value}

/-- An edited record is read alike. -/
theorem EditsRecord.readAlike {names : List String} {same : Value → Value → Prop}
    (h : EditsRecord names TagInKey v w) (hsame : ∀ v, same v v)
    (hvalue : ∀ v w, SameRecord names same v w → value? v = value? w) :
    ReadAlike value? v.untagged w.untagged := by
  obtain ⟨pairs, pairs', hedit, hv, hw⟩ := InMapping.untagged h
  have hedit' : EditsPairs names (fun v => v.holdsTag = true) (pairs.map untaggedPair)
      (pairs'.map untaggedPair) := hedit.untagged fun v => mt Value.holdsTag_untagged_iff.mp
  rw [hv, hw]
  exact ⟨hedit'.holdsTag_eq, hvalue _ _ (hedit'.sameRecord hsame)⟩

theorem EditsRecord.description (h : EditsRecord ["short", "long"] TagInKey v w) :
    ReadAlike Description.ofValue? v.untagged w.untagged :=
  h.readAlike (fun _ => rfl) fun _ _ hsame => hsame.description_eq

theorem EditsRecord.object (h : EditsRecord ["inventory", "longs"] TagInKey v w) :
    ReadAlike ObjectDescription.ofValue? v.untagged w.untagged :=
  h.readAlike (fun _ => rfl) fun _ _ hsame => hsame.object_eq

theorem InPair.samePair {key : Value → Prop} {p q : Value × Value} (h : InPair key change p q)
    (hchange : ∀ a b, change a b → ReadAlike value? a.untagged b.untagged) :
    SamePair (ReadAlike value?) (untaggedPair p) (untaggedPair q) := by
  obtain ⟨-, hvalue⟩ := h
  exact ⟨rfl, hchange _ _ hvalue⟩

theorem EditsLocation.readAlike (h : EditsLocation TagInKey v w) :
    ReadAlike Location.ofValue? v.untagged w.untagged := by
  rcases h with h | h | h
  · have hsame : ∀ v, Description.ofValue? v = Description.ofValue? v := fun _ => rfl
    exact h.readAlike hsame fun _ _ hrecord => hrecord.location_eq
  · obtain ⟨pairs, pairs', hpairs, hv, hw⟩ := h.untagged
    have halike : List.Forall₂ (SamePair (ReadAlike Description.ofValue?))
        (pairs.map untaggedPair) (pairs'.map untaggedPair) :=
      hpairs.forall₂ (fun p q hpair => hpair.samePair fun _ _ hedit => hedit.description)
        fun p => ⟨rfl, .refl p.2⟩
    rw [hv, hw]
    refine ⟨holdsTag_map_congr halike, SameRecord.location_eq (sameRecord_map ?_)⟩
    exact halike.imp fun _ _ hpair => ⟨hpair.1, hpair.2.value_eq⟩
  · obtain ⟨items, items', hitems, hv, hw⟩ := h.untagged
    have halike : List.Forall₂ (ReadAlike Description.ofValue?) (items.map Value.untagged)
        (items'.map Value.untagged) :=
      hitems.forall₂ (fun _ _ hedit => hedit.description) .refl
    rw [hv, hw]
    refine ⟨holdsTag_seq_congr halike, SameRecord.location_eq (sameRecord_seq ?_)⟩
    exact halike.imp fun _ _ hitem => hitem.value_eq

theorem InEntry.readItem_eq (h : InEntry change v w)
    (hchange : ∀ a b, change a b → ReadAlike value? a.untagged b.untagged) :
    readItem value? v.untagged = readItem value? w.untagged := by
  obtain ⟨pairs, pairs', hpairs, hv, hw⟩ := InMapping.untagged h
  rw [hv, hw]
  exact readItem_congr
    (hpairs.forall₂ (fun p q hpair => hpair.samePair hchange) fun p => ⟨rfl, .refl p.2⟩)

/-- A table with an entry edited is read as before. -/
theorem InSequence.readEntries_eq (h : InSequence (ChangesOne (InEntry change)) v w)
    (hchange : ∀ a b, change a b → ReadAlike value? a.untagged b.untagged) :
    readEntries value? v.untagged = readEntries value? w.untagged := by
  obtain ⟨items, items', hitems, hv, hw⟩ := h.untagged
  rw [hv, hw]
  exact readEntries_congr
    (hitems.forall₂ (fun a b hentry => hentry.readItem_eq hchange) fun _ => rfl)

/-- Obituaries of which one is edited keep what is read from them. -/
theorem InSequence.keeps_readObituaries {refused : Value → Prop}
    (h : InSequence (ChangesOne (EditsRecord ["query", "yes_response"] refused)) v w) :
    Keeps readObituaries v.untagged w.untagged := by
  obtain ⟨items, items', hitems, hv, hw⟩ := h.untagged
  have hobituary : ∀ a b, EditsRecord ["query", "yes_response"] refused a b →
      Keeps Obituary.ofValue a.untagged b.untagged := by
    intro a b hrecord
    obtain ⟨pairs, pairs', hedit, ha, hb⟩ := InMapping.untagged hrecord
    have hedit' : EditsPairs ["query", "yes_response"] (fun _ => False) (pairs.map untaggedPair)
        (pairs'.map untaggedPair) := hedit.untagged fun _ _ => id
    rw [ha, hb]
    exact hedit'.keeps_obituary
  rw [hv, hw]
  exact keeps_mapM (hitems.forall₂ hobituary .refl)

end Entries

/-! ## Edited documents -/

section Documents

variable {change : Value → Value → Prop} {v w : Value}

theorem InCollection.keeps {name : String} (h : InCollection name change v w)
    (hchange : ∀ a b, InSequence (ChangesOne change) a b →
      KeepsNamed name a.untagged b.untagged) : Keeps Dungeon.ofValue v w := by
  obtain ⟨pairs, pairs', hpairs, hv, hw⟩ := InMapping.untagged h
  have hkeep : List.Forall₂ KeepsPair (pairs.map untaggedPair) (pairs'.map untaggedPair) := by
    refine hpairs.forall₂ ?_ fun p => ⟨rfl, fun name _ => .refl name p.2⟩
    rintro p q ⟨hname, hinner⟩
    refine ⟨rfl, fun given hgiven => ?_⟩
    obtain rfl := Option.some.inj (hname.symm.trans hgiven)
    exact hchange _ _ hinner
  unfold Dungeon.ofValue
  rw [Keeps, hv, hw]
  exact keeps_ofUntagged hkeep

theorem EditsRecord.keeps_ofValue {refused : Value → Prop}
    (h : EditsRecord collectionNames refused v w) : Keeps Dungeon.ofValue v w := by
  obtain ⟨pairs, pairs', hedit, hv, hw⟩ := InMapping.untagged h
  have hedit' : EditsPairs collectionNames (fun _ => False) (pairs.map untaggedPair)
      (pairs'.map untaggedPair) := hedit.untagged fun _ _ => id
  intro dungeon hread
  rw [Dungeon.ofValue, hv] at hread
  rw [Dungeon.ofValue, hw]
  obtain ⟨hkeys, h1, h2, h3, h4, h5, h6⟩ := ofUntagged_eq_ok_iff.mp hread
  exact ofUntagged_eq_ok_iff.mpr ⟨hedit'.textKeys hkeys, hedit'.meansNamed (by decide) h1,
    hedit'.meansNamed (by decide) h2, hedit'.meansNamed (by decide) h3,
    hedit'.meansNamed (by decide) h4, hedit'.meansNamed (by decide) h5,
    hedit'.meansNamed (by decide) h6⟩

/-- One edit keeps what is read from a document. -/
theorem Edits.keeps (h : Edits TagInKey v w) : Keeps Dungeon.ofValue v w := by
  rcases h with h | h | h | h
  · exact h.keeps_ofValue
  · refine h.keeps fun a b hitems => ⟨by simp, fun _ => ?_, by simp, by simp⟩
    exact .of_eq (hitems.readEntries_eq fun _ _ hedit => hedit.readAlike)
  · refine h.keeps fun a b hitems => ⟨by simp, by simp, fun _ => ?_, by simp⟩
    exact .of_eq (hitems.readEntries_eq fun _ _ hedit => hedit.object)
  · refine h.keeps fun a b hitems => ⟨by simp, by simp, by simp, fun _ => ?_⟩
    exact hitems.keeps_readObituaries

end Documents

/-! ## Pairs put in at the root -/

section Pads

variable {before after : List (Value × Value)} {name : String} {value : Value}

/-- A name that is not known is passed over, whatever it is given. -/
theorem firstFault_pad (hname : name ∉ collectionNames) (seen : List String) :
    firstFault Dungeon.checks seen (before ++ (.string name, value) :: after) =
      firstFault Dungeon.checks seen (before ++ after) := by
  have hlookup := lookup_checks_eq_none_iff.mpr hname
  induction before generalizing seen with
  | nil => simp [firstFault, keyText?, Value.content, hlookup]
  | cons pair before ih => simp only [List.cons_append, firstFault, ih]

theorem field_pad {other : String} (hne : name ≠ other) :
    field other (before ++ (.string name, value) :: after) = field other (before ++ after) := by
  simp [field, List.find?_append, keyText?, Value.content, hne]

theorem ofUntagged_pad (hname : name ∉ collectionNames) :
    Dungeon.ofUntagged (.map (before ++ (.string name, value) :: after)) =
      Dungeon.ofUntagged (.map (before ++ after)) := by
  have hfield : ∀ other ∈ collectionNames,
      field other (before ++ (.string name, value) :: after) = field other (before ++ after) :=
    fun other hother => field_pad fun heq => hname (heq ▸ hother)
  simp only [collectionNames, tableNames, List.cons_append, List.nil_append,
    List.forall_mem_cons] at hfield
  obtain ⟨h1, h2, h3, h4, h5, h6, -⟩ := hfield
  simp only [Dungeon.ofUntagged, readRecord, firstFault_pad hname]
  cases firstFault Dungeon.checks [] (before ++ after) with
  | some mismatch => rfl
  | none => simp only [bind, Except.bind, h1, h2, h3, h4, h5, h6]

/-- What is put in at the root does not even change what a document is refused
for. -/
theorem ofValue_pad {refused : Value → Prop} {v w : Value}
    (h : InMapping (Pads collectionNames refused) v w) : Dungeon.ofValue w = Dungeon.ofValue v := by
  obtain ⟨pairs, pairs', ⟨hname, -⟩, hv, hw⟩ := h.untagged
  rw [Dungeon.ofValue, Dungeon.ofValue, hv, hw, List.map_append, List.map_append, List.map_cons]
  exact ofUntagged_pad hname

end Pads

/-- **Edits do not matter.**  A document in whose root mapping a pair is put in
under a name that is not known, with any value, is read as the same dungeon or
refused for the same reason.  And a document that is read is read as the same
dungeon after any number of edits, at the root, in the records of its locations
and objects, and in its obituaries, if no value that is put in in a record has a
tag in a key. -/
theorem ofValue_ignores_edits (v w : Value) :
    (InMapping (Pads collectionNames fun _ => False) v w →
      Dungeon.ofValue w = Dungeon.ofValue v) ∧
    (ReflTransGen (Edits TagInKey) v w →
      ∀ dungeon, Dungeon.ofValue v = .ok dungeon → Dungeon.ofValue w = .ok dungeon) := by
  refine ⟨ofValue_pad, fun h dungeon hread => ?_⟩
  induction h with
  | refl => exact hread
  | tail _ hedit ih => exact hedit.keeps dungeon ih

/-- A document with a location, whose description is made of some pairs, and some
more pairs at the root. -/
def hutDocument (description more : List (Value × Value)) : Value :=
  .map ((.string "locations", .seq [.map [(.string "HUT",
      .map [(.string "description", .map description)])]]) ::
    [(.string "arbitrary_messages", .null), (.string "class_messages", .null),
      (.string "turn_threshold_messages", .null), (.string "object_descriptions", .null),
      (.string "obituaries", .null)] ++ more)

/-- A pair is put in in the description. -/
theorem edits_hutDocument {refused : Value → Prop} {before after more : List (Value × Value)}
    {name : String} {value : Value} (hname : name ∉ ["short", "long"]) (hvalue : ¬ refused value) :
    Edits refused (hutDocument (before ++ after) more)
      (hutDocument (before ++ (.string name, value) :: after) more) := by
  have hdescription : EditsRecord ["short", "long"] refused (.map (before ++ after))
      (.map (before ++ (.string name, value) :: after)) :=
    ⟨_, _, .inl (.intro hname hvalue), rfl, rfl⟩
  have hlocation : EditsLocation refused
      (.map [(.string "description", .map (before ++ after))])
      (.map [(.string "description", .map (before ++ (.string name, value) :: after))]) :=
    .byKey ⟨_, _, ⟨[], _, _, [], .intro (.name rfl) hdescription, rfl, rfl⟩, rfl, rfl⟩
  refine .location ⟨_, _, ⟨[], _, _, _, .intro rfl ?_, rfl, rfl⟩, rfl, rfl⟩
  refine ⟨_, _, ⟨[], _, _, [], ?_, rfl, rfl⟩, rfl, rfl⟩
  exact ⟨_, _, ⟨[], _, _, [], .intro trivial hlocation, rfl, rfl⟩, rfl, rfl⟩

/-- A pair is put in at the root. -/
theorem pads_hutDocument {description : List (Value × Value)} {name : String} {value : Value}
    (hname : name ∉ collectionNames) :
    InMapping (Pads collectionNames fun _ => False) (hutDocument description [])
      (hutDocument description [(.string name, value)]) :=
  ⟨_, _, .intro hname id, rfl, rfl⟩

/-- A hint at the root, and then a view in the description, change nothing. -/
theorem ofValue_hutDocument :
    Dungeon.ofValue (hutDocument [(.string "short", .string "Hut.")]
      [(.string "hint", .bool true)]) =
      Dungeon.ofValue (hutDocument [(.string "short", .string "Hut.")] []) ∧
    Dungeon.ofValue (hutDocument [(.string "view", .null), (.string "short", .string "Hut.")]
      [(.string "hint", .bool true)]) =
      .ok ⟨[], [], [], [⟨"HUT", some ⟨some ⟨some "Hut.", none⟩⟩⟩], [], []⟩ := by
  have hpads : InMapping (Pads collectionNames fun _ => False)
      (hutDocument [(.string "short", .string "Hut.")] [])
      (hutDocument [(.string "short", .string "Hut.")] [(.string "hint", .bool true)]) :=
    pads_hutDocument (by decide)
  have hnull : ¬ TagInKey .null := fun h => by cases h
  have hedit : Edits TagInKey
      (hutDocument ([] ++ [(.string "short", .string "Hut.")]) [(.string "hint", .bool true)])
      (hutDocument ([] ++ (.string "view", .null) :: [(.string "short", .string "Hut.")])
        [(.string "hint", .bool true)]) := edits_hutDocument (by decide) hnull
  have hroot : Edits TagInKey _ _ := .root (hpads.imp fun _ _ => .inl)
  exact ⟨(ofValue_ignores_edits _ _).1 hpads,
    (ofValue_ignores_edits _ _).2 (.tail (.single hroot) hedit) _ rfl⟩

/-- A value may be refused in a description though none of its keys has a tag of
its own. -/
theorem hutDocument_refused :
    Edits TaggedKey (hutDocument [(.string "short", .string "Hut.")] [])
      (hutDocument [(.string "short", .string "Hut."), (.string "view", Value.seqKeyed)] []) ∧
    Dungeon.ofValue (hutDocument [(.string "short", .string "Hut.")] []) =
      .ok ⟨[], [], [], [⟨"HUT", some ⟨some ⟨some "Hut.", none⟩⟩⟩], [], []⟩ ∧
    Dungeon.ofValue (hutDocument [(.string "short", .string "Hut."),
      (.string "view", Value.seqKeyed)] []) = .error .strayTag := by
  have hedit : Edits TaggedKey (hutDocument ([(.string "short", .string "Hut.")] ++ []) [])
      (hutDocument ([(.string "short", .string "Hut.")] ++ [(.string "view", Value.seqKeyed)])
        []) := edits_hutDocument (by decide) Value.seqKeyed_tagInKey.2
  exact ⟨hedit, rfl, rfl⟩

end AdventureTables
