import AdventureTables.Proofs.Reading.Blame
import AdventureTables.Proofs.Reading.Meaning
/-!
# Parts that are read alike

What is read from a document stays the same if a part of it is replaced by
another one that is read alike.  What this takes depends on the level.  Records
are alike if they give values to the same fields that are themselves read alike
(`SameRecord`).  The values of entries must also agree on whether there is a tag
in them (`ReadAlike`).  Of a collection it is enough that what is read from it is
read again (`KeepsNamed`).
-/

namespace AdventureTables

open Yaml (Value)

/-! ## Records that give the same -/

/-- A text that is no name of a field is no key of one. -/
theorem not_fieldKey_of_notMem {names : List String} {name : String} (h : name ∉ names) {n : Nat} :
    ¬ FieldKey names n (.string name) := by
  intro hkey
  cases hkey with
  | name hname => exact h (List.mem_of_getElem? hname)

/-- Two values are alike as records with some fields: if one is a record, the
other is one, too, and what they give for a field is related. -/
structure SameRecord (names : List String) (same : Value → Value → Prop) (v w : Value) : Prop where
  recordOf_iff : RecordOf names v ↔ RecordOf names w
  forth : ∀ n given, Gives names n v given → ∃ other, Gives names n w other ∧ same given other
  back : ∀ n other, Gives names n w other → ∃ given, Gives names n v given ∧ same given other

section SameRecord

variable {names : List String} {same : Value → Value → Prop} {v w : Value}

theorem SameRecord.symm (h : SameRecord names same v w) :
    SameRecord names (fun a b => same b a) w v :=
  ⟨h.recordOf_iff.symm, h.back, h.forth⟩

theorem SameRecord.meansField {α : Type} (h : SameRecord names same v w)
    {means : Value → Option α → Prop} (hmeans : ∀ a b, same a b → ∀ f, means a f ↔ means b f)
    {n : Nat} {field : Option α} (hfield : MeansField names n means v field) :
    MeansField names n means w field := by
  obtain ⟨hgiven, hnone⟩ := hfield
  constructor
  · intro other hother
    obtain ⟨given, hgives, hsame⟩ := h.back n other hother
    exact (hmeans given other hsame field).mp (hgiven given hgives)
  · intro hothers
    refine hnone fun given hgives => ?_
    obtain ⟨other, hother, -⟩ := h.forth n given hgives
    exact hothers other hother

theorem SameRecord.meansField_iff {α : Type} (h : SameRecord names same v w)
    {means : Value → Option α → Prop} (hmeans : ∀ a b, same a b → ∀ f, means a f ↔ means b f)
    {n : Nat} {field : Option α} :
    MeansField names n means v field ↔ MeansField names n means w field :=
  ⟨h.meansField hmeans, h.symm.meansField fun a b hsame f => (hmeans b a hsame f).symm⟩

/-- What a record means is the same if its fields mean the same. -/
theorem SameRecord.read_eq {α : Type} (h : SameRecord names same v w) {value? : Value → Option α}
    {fields : Value → α → Prop} (hread : ∀ v r, MeansRecord names (fields v) v r ↔ value? v = r)
    (hfields : ∀ r, fields v r ↔ fields w r) : value? v = value? w := by
  have hw : MeansRecord names (fields w) w (value? w) := (hread w _).mpr rfl
  apply (hread v _).mp
  simpa only [MeansRecord, h.recordOf_iff, hfields] using hw

theorem SameRecord.description_eq (h : SameRecord ["short", "long"] (· = ·) v w) :
    Description.ofValue? v = Description.ofValue? w :=
  h.read_eq meansDescription_iff fun _ =>
    and_congr (h.meansField_iff fun _ _ hsame _ => hsame ▸ Iff.rfl)
      (h.meansField_iff fun _ _ hsame _ => hsame ▸ Iff.rfl)

theorem SameRecord.object_eq (h : SameRecord ["inventory", "longs"] (· = ·) v w) :
    ObjectDescription.ofValue? v = ObjectDescription.ofValue? w :=
  h.read_eq meansObject_iff fun _ =>
    and_congr (h.meansField_iff fun _ _ hsame _ => hsame ▸ Iff.rfl)
      (h.meansField_iff fun _ _ hsame _ => hsame ▸ Iff.rfl)

/-- A location is read alike if its description is. -/
theorem SameRecord.location_eq
    (h : SameRecord ["description"] (fun a b => Description.ofValue? a = Description.ofValue? b)
      v w) : Location.ofValue? v = Location.ofValue? w := by
  refine h.read_eq meansLocation_iff fun l => h.meansField_iff fun a b hsame f => ?_
  rw [meansDescription_iff, meansDescription_iff, hsame]

end SameRecord

section Parts

variable {names : List String} {same : Value → Value → Prop} {items items' : List Value}
  {pairs pairs' : List (Value × Value)}

/-- Two pairs have the same key, and values that are related. -/
def SamePair (same : Value → Value → Prop) (p q : Value × Value) : Prop :=
  p.1 = q.1 ∧ same p.2 q.2

/-- Whether a mapping is a record is a matter of its keys. -/
theorem recordOf_map_iff_keys :
    RecordOf names (.map pairs) ↔ (∀ key ∈ pairs.map Prod.fst, RecordKey key) ∧
      (pairs.map Prod.fst).Pairwise fun k l => ∀ n, FieldKey names n k → ¬ FieldKey names n l := by
  rw [recordOf_map_iff, List.forall_mem_map, List.pairwise_map]

theorem exists_gives_map (h : List.Forall₂ (SamePair same) pairs pairs') {n : Nat} {given : Value}
    (hgives : Gives names n (.map pairs) given) :
    ∃ other, Gives names n (.map pairs') other ∧ same given other := by
  obtain ⟨key, hkey, hmem⟩ := gives_map_iff.mp hgives
  obtain ⟨⟨_, other⟩, hother, rfl, hsame⟩ := exists_mem_of_forall₂ h hmem
  exact ⟨other, gives_map_iff.mpr ⟨key, hkey, hother⟩, hsame⟩

theorem sameRecord_map (h : List.Forall₂ (SamePair same) pairs pairs') :
    SameRecord names same (.map pairs) (.map pairs') := by
  have hkeys : pairs.map Prod.fst = pairs'.map Prod.fst :=
    map_eq_of_forall₂ (h.imp fun _ _ hpair => hpair.1)
  have hback : List.Forall₂ (SamePair fun a b => same b a) pairs' pairs :=
    (h.imp fun p q hpair => ⟨hpair.1.symm, hpair.2⟩).flip
  constructor
  · rw [recordOf_map_iff_keys, recordOf_map_iff_keys, hkeys]
  · exact fun n given => exists_gives_map h
  · exact fun n other => exists_gives_map hback

theorem exists_gives_seq (h : List.Forall₂ same items items') {n : Nat} {given : Value}
    (hgives : Gives names n (.seq items) given) :
    ∃ other, Gives names n (.seq items') other ∧ same given other := by
  have hitem := gives_seq_iff.mp hgives
  rcases forall₂_getElem? h n with ⟨hnone, -⟩ | ⟨a, b, ha, hb, hab⟩
  · simp [hnone] at hitem
  · obtain rfl := Option.some.inj (ha.symm.trans hitem)
    exact ⟨b, gives_seq_iff.mpr hb, hab⟩

theorem sameRecord_seq (h : List.Forall₂ same items items') :
    SameRecord names same (.seq items) (.seq items') := by
  have hback : List.Forall₂ (fun a b => same b a) items' items := h.flip
  constructor
  · rw [recordOf_seq_iff, recordOf_seq_iff, h.length_eq]
  · exact fun n given => exists_gives_seq h
  · exact fun n other => exists_gives_seq hback

end Parts

/-! ## Values of entries -/

/-- Two values are read alike, and refused alike, as values of an entry. -/
structure ReadAlike {α : Type} (value? : Value → Option α) (v w : Value) : Prop where
  holdsTag_eq : v.holdsTag = w.holdsTag
  value_eq : value? v = value? w

section Entries

variable {α : Type} {value? : Value → Option α} {items items' : List Value}
  {pairs pairs' : List (Value × Value)}

theorem ReadAlike.refl (v : Value) : ReadAlike value? v v :=
  ⟨rfl, rfl⟩

theorem holdsTag_seq_congr (h : List.Forall₂ (ReadAlike value?) items items') :
    (Value.seq items).holdsTag = (Value.seq items').holdsTag := by
  have htags : items.map Value.holdsTag = items'.map Value.holdsTag :=
    map_eq_of_forall₂ (h.imp fun _ _ halike => halike.holdsTag_eq)
  have hany := congrArg (List.any · id) htags
  simpa [Value.holdsTag, List.any_map] using hany

theorem holdsTag_map_congr (h : List.Forall₂ (SamePair (ReadAlike value?)) pairs pairs') :
    (Value.map pairs).holdsTag = (Value.map pairs').holdsTag := by
  have htags : pairs.map (fun pair => pair.1.holdsTag || pair.2.holdsTag) =
      pairs'.map fun pair => pair.1.holdsTag || pair.2.holdsTag := by
    refine map_eq_of_forall₂ (h.imp fun p q hpair => ?_)
    rw [hpair.1, hpair.2.holdsTag_eq]
  have hany := congrArg (List.any · id) htags
  simpa [Value.holdsTag, List.any_map] using hany

theorem readItem_congr (h : List.Forall₂ (SamePair (ReadAlike value?)) pairs pairs') :
    readItem value? (.map pairs) = readItem value? (.map pairs') := by
  refine mapM_congr_of_forall₂ (h.imp fun p q hpair => ?_)
  rw [readPair, readPair, hpair.1, hpair.2.holdsTag_eq, hpair.2.value_eq]

theorem readEntries_congr
    (h : List.Forall₂ (fun v w => readItem value? v = readItem value? w) items items') :
    readEntries value? (.seq items) = readEntries value? (.seq items') := by
  rw [readEntries, readEntries, mapM_congr_of_forall₂ h]

end Entries

/-! ## Collections -/

section Collections

variable {pairs pairs' : List (Value × Value)}

/-- What is read from the pairs of a document, collection by collection. -/
structure ReadsDungeon (pairs : List (Value × Value)) (dungeon : Dungeon) : Prop where
  textKeys : TextKeys pairs
  arbitraryMessages : MeansNamed "arbitrary_messages" (fun v r => readMessages v = .ok r) pairs
    dungeon.arbitraryMessages
  classMessages : MeansNamed "class_messages" (fun v r => readMessages v = .ok r) pairs
    dungeon.classMessages
  turnThresholdMessages : MeansNamed "turn_threshold_messages" (fun v r => readMessages v = .ok r)
    pairs dungeon.turnThresholdMessages
  locations : MeansNamed "locations" (fun v r => readLocations v = .ok r) pairs dungeon.locations
  objectDescriptions : MeansNamed "object_descriptions" (fun v r => readObjects v = .ok r) pairs
    dungeon.objectDescriptions
  obituaries : MeansNamed "obituaries" (fun v r => readObituaries v = .ok r) pairs
    dungeon.obituaries

/-- A document is read collection by collection, once its pairs are found
without fault. -/
theorem ofUntagged_map_eq_ok_iff {dungeon : Dungeon} :
    Dungeon.ofUntagged (.map pairs) = .ok dungeon ↔
      firstFault Dungeon.checks [] pairs = none ∧
      (∃ v, field "arbitrary_messages" pairs = .ok v ∧
        readMessages v = .ok dungeon.arbitraryMessages) ∧
      (∃ v, field "class_messages" pairs = .ok v ∧ readMessages v = .ok dungeon.classMessages) ∧
      (∃ v, field "turn_threshold_messages" pairs = .ok v ∧
        readMessages v = .ok dungeon.turnThresholdMessages) ∧
      (∃ v, field "locations" pairs = .ok v ∧ readLocations v = .ok dungeon.locations) ∧
      (∃ v, field "object_descriptions" pairs = .ok v ∧
        readObjects v = .ok dungeon.objectDescriptions) ∧
      ∃ v, field "obituaries" pairs = .ok v ∧ readObituaries v = .ok dungeon.obituaries := by
  cases dungeon
  simp [Dungeon.ofUntagged, bind_eq_ok_iff, readRecord_eq_ok_iff, pure, Except.pure, ← and_assoc]

/-- A collection that may be given once is given the value that is found. -/
theorem meansNamed_of_field {α : Type} {read : Value → Except Mismatch α} {name : String}
    {result : α} (honce : (valuesOf name pairs).length ≤ 1)
    (h : ∃ v, field name pairs = .ok v ∧ read v = .ok result) :
    MeansNamed name (fun v r => read v = .ok r) pairs result := by
  obtain ⟨v, hfield, hread⟩ := h
  obtain ⟨rest, hvalues⟩ := List.head?_eq_some_iff.mp (field_eq_ok_iff.mp hfield)
  obtain rfl : rest = [] := by simpa [hvalues] using honce
  exact ⟨v, hvalues, hread⟩

theorem MeansNamed.exists_field {α : Type} {read : Value → Except Mismatch α} {name : String}
    {result : α} (h : MeansNamed name (fun v r => read v = .ok r) pairs result) :
    ∃ v, field name pairs = .ok v ∧ read v = .ok result := by
  obtain ⟨v, hv, hread⟩ := h
  exact ⟨v, field_eq_ok hv, hread⟩

/-- A collection that is read once passes the check for it. -/
theorem MeansNamed.checks {α : Type} {read : Value → Except Mismatch α} {name : String}
    {result : α} (h : MeansNamed name (fun v r => read v = .ok r) pairs result) :
    (valuesOf name pairs).length ≤ 1 ∧ ∀ v ∈ valuesOf name pairs, fault? (read v) = none := by
  obtain ⟨v, hv, hread⟩ := h
  simp [hv, hread, fault?]

theorem ofUntagged_eq_ok_iff {dungeon : Dungeon} :
    Dungeon.ofUntagged (.map pairs) = .ok dungeon ↔ ReadsDungeon pairs dungeon := by
  rw [ofUntagged_map_eq_ok_iff, firstFault_eq_none_iff]
  constructor
  · rintro ⟨⟨hkeys, hchecks⟩, h1, h2, h3, h4, h5, h6⟩
    have honce : ∀ name ∈ collectionNames, (valuesOf name pairs).length ≤ 1 := by
      intro name hname
      cases hcheck : Dungeon.checks.lookup name with
      | none => exact absurd hname (lookup_checks_eq_none_iff.mp hcheck)
      | some check => exact (hchecks name check hcheck).1
    exact ⟨hkeys, meansNamed_of_field (honce _ (by decide)) h1,
      meansNamed_of_field (honce _ (by decide)) h2, meansNamed_of_field (honce _ (by decide)) h3,
      meansNamed_of_field (honce _ (by decide)) h4, meansNamed_of_field (honce _ (by decide)) h5,
      meansNamed_of_field (honce _ (by decide)) h6⟩
  · rintro ⟨hkeys, h1, h2, h3, h4, h5, h6⟩
    refine ⟨⟨hkeys, fun name check hcheck => ?_⟩, h1.exists_field, h2.exists_field, h3.exists_field,
      h4.exists_field, h5.exists_field, h6.exists_field⟩
    have hall : ∀ entry ∈ Dungeon.checks, (valuesOf entry.1 pairs).length ≤ 1 ∧
        ∀ v ∈ valuesOf entry.1 pairs, entry.2 v = none := by
      simp only [Dungeon.checks, List.forall_mem_cons]
      exact ⟨h1.checks, h2.checks, h3.checks, h4.checks, h5.checks, h6.checks, by simp⟩
    exact hall (name, check) ((lookup_eq_some_iff_mem (by decide)).mp hcheck)

/-- What is read for a name is kept. -/
structure KeepsNamed (name : String) (v w : Value) : Prop where
  messages : name ∈ ["arbitrary_messages", "class_messages", "turn_threshold_messages"] →
    Keeps readMessages v w
  locations : name = "locations" → Keeps readLocations v w
  objects : name = "object_descriptions" → Keeps readObjects v w
  obituaries : name = "obituaries" → Keeps readObituaries v w

theorem KeepsNamed.refl (name : String) (v : Value) : KeepsNamed name v v :=
  ⟨fun _ => .refl v, fun _ => .refl v, fun _ => .refl v, fun _ => .refl v⟩

/-- Two pairs of a document have the same key, and what is read for it is
kept. -/
def KeepsPair (p q : Value × Value) : Prop :=
  p.1 = q.1 ∧ ∀ name, keyText? p.1 = some name → KeepsNamed name p.2 q.2

theorem forall₂_valuesOf {name : String} {same : Value → Value → Prop}
    (h : List.Forall₂ (fun p q => p.1 = q.1 ∧ (keyText? p.1 = some name → same p.2 q.2)) pairs
      pairs') : List.Forall₂ same (valuesOf name pairs) (valuesOf name pairs') := by
  induction h with
  | nil => exact .nil
  | @cons p q _ _ hpair _ ih =>
      obtain ⟨hkey, hsame⟩ := hpair
      by_cases hname : keyText? p.1 = some name
      · rw [valuesOf_cons_self hname, valuesOf_cons_self (hkey ▸ hname)]
        exact .cons (hsame hname) ih
      · rw [valuesOf_cons_of_ne hname, valuesOf_cons_of_ne (hkey ▸ hname)]
        exact ih

theorem MeansNamed.of_forall₂ {α : Type} {name : String} {read : Value → Except Mismatch α}
    {result : α} (h : List.Forall₂ KeepsPair pairs pairs')
    (hkeep : ∀ v w, KeepsNamed name v w → Keeps read v w)
    (hmeans : MeansNamed name (fun v r => read v = .ok r) pairs result) :
    MeansNamed name (fun v r => read v = .ok r) pairs' result := by
  obtain ⟨given, hgiven, hread⟩ := hmeans
  have hvalues : List.Forall₂ (KeepsNamed name) (valuesOf name pairs) (valuesOf name pairs') :=
    forall₂_valuesOf (h.imp fun p q hpair => ⟨hpair.1, hpair.2 name⟩)
  rw [hgiven, List.forall₂_cons_left_iff] at hvalues
  obtain ⟨other, _, hnamed, hnil, hother⟩ := hvalues
  rw [List.forall₂_nil_left_iff.mp hnil] at hother
  exact ⟨other, hother, hkeep given other hnamed result hread⟩

/-- A document is read as before if its collections are replaced by others of
which the same is read. -/
theorem keeps_ofUntagged (h : List.Forall₂ KeepsPair pairs pairs') :
    Keeps Dungeon.ofUntagged (.map pairs) (.map pairs') := by
  intro dungeon hread
  obtain ⟨hkeys, hm1, hm2, hm3, hm4, hm5, hm6⟩ := ofUntagged_eq_ok_iff.mp hread
  apply ofUntagged_eq_ok_iff.mpr
  constructor
  case textKeys =>
    have hsame : pairs.map Prod.fst = pairs'.map Prod.fst :=
      map_eq_of_forall₂ (h.imp fun _ _ hpair => hpair.1)
    have hall : ∀ key ∈ pairs.map Prod.fst, ∃ name, keyText? key = some name :=
      List.forall_mem_map.mpr hkeys
    intro pair hmem
    exact hall pair.1 (hsame ▸ List.mem_map_of_mem hmem)
  case arbitraryMessages => exact hm1.of_forall₂ h fun v w hnamed => hnamed.messages (by simp)
  case classMessages => exact hm2.of_forall₂ h fun v w hnamed => hnamed.messages (by simp)
  case turnThresholdMessages => exact hm3.of_forall₂ h fun v w hnamed => hnamed.messages (by simp)
  case locations => exact hm4.of_forall₂ h fun v w hnamed => hnamed.locations rfl
  case objectDescriptions => exact hm5.of_forall₂ h fun v w hnamed => hnamed.objects rfl
  case obituaries => exact hm6.of_forall₂ h fun v w hnamed => hnamed.obituaries rfl

end Collections

end AdventureTables
