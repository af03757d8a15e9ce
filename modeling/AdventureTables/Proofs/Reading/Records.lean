import AdventureTables.Proofs.Reading.Strict
import AdventureTables.Proofs.Reading.Tags
import Mathlib.Data.List.Nodup
/-!
# Lenient records

What the reader of a lenient record looks for is said here of the value alone:
which values are records (`RecordOf`), and what a record gives to a field
(`Gives`).  The reader finds exactly that (`recordFields?_isSome_iff`,
`lookup_recordFields?`).

The same record can be spelled in several ways: its fields one after the other,
or in any order under their names, or under their numbers.  A field is given
the same in all of them (`Spells.gives_iff`).
-/

namespace AdventureTables

open Yaml (Value)
open Yaml.Value (TagInKey)

/-! ## Records and their fields -/

/-- The keys under which a record may give something. -/
inductive RecordKey : Value → Prop
  | text (name : String) : RecordKey (.string name)
  | number (n : Nat) : RecordKey (.number (.int n))

/-- The keys of one field: its name and its number. -/
inductive FieldKey (names : List String) (n : Nat) : Value → Prop
  | name {name : String} (h : names[n]? = some name) : FieldKey names n (.string name)
  | number (h : n < names.length) : FieldKey names n (.number (.int n))

/-- The records with some fields: sequences of not more items than fields, and
mappings with no other keys than a record may have, that give no field
twice. -/
inductive RecordOf (names : List String) : Value → Prop
  | seq {items : List Value} (h : items.length ≤ names.length) : RecordOf names (.seq items)
  | map {pairs : List (Value × Value)} (hkeys : ∀ pair ∈ pairs, RecordKey pair.1)
      (honce : pairs.Pairwise fun p q => ∀ n, FieldKey names n p.1 → ¬ FieldKey names n q.1) :
      RecordOf names (.map pairs)

/-- What a record gives for the field with a number. -/
inductive Gives (names : List String) (n : Nat) : Value → Value → Prop
  | item {items : List Value} {given : Value} (h : items[n]? = some given) :
      Gives names n (.seq items) given
  | field {pairs : List (Value × Value)} {key given : Value} (hkey : FieldKey names n key)
      (hmem : (key, given) ∈ pairs) : Gives names n (.map pairs) given

section Records

variable {names : List String} {n : Nat}

theorem recordOf_seq_iff {items : List Value} :
    RecordOf names (.seq items) ↔ items.length ≤ names.length := by
  constructor
  · intro h
    cases h with
    | seq h => exact h
  · exact .seq

theorem recordOf_map_iff {pairs : List (Value × Value)} :
    RecordOf names (.map pairs) ↔ (∀ pair ∈ pairs, RecordKey pair.1) ∧
      pairs.Pairwise fun p q => ∀ n, FieldKey names n p.1 → ¬ FieldKey names n q.1 := by
  constructor
  · intro h
    cases h with
    | map hkeys honce => exact ⟨hkeys, honce⟩
  · rintro ⟨hkeys, honce⟩
    exact .map hkeys honce

theorem gives_seq_iff {items : List Value} {given : Value} :
    Gives names n (.seq items) given ↔ items[n]? = some given := by
  constructor
  · intro h
    cases h with
    | item h => exact h
  · exact .item

theorem gives_map_iff {pairs : List (Value × Value)} {given : Value} :
    Gives names n (.map pairs) given ↔ ∃ key, FieldKey names n key ∧ (key, given) ∈ pairs := by
  constructor
  · intro h
    cases h with
    | field hkey hmem => exact ⟨_, hkey, hmem⟩
  · rintro ⟨key, hkey, hmem⟩
    exact .field hkey hmem

/-- The names of a record are all different, so a name has one number. -/
theorem idxOf?_eq_some_iff_getElem? (hnames : names.Nodup) {name : String} :
    names.idxOf? name = some n ↔ names[n]? = some name := by
  rw [List.idxOf?_eq_some_iff, List.getElem?_eq_some_iff]
  refine exists_congr fun hn => ⟨fun h => h.1, fun h => ⟨h, fun j hj heq => ?_⟩⟩
  have hsame := (List.Nodup.getElem_inj_iff hnames).mp (heq.trans h.symm)
  omega

theorem fieldOf?_isSome_iff {key : Value} : (fieldOf? names key).isSome ↔ RecordKey key := by
  constructor
  · intro h
    unfold fieldOf? at h
    split at h
    · exact .text _
    · rename_i m
      split at h
      · simp at h
      · rename_i hm
        obtain ⟨k, rfl⟩ := Int.eq_ofNat_of_zero_le (Int.not_lt.mp hm)
        exact .number k
    · simp at h
  · intro h
    cases h with
    | text name => rfl
    | number k =>
        rw [fieldOf?, if_neg (by omega)]
        split <;> rfl

theorem fieldOf?_eq_some_iff (hnames : names.Nodup) {key : Value} :
    fieldOf? names key = some (some n) ↔ FieldKey names n key := by
  constructor
  · intro h
    unfold fieldOf? at h
    split at h
    · exact .name ((idxOf?_eq_some_iff_getElem? hnames).mp (Option.some.inj h))
    · rename_i m
      split at h
      · simp at h
      · rename_i hm
        obtain ⟨k, rfl⟩ := Int.eq_ofNat_of_zero_le (Int.not_lt.mp hm)
        split at h
        · rename_i hk
          obtain rfl : k = n := by simpa using h
          exact .number (by simpa using hk)
        · simp at h
    · simp at h
  · intro h
    cases h with
    | name h => exact congrArg some ((idxOf?_eq_some_iff_getElem? hnames).mpr h)
    | number h => rw [fieldOf?, if_neg (by omega), if_pos (by simpa using h), Int.toNat_natCast]

/-- What the pairs of a mapping give to fields, by the numbers of these. -/
def fieldsOf (names : List String) (pairs : List (Value × Value)) : List (Nat × Value) :=
  pairs.filterMap fun pair => (fieldOf? names pair.1).join.map (·, pair.2)

theorem mem_fieldsOf_iff (hnames : names.Nodup) {pairs : List (Value × Value)} {given : Value} :
    (n, given) ∈ fieldsOf names pairs ↔ ∃ key, FieldKey names n key ∧ (key, given) ∈ pairs := by
  simp only [fieldsOf, List.mem_filterMap, Option.map_eq_some_iff, Option.join_eq_some_iff,
    fieldOf?_eq_some_iff hnames, Prod.mk.injEq]
  constructor
  · intro h
    obtain ⟨⟨key, value⟩, hmem, m, hkey, rfl, rfl⟩ := h
    exact ⟨key, hkey, hmem⟩
  · intro h
    obtain ⟨key, hkey, hmem⟩ := h
    exact ⟨(key, given), hmem, n, hkey, rfl, rfl⟩

theorem nodup_fieldsOf_iff (hnames : names.Nodup) {pairs : List (Value × Value)} :
    ((fieldsOf names pairs).map Prod.fst).Nodup ↔
      pairs.Pairwise fun p q => ∀ n, FieldKey names n p.1 → ¬ FieldKey names n q.1 := by
  have hnumbers : (fieldsOf names pairs).map Prod.fst =
      pairs.filterMap fun pair => (fieldOf? names pair.1).join := by
    simp [fieldsOf, List.map_filterMap, Function.comp_def]
  rw [hnumbers, List.Nodup, List.pairwise_filterMap]
  simp only [Option.join_eq_some_iff, fieldOf?_eq_some_iff hnames]
  refine List.Pairwise.iff fun p q => ?_
  constructor
  · intro h n hp hq
    exact h n hp n hq rfl
  · rintro h m hp _ hq rfl
    exact h m hp hq

theorem mapM_fieldOf?_eq_some_iff {pairs : List (Value × Value)}
    {read : List (Option Nat × Value)} :
    (pairs.mapM fun pair => (fieldOf? names pair.1).map (·, pair.2)) = some read ↔
      (∀ pair ∈ pairs, RecordKey pair.1) ∧
        read = pairs.map fun pair => ((fieldOf? names pair.1).join, pair.2) := by
  have hpair : ∀ (pair : Value × Value) (result : Option Nat × Value),
      (fieldOf? names pair.1).map (·, pair.2) = some result ↔
        RecordKey pair.1 ∧ ((fieldOf? names pair.1).join, pair.2) = result := by
    intro pair result
    have hkey : (fieldOf? names pair.1).isSome ↔ RecordKey pair.1 := fieldOf?_isSome_iff
    rw [← hkey]
    cases fieldOf? names pair.1 <;> simp
  simp only [mapM_eq_some_iff, hpair, List.forall₂_and_left]
  rw [← List.forall₂_map_left_iff (R := (· = ·)), List.forall₂_eq_eq_eq, eq_comm]

/-- A mapping is read exactly if it is a record, as what it gives to fields. -/
theorem recordFields?_map_eq_some_iff (hnames : names.Nodup) {pairs : List (Value × Value)}
    {fields : List (Nat × Value)} :
    recordFields? names (.map pairs) = some fields ↔
      RecordOf names (.map pairs) ∧ fields = fieldsOf names pairs := by
  have hknown : (pairs.map fun pair => ((fieldOf? names pair.1).join, pair.2)).filterMap
      (fun pair => pair.1.map (·, pair.2)) = fieldsOf names pairs := by
    simp [fieldsOf, List.filterMap_map]
  have hrecord : RecordOf names (.map pairs) ↔
      (∀ pair ∈ pairs, RecordKey pair.1) ∧ ((fieldsOf names pairs).map Prod.fst).Nodup := by
    rw [nodup_fieldsOf_iff hnames, recordOf_map_iff]
  calc recordFields? names (.map pairs) = some fields
      ↔ ∃ read, (pairs.mapM fun pair => (fieldOf? names pair.1).map (·, pair.2)) = some read ∧
          (if ((read.filterMap fun pair => pair.1.map (·, pair.2)).map Prod.fst).Nodup
            then some (read.filterMap fun pair => pair.1.map (·, pair.2)) else none) =
            some fields := Option.bind_eq_some_iff
    _ ↔ (∀ pair ∈ pairs, RecordKey pair.1) ∧
          (if ((fieldsOf names pairs).map Prod.fst).Nodup then some (fieldsOf names pairs)
            else none) = some fields := by
        simp only [mapM_fieldOf?_eq_some_iff, and_assoc, exists_and_left, exists_eq_left, hknown]
    _ ↔ RecordOf names (.map pairs) ∧ fields = fieldsOf names pairs := by
        rw [hrecord, and_assoc]
        refine and_congr_right fun _ => ?_
        split <;> simp_all [eq_comm]

theorem recordFields?_isSome_iff (hnames : names.Nodup) {value : Value} :
    (recordFields? names value).isSome ↔ RecordOf names value := by
  cases value with
  | seq items =>
      by_cases hlength : items.length ≤ names.length <;>
        simp [recordFields?, recordOf_seq_iff, hlength]
  | map pairs => simp [Option.isSome_iff_exists, recordFields?_map_eq_some_iff hnames]
  | _ => exact ⟨nofun, nofun⟩

/-- What is found for a field is what the record gives. -/
theorem lookup_recordFields? (hnames : names.Nodup) {value : Value} {fields : List (Nat × Value)}
    (h : recordFields? names value = some fields) {given : Value} :
    fields.lookup n = some given ↔ Gives names n value given := by
  cases value with
  | seq items =>
      obtain ⟨-, rfl⟩ : items.length ≤ names.length ∧ items.zipIdx.map Prod.swap = fields := by
        simpa [recordFields?] using h
      have hnodup : ((items.zipIdx.map Prod.swap).map Prod.fst).Nodup := by
        have hnumbers : (items.zipIdx.map Prod.swap).map Prod.fst = items.zipIdx.map Prod.snd := by
          simp [Function.comp_def]
        rw [hnumbers, List.zipIdx_map_snd]
        exact List.nodup_range'
      rw [lookup_eq_some_iff_mem hnodup, gives_seq_iff,
        ← List.mem_zipIdx_iff_getElem? (x := (given, n))]
      simp
  | map pairs =>
      obtain ⟨hrecord, rfl⟩ := (recordFields?_map_eq_some_iff hnames).mp h
      have honce : ((fieldsOf names pairs).map Prod.fst).Nodup :=
        (nodup_fieldsOf_iff hnames).mpr (recordOf_map_iff.mp hrecord).2
      rw [lookup_eq_some_iff_mem honce, gives_map_iff, mem_fieldsOf_iff hnames]
  | _ => simp [recordFields?] at h

end Records

/-! ## Spellings -/

/-- The spellings of a record that gives some values to its first fields: by
their positions, or in any order under one key of each field. -/
inductive Spells (names : List String) (given : List Value) : Value → Prop
  | byPosition (h : given.length ≤ names.length) : Spells names given (.seq given)
  | byKey {keys : List Value} {pairs : List (Value × Value)} (hlength : keys.length = given.length)
      (hkeys : ∀ n key, keys[n]? = some key → FieldKey names n key)
      (hpairs : pairs.Perm (keys.zip given)) : Spells names given (.map pairs)

section Spellings

variable {names : List String} {given : List Value} {v : Value}

theorem FieldKey.unique (hnames : names.Nodup) {m n : Nat} {key : Value}
    (hm : FieldKey names m key) (hn : FieldKey names n key) : m = n := by
  have hfield := (fieldOf?_eq_some_iff hnames).mpr hm
  rw [(fieldOf?_eq_some_iff hnames).mpr hn] at hfield
  simpa [eq_comm] using hfield

theorem FieldKey.recordKey {n : Nat} {key : Value} (h : FieldKey names n key) : RecordKey key := by
  cases h with
  | name => exact .text _
  | number => exact .number n

theorem FieldKey.holdsTag_eq_false {n : Nat} {key : Value} (h : FieldKey names n key) :
    key.holdsTag = false := by
  cases h <;> rfl

/-- The pairs of a spelling are keys and values at the same places. -/
theorem mem_zip_iff_getElem? {keys : List Value} {pair : Value × Value} :
    pair ∈ keys.zip given ↔ ∃ n : Nat, keys[n]? = some pair.1 ∧ given[n]? = some pair.2 := by
  rw [List.mem_iff_getElem?]
  refine exists_congr fun n => ?_
  rw [List.getElem?_zip_eq_some]

theorem exists_mem_zip {keys : List Value} (hlength : keys.length = given.length) {n : Nat}
    {value : Value} (h : given[n]? = some value) :
    ∃ key, keys[n]? = some key ∧ (key, value) ∈ keys.zip given := by
  obtain ⟨hn, -⟩ := List.getElem?_eq_some_iff.mp h
  have hkey : keys[n]? = some keys[n] := List.getElem?_eq_getElem (hlength ▸ hn)
  exact ⟨_, hkey, mem_zip_iff_getElem?.mpr ⟨n, hkey, h⟩⟩

theorem Spells.recordOf (hnames : names.Nodup) (h : Spells names given v) : RecordOf names v := by
  cases h with
  | byPosition h => exact .seq h
  | @byKey keys _ _ hkeys hpairs =>
      refine .map (fun pair hmem => ?_) ?_
      · obtain ⟨n, hkey, -⟩ := mem_zip_iff_getElem?.mp (hpairs.mem_iff.mp hmem)
        exact (hkeys n _ hkey).recordKey
      -- In the order of the fields, the keys at two places are of two fields.
      rw [hpairs.pairwise_iff fun h n hp hq => h n hq hp, List.pairwise_iff_getElem]
      intro i j hi hj hij n hkeyi hkeyj
      rw [List.getElem_zip] at hkeyi hkeyj
      have hi' := (hkeys i _ (List.getElem?_eq_getElem _)).unique hnames hkeyi
      have hj' := (hkeys j _ (List.getElem?_eq_getElem _)).unique hnames hkeyj
      omega

/-- What is given to a field does not depend on the spelling. -/
theorem Spells.gives_iff (hnames : names.Nodup) (h : Spells names given v) {n : Nat}
    {value : Value} : Gives names n v value ↔ given[n]? = some value := by
  cases h with
  | byPosition h => exact ⟨fun h => by cases h; assumption, .item⟩
  | byKey hlength hkeys hpairs =>
      constructor
      · intro h
        cases h with
        | field hkey hmem =>
            obtain ⟨m, hkeym, hgiven⟩ := mem_zip_iff_getElem?.mp (hpairs.mem_iff.mp hmem)
            obtain rfl := (hkeys m _ hkeym).unique hnames hkey
            exact hgiven
      · intro hgiven
        obtain ⟨key, hkey, hmem⟩ := exists_mem_zip hlength hgiven
        exact .field (hkeys n key hkey) (hpairs.mem_iff.mpr hmem)

/-- The tags in keys are those of the values that are given. -/
theorem Spells.tagInKey_iff (h : Spells names given v) :
    TagInKey v ↔ ∃ value ∈ given, TagInKey value := by
  cases h with
  | byPosition h => exact Value.tagInKey_seq_iff
  | byKey hlength hkeys hpairs =>
      rw [Value.tagInKey_map_iff]
      constructor
      · intro h
        obtain ⟨pair, hmem, htag⟩ := h
        obtain ⟨n, hkey, hgiven⟩ := mem_zip_iff_getElem?.mp (hpairs.mem_iff.mp hmem)
        -- The key of a field is a text or a number.
        have hclean := (hkeys n _ hkey).holdsTag_eq_false
        rw [hclean] at htag
        exact ⟨pair.2, List.mem_of_getElem? hgiven, htag.resolve_left nofun⟩
      · intro h
        obtain ⟨value, hmem, htag⟩ := h
        obtain ⟨n, hgiven⟩ := List.mem_iff_getElem?.mp hmem
        obtain ⟨key, -, hpair⟩ := exists_mem_zip hlength hgiven
        exact ⟨(key, value), hpairs.mem_iff.mpr hpair, .inr htag⟩

theorem forall₂_getElem? {α β : Type} {R : α → β → Prop} {as : List α} {bs : List β}
    (h : List.Forall₂ R as bs) (n : Nat) :
    (as[n]? = none ∧ bs[n]? = none) ∨ ∃ a b, as[n]? = some a ∧ bs[n]? = some b ∧ R a b := by
  induction h generalizing n with
  | nil => simp
  | cons hab _ ih =>
      cases n with
      | zero => exact .inr ⟨_, _, rfl, rfl, hab⟩
      | succ n => simpa using ih n

theorem exists_mem_of_forall₂ {α β : Type} {R : α → β → Prop} {as : List α} {bs : List β}
    (h : List.Forall₂ R as bs) {a : α} (ha : a ∈ as) : ∃ b ∈ bs, R a b := by
  obtain ⟨n, hn⟩ := List.mem_iff_getElem?.mp ha
  rcases forall₂_getElem? h n with ⟨hnone, -⟩ | ⟨_, b, hsome, hb, hab⟩
  · simp [hn] at hnone
  · obtain rfl := Option.some.inj (hn.symm.trans hsome)
    exact ⟨b, List.mem_of_getElem? hb, hab⟩

/-- Spellings of values that agree on the tags in keys agree on them. -/
theorem Spells.tagInKey_congr {same : Value → Value → Prop} {given' : List Value} {w : Value}
    (hv : Spells names given v) (hw : Spells names given' w)
    (hsame : List.Forall₂ same given given')
    (htag : ∀ a b, same a b → (TagInKey a ↔ TagInKey b)) : TagInKey v ↔ TagInKey w := by
  rw [hv.tagInKey_iff, hw.tagInKey_iff]
  clear hv hw
  induction hsame with
  | nil => simp
  | cons hab _ ih => simp only [List.exists_mem_cons_iff, htag _ _ hab, ih]

end Spellings

end AdventureTables
