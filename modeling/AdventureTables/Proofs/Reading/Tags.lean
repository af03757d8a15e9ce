import AdventureTables.Yaml.Value
/-!
# Tags in values

A tag stands in a *value position* if it is reached from the whole through
tags, items of sequences and values of mappings only; else it stands in a key.
Reading a document takes the tags out of the value positions and leaves those
in keys alone.  So a tag that is found later is in a key, as a tag of the key
itself or of something the key is made of (`holdsTag_iff_tagInKey`).

Statements about all values are proved by `Value.inductOn`, which has one case
for the values that are not made of others.
-/

namespace AdventureTables.Yaml.Value

/-! ## Values made of values -/

@[simp] theorem untaggedItems_eq (items : List Value) :
    untaggedItems items = items.map untagged := by
  induction items with
  | nil => rfl
  | cons v items ih => simp [untaggedItems, ih]

@[simp] theorem untaggedPairs_eq (pairs : List (Value × Value)) :
    untaggedPairs pairs = pairs.map fun pair => (pair.1, pair.2.untagged) := by
  induction pairs with
  | nil => rfl
  | cons pair pairs ih => simp [untaggedPairs, ih]

@[simp] theorem anyHoldsTag_eq (items : List Value) : anyHoldsTag items = items.any holdsTag := by
  induction items with
  | nil => rfl
  | cons v items ih => simp [anyHoldsTag, ih]

@[simp] theorem anyPairHoldsTag_eq (pairs : List (Value × Value)) :
    anyPairHoldsTag pairs = pairs.any fun pair => pair.1.holdsTag || pair.2.holdsTag := by
  induction pairs with
  | nil => rfl
  | cons pair pairs ih => simp [anyPairHoldsTag, ih]

/-- What holds of a value if it holds of the values it is made of, holds of all
values. -/
@[elab_as_elim]
theorem inductOn {P : Value → Prop} (v : Value)
    (null : P .null) (bool : ∀ b, P (.bool b)) (number : ∀ n, P (.number n))
    (string : ∀ s, P (.string s))
    (seq : ∀ items, (∀ item ∈ items, P item) → P (.seq items))
    (map : ∀ pairs, (∀ pair ∈ pairs, P pair.1 ∧ P pair.2) → P (.map pairs))
    (tagged : ∀ tag v, P v → P (.tagged tag v)) : P v := by
  refine Value.rec (motive_1 := P) (motive_2 := fun items => ∀ item ∈ items, P item)
    (motive_3 := fun pairs => ∀ pair ∈ pairs, P pair.1 ∧ P pair.2)
    (motive_4 := fun pair => P pair.1 ∧ P pair.2)
    null bool number string seq map tagged ?_ ?_ ?_ ?_ ?_ v
  all_goals simp_all

/-! ## Values without tags in value positions -/

/-- A sequence has no tags in value positions if its items have none. -/
theorem untagged_seq_iff {items : List Value} :
    (seq items).untagged = seq items ↔ ∀ item ∈ items, item.untagged = item := by
  rw [untagged, untaggedItems_eq, seq.injEq]
  calc items.map untagged = items ↔ items.map untagged = items.map id := by rw [List.map_id]
    _ ↔ ∀ item ∈ items, item.untagged = item := List.map_inj_left

/-- A mapping has no tags in value positions if its values have none. -/
theorem untagged_map_iff {pairs : List (Value × Value)} :
    (map pairs).untagged = map pairs ↔ ∀ pair ∈ pairs, pair.2.untagged = pair.2 := by
  rw [untagged, untaggedPairs_eq, map.injEq]
  calc pairs.map (fun pair => (pair.1, pair.2.untagged)) = pairs
      ↔ pairs.map (fun pair => (pair.1, pair.2.untagged)) = pairs.map id := by rw [List.map_id]
    _ ↔ ∀ pair ∈ pairs, (pair.1, pair.2.untagged) = pair := List.map_inj_left
    _ ↔ ∀ pair ∈ pairs, pair.2.untagged = pair.2 := by simp [Prod.ext_iff]

/-- No tag is left in a value position once they are taken out. -/
theorem untagged_untagged (v : Value) : v.untagged.untagged = v.untagged := by
  induction v using inductOn with
  | null => rfl
  | bool => rfl
  | number => rfl
  | string => rfl
  | seq items ih => simpa [untagged] using ih
  | map pairs ih => simpa [untagged] using fun key v hmem => (ih (key, v) hmem).2
  | tagged tag v ih => exact ih

/-- Nothing with a tag is left as it is. -/
theorem untagged_ne_tagged (v : Value) {tag : String} {w : Value} :
    v.untagged ≠ .tagged tag w := by
  induction v using inductOn with
  | null => nofun
  | bool => nofun
  | number => nofun
  | string => nofun
  | seq => nofun
  | map => nofun
  | tagged tag v ih => exact ih

/-! ## Tags in keys -/

/-- Somewhere in a value, inside other keys or not, there is a key with a
tag. -/
inductive TaggedKey : Value → Prop
  | key {pairs : List (Value × Value)} {tag : String} {key v : Value}
      (hmem : (.tagged tag key, v) ∈ pairs) : TaggedKey (.map pairs)
  | inKey {pairs : List (Value × Value)} {key v : Value}
      (hmem : (key, v) ∈ pairs) (h : TaggedKey key) : TaggedKey (.map pairs)
  | inValue {pairs : List (Value × Value)} {key v : Value}
      (hmem : (key, v) ∈ pairs) (h : TaggedKey v) : TaggedKey (.map pairs)
  | inItem {items : List Value} {v : Value}
      (hmem : v ∈ items) (h : TaggedKey v) : TaggedKey (.seq items)
  | under {tag : String} {v : Value} (h : TaggedKey v) : TaggedKey (.tagged tag v)

/-- Somewhere in a value there is a key that has a tag, or is made of something
that has one. -/
inductive TagInKey : Value → Prop
  | key {pairs : List (Value × Value)} {key v : Value}
      (hmem : (key, v) ∈ pairs) (h : key.holdsTag = true) : TagInKey (.map pairs)
  | inValue {pairs : List (Value × Value)} {key v : Value}
      (hmem : (key, v) ∈ pairs) (h : TagInKey v) : TagInKey (.map pairs)
  | inItem {items : List Value} {v : Value}
      (hmem : v ∈ items) (h : TagInKey v) : TagInKey (.seq items)
  | under {tag : String} {v : Value} (h : TagInKey v) : TagInKey (.tagged tag v)

/-- A mapping whose key has no tag, but is made of something that has one. -/
def seqKeyed : Value :=
  .map [(.seq [.tagged "!x" (.string "a")], .string "b")]

/-- A tag in a key need not be the tag of a key. -/
theorem seqKeyed_tagInKey : TagInKey seqKeyed ∧ ¬ TaggedKey seqKeyed := by
  refine ⟨.key (List.mem_singleton_self _) rfl, fun h => ?_⟩
  rcases h with hmem | ⟨hmem, h⟩ | ⟨hmem, h⟩ | _ | _
  · simp at hmem
  · obtain ⟨rfl, rfl⟩ : _ ∧ _ := by simpa using hmem
    rcases h with _ | _ | _ | ⟨hitem, h⟩ | _
    obtain rfl := List.mem_singleton.mp hitem
    rcases h with _ | _ | _ | _ | ⟨⟨⟩⟩
  · obtain ⟨rfl, rfl⟩ : _ ∧ _ := by simpa using hmem
    cases h

/-- A sequence has a tag in a key if one of its items has. -/
theorem tagInKey_seq_iff {items : List Value} :
    TagInKey (.seq items) ↔ ∃ item ∈ items, TagInKey item := by
  constructor
  · intro h
    rcases h with _ | _ | ⟨hmem, h⟩ | _
    exact ⟨_, hmem, h⟩
  · intro h
    obtain ⟨item, hmem, h⟩ := h
    exact .inItem hmem h

/-- A mapping has a tag in a key if one of its keys holds one, or one of its
values has one in a key. -/
theorem tagInKey_map_iff {pairs : List (Value × Value)} :
    TagInKey (.map pairs) ↔ ∃ pair ∈ pairs, pair.1.holdsTag = true ∨ TagInKey pair.2 := by
  constructor
  · intro h
    rcases h with ⟨hmem, h⟩ | ⟨hmem, h⟩ | _ | _
    · exact ⟨_, hmem, .inl h⟩
    · exact ⟨_, hmem, .inr h⟩
  · intro h
    obtain ⟨pair, hmem, h | h⟩ := h
    · exact .key hmem h
    · exact .inValue hmem h

/-- The tags of a value with none in value positions are in its keys. -/
theorem holdsTag_iff_tagInKey {v : Value} (h : v.untagged = v) :
    v.holdsTag = true ↔ TagInKey v := by
  induction v using inductOn with
  | null => exact ⟨nofun, nofun⟩
  | bool => exact ⟨nofun, nofun⟩
  | number => exact ⟨nofun, nofun⟩
  | string => exact ⟨nofun, nofun⟩
  | seq items ih =>
      have hitems := untagged_seq_iff.mp h
      rw [holdsTag, anyHoldsTag_eq, List.any_eq_true, tagInKey_seq_iff]
      exact exists_congr fun item => and_congr_right fun hmem => ih item hmem (hitems item hmem)
  | map pairs ih =>
      have hpairs := untagged_map_iff.mp h
      rw [holdsTag, anyPairHoldsTag_eq, List.any_eq_true, tagInKey_map_iff]
      refine exists_congr fun pair => and_congr_right fun hmem => ?_
      rw [Bool.or_eq_true, (ih pair hmem).2 (hpairs pair hmem)]
  | tagged tag v => exact absurd h (untagged_ne_tagged v)

end AdventureTables.Yaml.Value
