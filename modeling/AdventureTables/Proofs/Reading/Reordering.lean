import AdventureTables.Proofs.Reading.Meaning
import AdventureTables.Proofs.Reading.Untagging
/-!
# Documents in another order

The items of a table, or the obituaries, may be written in any order: what is
read from them comes in that order, and nothing else changes
(`ofValue_arrangeDocument`).  An order is the list of the places that the items
are taken from.  Reading does not ask that every place occurs in it once, so
this is said for all lists of places; a list that is a permutation of the
places leaves the number of items as it is (`length_arrange`).
-/

namespace AdventureTables

open Yaml (Value)

/-! ## Orders -/

/-- The things at some places, in the order of the places. -/
def arrange {α : Type} (order : List Nat) (things : List α) : List α :=
  order.filterMap fun place => things[place]?

section Orders

variable {α β : Type} {order : List Nat}

theorem arrange_map (f : α → β) (things : List α) :
    arrange order (things.map f) = (arrange order things).map f := by
  simp [arrange, List.map_filterMap]

theorem mem_of_mem_arrange {things : List α} {a : α} (h : a ∈ arrange order things) :
    a ∈ things := by
  obtain ⟨place, -, hplace⟩ := List.mem_filterMap.mp h
  exact List.mem_of_getElem? hplace

/-- Things that are related place by place are so in any order. -/
theorem forall₂_arrange {R : α → β → Prop} {as : List α} {bs : List β}
    (h : List.Forall₂ R as bs) (order : List Nat) :
    List.Forall₂ R (arrange order as) (arrange order bs) := by
  induction order with
  | nil => exact .nil
  | cons place order ih =>
      rcases forall₂_getElem? h place with ⟨ha, hb⟩ | ⟨a, b, ha, hb, hab⟩
      · simpa [arrange, ha, hb] using ih
      · simpa [arrange, ha, hb, hab] using ih

theorem arrange_range (things : List α) : arrange (List.range things.length) things = things := by
  induction things with
  | nil => rfl
  | cons a things ih =>
      rw [List.length_cons, List.range_succ_eq_map]
      simpa [arrange, List.filterMap_map, Function.comp_def] using ih

/-- A permutation of the places gives back everything. -/
theorem perm_arrange {things : List α} (h : order.Perm (List.range things.length)) :
    (arrange order things).Perm things := by
  have hperm : (arrange order things).Perm (arrange (List.range things.length) things) :=
    h.filterMap _
  rwa [arrange_range] at hperm

/-- Of three things, the last one first. -/
example : arrange [2, 0, 1] ["a", "b", "c"] = ["c", "a", "b"] := by rfl

theorem length_arrange {things : List α} (h : order.Perm (List.range things.length)) :
    (arrange order things).length = things.length :=
  (perm_arrange h).length_eq

end Orders

/-! ## Documents -/

/-- A sequence with its items in another order; the tags around it stay. -/
def arrangeItems (order : List Nat) : Value → Value
  | .tagged tag v => .tagged tag (arrangeItems order v)
  | .seq items => .seq (arrange order items)
  | other => other

/-- Pairs with the items of what a name is given in another order. -/
def arrangePairs (name : String) (order : List Nat) (pairs : List (Value × Value)) :
    List (Value × Value) :=
  pairs.map fun pair =>
    (pair.1, if keyText? pair.1 = some name then arrangeItems order pair.2 else pair.2)

/-- A document with the items of the collection of a name in another order. -/
def arrangeDocument (name : String) (order : List Nat) : Value → Value
  | .tagged tag v => .tagged tag (arrangeDocument name order v)
  | .map pairs => .map (arrangePairs name order pairs)
  | other => other

/-- The items of a sequence, its tags aside. -/
def itemsOf (value : Value) : List Value :=
  match value.content with
  | .seq items => items
  | _ => []

/-- The items of the collection of a name in a document. -/
def itemsIn (name : String) (document : Value) : List Value :=
  match document.content with
  | .map pairs => (valuesOf name pairs).flatMap itemsOf
  | _ => []

/-! ## Tags -/

section Tags

variable {name : String} {order : List Nat}

theorem untagged_arrangeItems (v : Value) :
    (arrangeItems order v).untagged = arrangeItems order v.untagged := by
  induction v using Value.inductOn with
  | tagged tag v ih => exact ih
  | seq items => simp [arrangeItems, Value.untagged, arrange_map]
  | _ => rfl

theorem untagged_arrangeDocument (v : Value) :
    (arrangeDocument name order v).untagged = arrangeDocument name order v.untagged := by
  induction v using Value.inductOn with
  | tagged tag v ih => exact ih
  | map pairs =>
      simp only [arrangeDocument, Value.untagged, Value.untaggedPairs_eq, arrangePairs,
        List.map_map, Function.comp_def, ← untagged_arrangeItems, apply_ite Value.untagged]
  | _ => rfl

theorem itemsOf_untagged (v : Value) : itemsOf v.untagged = (itemsOf v).map Value.untagged := by
  rw [itemsOf, itemsOf, Value.content_untagged]
  cases h : v.content with
  | seq items => simp [Value.untagged]
  | tagged tag w => exact absurd h (Value.content_ne_tagged v)
  | _ => rfl

theorem valuesOf_untaggedPairs (pairs : List (Value × Value)) :
    valuesOf name (Value.untaggedPairs pairs) = (valuesOf name pairs).map Value.untagged := by
  simp [valuesOf, List.filter_map, Function.comp_def]

theorem itemsIn_untagged (document : Value) :
    itemsIn name document.untagged = (itemsIn name document).map Value.untagged := by
  rw [itemsIn, itemsIn, Value.content_untagged]
  cases h : document.content with
  | map pairs =>
      rw [Value.untagged]
      simp only [valuesOf_untaggedPairs, List.flatMap_map, List.map_flatMap, itemsOf_untagged]
  | tagged tag w => exact absurd h (Value.content_ne_tagged document)
  | _ => rfl

end Tags

/-! ## What is read -/

/-- The things of one name in another order, if it is the one that is asked
for. -/
def arrangeNamed {α : Type} (name given : String) (order : List Nat) (things : List α) : List α :=
  if given = name then arrange order things else things

/-- A dungeon with the entries of the collection of a name in another order. -/
def Dungeon.arranged (name : String) (order : List Nat) (dungeon : Dungeon) : Dungeon where
  arbitraryMessages := arrangeNamed name "arbitrary_messages" order dungeon.arbitraryMessages
  classMessages := arrangeNamed name "class_messages" order dungeon.classMessages
  turnThresholdMessages :=
    arrangeNamed name "turn_threshold_messages" order dungeon.turnThresholdMessages
  locations := arrangeNamed name "locations" order dungeon.locations
  objectDescriptions := arrangeNamed name "object_descriptions" order dungeon.objectDescriptions
  obituaries := arrangeNamed name "obituaries" order dungeon.obituaries

section Reading

variable {name given : String} {order : List Nat} {pairs : List (Value × Value)}

theorem textKeys_arrangePairs (h : TextKeys pairs) : TextKeys (arrangePairs name order pairs) := by
  intro pair hmem
  obtain ⟨before, hbefore, rfl⟩ := List.mem_map.mp hmem
  exact h before hbefore

theorem valuesOf_arrangePairs :
    valuesOf given (arrangePairs name order pairs) =
      (valuesOf given pairs).map fun v => if given = name then arrangeItems order v else v := by
  rw [valuesOf, arrangePairs, List.filter_map, List.map_map, valuesOf, List.map_map]
  -- The pairs that are left have the given name for a key, so the condition is one for all.
  refine List.map_congr_left fun pair hmem => ?_
  have hkey : keyText? pair.1 = some given := by simpa using (List.mem_filter.mp hmem).2
  simp [hkey]

/-- What the items of a collection are asked for is not lost in another
order. -/
theorem exists_valuesOf_arrangePairs {P : Value → Prop}
    (hP : ∀ v, P v → P (arrangeItems order v)) (h : ∃ v, valuesOf given pairs = [v] ∧ P v) :
    ∃ v, valuesOf given (arrangePairs name order pairs) = [v] ∧ P v := by
  obtain ⟨v, hv, hPv⟩ := h
  rw [valuesOf_arrangePairs, hv]
  refine ⟨_, rfl, ?_⟩
  split
  · exact hP v hPv
  · exact hPv

theorem DescribesTable.arrangeItems {refused : Value → Prop} {table : Value}
    (h : DescribesTable refused table) : DescribesTable refused (arrangeItems order table) := by
  obtain rfl | ⟨items, rfl, hitems⟩ := h
  · exact .inl rfl
  · exact .inr ⟨_, rfl, fun item hmem => hitems item (mem_of_mem_arrange hmem)⟩

theorem DescribesObituaries.arrangeItems {value : Value} (h : DescribesObituaries value) :
    DescribesObituaries (arrangeItems order value) := by
  obtain rfl | ⟨items, rfl, hitems⟩ := h
  · exact .inl rfl
  · exact .inr ⟨_, rfl, fun item hmem => hitems item (mem_of_mem_arrange hmem)⟩

/-- A document that describes a dungeon does so in any order. -/
theorem DescribesDungeon.arrangePairs {refused : Value → Prop}
    (h : DescribesDungeon refused (.map pairs)) :
    DescribesDungeon refused (.map (arrangePairs name order pairs)) := by
  obtain ⟨_, hmap, hkeys, htables, hobituaries⟩ := h
  obtain rfl := Value.map.inj hmap
  refine ⟨_, rfl, textKeys_arrangePairs hkeys, fun given hgiven => ?_, ?_⟩
  · exact exists_valuesOf_arrangePairs (fun _ => .arrangeItems) (htables given hgiven)
  · exact exists_valuesOf_arrangePairs (fun _ => .arrangeItems) hobituaries

/-- What the items of a sequence mean comes in their order. -/
theorem MeansItems.arrangeItems {α : Type} {means : Value → α → Prop} {value : Value}
    {results : List α} (h : MeansItems means value results) :
    MeansItems means (arrangeItems order value) (arrange order results) := by
  obtain ⟨rfl, rfl⟩ | ⟨items, rfl, hitems⟩ := h
  · exact .inl ⟨rfl, by simp [arrange]⟩
  · exact .inr ⟨_, rfl, forall₂_arrange hitems order⟩

theorem MeansNamed.arrangePairs {α : Type} {means : Value → α → Prop} {results : List α}
    (h : MeansNamed given (MeansItems means) pairs results) :
    MeansNamed given (MeansItems means) (arrangePairs name order pairs)
      (arrangeNamed name given order results) := by
  obtain ⟨v, hv, hmeans⟩ := h
  refine ⟨_, by rw [valuesOf_arrangePairs, hv]; rfl, ?_⟩
  rw [arrangeNamed]
  split
  · exact hmeans.arrangeItems
  · exact hmeans

/-- What a document means in another order is the dungeon in that order. -/
theorem MeansDungeon.arrangePairs {dungeon : Dungeon} (h : MeansDungeon pairs dungeon) :
    MeansDungeon (arrangePairs name order pairs) (dungeon.arranged name order) where
  arbitraryMessages := h.arbitraryMessages.arrangePairs
  classMessages := h.classMessages.arrangePairs
  turnThresholdMessages := h.turnThresholdMessages.arrangePairs
  locations := h.locations.arrangePairs
  objectDescriptions := h.objectDescriptions.arrangePairs
  obituaries := h.obituaries.arrangePairs

end Reading

/-- What is read from a document is what its pairs mean, tags aside. -/
theorem exists_pairs_of_ofValue {document : Value} {dungeon : Dungeon}
    (h : Dungeon.ofValue document = .ok dungeon) :
    ∃ pairs, document.untagged = .map pairs ∧
      DescribesDungeon (fun value => value.holdsTag = true) (.map pairs) ∧
      MeansDungeon pairs dungeon := by
  have hdescribed := reads_ofUntagged_iff.mp ⟨dungeon, h⟩
  have ⟨pairs, hpairs, _⟩ := hdescribed
  rw [hpairs] at hdescribed
  rw [Dungeon.ofValue, hpairs] at h
  exact ⟨pairs, hpairs, hdescribed, (meansDungeon_iff hdescribed).mp h⟩

/-- **A document in another order.**  It is accepted if it was before, and what
is read from it is the dungeon in that order. -/
theorem ofValue_arrangeDocument {document : Value} {dungeon : Dungeon}
    (h : Dungeon.ofValue document = .ok dungeon) (name : String) (order : List Nat) :
    Dungeon.ofValue (arrangeDocument name order document) =
      .ok (dungeon.arranged name order) := by
  obtain ⟨pairs, hpairs, hdescribed, hmeans⟩ := exists_pairs_of_ofValue h
  rw [Dungeon.ofValue, untagged_arrangeDocument, hpairs]
  exact (meansDungeon_iff hdescribed.arrangePairs).mpr hmeans.arrangePairs

/-! ## Numbers of items -/

/-- A collection has as many members as the document has items for it. -/
theorem MeansNamed.length_eq {α : Type} {name : String} {means : Value → α → Prop}
    {document : Value} {pairs : List (Value × Value)} (hpairs : document.untagged = .map pairs)
    {results : List α} (h : MeansNamed name (MeansItems means) pairs results) :
    results.length = (itemsIn name document).length := by
  obtain ⟨given, hgiven, hmeans⟩ := h
  -- What is read has no tags in it, and as many items as the document.
  have hgivenItems : itemsIn name document.untagged = itemsOf given := by
    simp [hpairs, itemsIn, Value.content, hgiven]
  have hlength : (itemsIn name document).length = (itemsOf given).length := by
    rw [← hgivenItems, itemsIn_untagged, List.length_map]
  rw [hlength]
  obtain ⟨rfl, rfl⟩ | ⟨items, rfl, hitems⟩ := hmeans
  · rfl
  · exact hitems.length_eq.symm

end AdventureTables
