import AdventureTables.Dungeon.Reading
import AdventureTables.Proofs.Reading.Tags
import Mathlib.Data.List.Forall2
import Mathlib.Logic.Relation
/-!
# Taking tags out

Taking the tags out of the value positions of a value can be done one tag at a
time (`DropsTag`), in any order, with everything else left as it is.  However
it is done, it comes to an end at one and the same value, `Value.untagged`
(`erased_iff`).  So two values that become equal in this way are read the same.

What is left is said without the steps, too: at every position there is what
was there before (`outline_part?_untagged`), a sequence of as many items or a
mapping with the same keys in the same order, whatever tags the keys have.
-/

namespace AdventureTables.Yaml.Value

open Relation (ReflTransGen)

/-! ## Tags in value positions -/

/-- There is a tag in a value position. -/
inductive TagInValue : Value → Prop
  | here {tag : String} {v : Value} : TagInValue (.tagged tag v)
  | inItem {items : List Value} {v : Value} (hmem : v ∈ items) (h : TagInValue v) :
      TagInValue (.seq items)
  | inValue {pairs : List (Value × Value)} {key v : Value} (hmem : (key, v) ∈ pairs)
      (h : TagInValue v) : TagInValue (.map pairs)

/-- One tag in a value position is taken out.  Keys, and all other items and
values, stay as they are. -/
inductive DropsTag : Value → Value → Prop
  | here {tag : String} {v : Value} : DropsTag (.tagged tag v) v
  | under {tag : String} {v w : Value} (h : DropsTag v w) :
      DropsTag (.tagged tag v) (.tagged tag w)
  | inItem {before after : List Value} {v w : Value} (h : DropsTag v w) :
      DropsTag (.seq (before ++ v :: after)) (.seq (before ++ w :: after))
  | inValue {before after : List (Value × Value)} {key v w : Value} (h : DropsTag v w) :
      DropsTag (.map (before ++ (key, v) :: after)) (.map (before ++ (key, w) :: after))

/-- Exactly the values that have no tag in a value position are left as they
are. -/
theorem not_tagInValue_iff {v : Value} : ¬ TagInValue v ↔ v.untagged = v := by
  induction v using inductOn with
  | null => exact ⟨fun _ => rfl, fun _ => nofun⟩
  | bool => exact ⟨fun _ => rfl, fun _ => nofun⟩
  | number => exact ⟨fun _ => rfl, fun _ => nofun⟩
  | string => exact ⟨fun _ => rfl, fun _ => nofun⟩
  | seq items ih =>
      rw [untagged_seq_iff]
      constructor
      · intro h item hmem
        exact (ih item hmem).mp fun htag => h (.inItem hmem htag)
      · rintro h (_ | ⟨hmem, htag⟩)
        exact (ih _ hmem).mpr (h _ hmem) htag
  | map pairs ih =>
      rw [untagged_map_iff]
      constructor
      · intro h pair hmem
        exact (ih pair hmem).2.mp fun htag => h (.inValue hmem htag)
      · rintro h (_ | _ | ⟨hmem, htag⟩)
        exact (ih _ hmem).2.mpr (h _ hmem) htag
  | tagged tag v =>
      exact ⟨fun h => absurd .here h, fun h => absurd h (untagged_ne_tagged v)⟩

/-- Which of the tags is taken out first makes no difference in the end. -/
theorem DropsTag.untagged_eq {v w : Value} (h : DropsTag v w) : v.untagged = w.untagged := by
  induction h with
  | here => rfl
  | under _ ih => exact ih
  | inItem _ ih => simp [untagged, ih]
  | inValue _ ih => simp [untagged, ih]

/-! ## Taking out tag by tag -/

/-- Parts of a whole can be dealt with one after the other, if a step in one of
them is a step in the whole. -/
theorem reflTransGen_of_forall₂ {α : Type} {step : α → α → Prop} {whole : List α → Value}
    (hstep : ∀ before after a b, step a b →
      DropsTag (whole (before ++ a :: after)) (whole (before ++ b :: after)))
    {parts parts' : List α} (h : List.Forall₂ (ReflTransGen step) parts parts')
    (before : List α) :
    ReflTransGen DropsTag (whole (before ++ parts)) (whole (before ++ parts')) := by
  induction h generalizing before with
  | nil => exact .refl
  | @cons a b parts parts' hab _ ih =>
      have hfirst : ReflTransGen DropsTag (whole (before ++ a :: parts))
          (whole (before ++ b :: parts)) :=
        hab.lift (fun part => whole (before ++ part :: parts)) fun _ _ => hstep before parts _ _
      have hrest := ih (before ++ [b])
      simp only [List.append_assoc, List.singleton_append] at hrest
      exact hfirst.trans hrest

/-- All tags in value positions can be taken out one by one. -/
theorem reflTransGen_untagged (v : Value) : ReflTransGen DropsTag v v.untagged := by
  induction v using inductOn with
  | null => exact .refl
  | bool => exact .refl
  | number => exact .refl
  | string => exact .refl
  | seq items ih =>
      rw [untagged, untaggedItems_eq]
      refine reflTransGen_of_forall₂ (fun _ _ _ _ => .inItem) ?_ []
      exact List.forall₂_map_right_iff.mpr (List.forall₂_same.mpr ih)
  | map pairs ih =>
      rw [untagged, untaggedPairs_eq]
      -- A step inside a mapping leaves the key of its pair alone.
      have hstep : ∀ before after (p q : Value × Value), p.1 = q.1 ∧ DropsTag p.2 q.2 →
          DropsTag (.map (before ++ p :: after)) (.map (before ++ q :: after)) := by
        rintro before after ⟨key, v⟩ ⟨_, w⟩ ⟨rfl, h⟩
        exact .inValue h
      refine reflTransGen_of_forall₂ hstep ?_ []
      refine List.forall₂_map_right_iff.mpr (List.forall₂_same.mpr fun pair hmem => ?_)
      exact (ih pair hmem).2.lift (fun v => (pair.1, v)) fun _ _ h => ⟨rfl, h⟩
  | tagged tag v ih => exact .head .here ih

/-- No order of steps comes to another end. -/
theorem untagged_eq_of_steps {v w : Value} (h : ReflTransGen DropsTag v w) :
    v.untagged = w.untagged := by
  induction h with
  | refl => rfl
  | tail _ hstep ih => exact ih.trans hstep.untagged_eq

/-- All tags in value positions are taken out of a value. -/
def Erased (v w : Value) : Prop :=
  ReflTransGen DropsTag v w ∧ ¬ TagInValue w

/-- Taking out the tags in any order leads to the same value. -/
theorem erased_iff {v w : Value} : Erased v w ↔ w = v.untagged := by
  constructor
  · rintro ⟨hsteps, hnone⟩
    calc w = w.untagged := (not_tagInValue_iff.mp hnone).symm
      _ = v.untagged := (untagged_eq_of_steps hsteps).symm
  · rintro rfl
    exact ⟨reflTransGen_untagged v, not_tagInValue_iff.mpr (untagged_untagged v)⟩

/-- Two values become equal when all tags in value positions are taken out. -/
def EqualButTags (v w : Value) : Prop :=
  ∃ u, Erased v u ∧ Erased w u

theorem equalButTags_iff {v w : Value} : EqualButTags v w ↔ v.untagged = w.untagged := by
  simp only [EqualButTags, erased_iff]
  constructor
  · rintro ⟨u, rfl, hw⟩
    exact hw
  · exact fun h => ⟨_, rfl, h⟩

/-! ## What is left -/

/-- The part of a value at a position, which is the number of an item or of a
pair in each of the sequences and mappings around it.  Tags are looked
through. -/
def part? (v : Value) : List Nat → Option Value
  | [] => some v
  | n :: position =>
    match v.content with
    | .seq items => items[n]?.bind fun item => item.part? position
    | .map pairs => pairs[n]?.bind fun pair => pair.2.part? position
    | _ => none

/-- A value with its tags and all that is in it left out, but for how many
items it has, or which keys and in which order. -/
def outline (v : Value) : Value :=
  match v.content with
  | .seq items => .seq (items.map fun _ => .null)
  | .map pairs => .map (pairs.map fun pair => (pair.1, .null))
  | other => other

theorem untagged_content (v : Value) : v.content.untagged = v.untagged := by
  fun_induction content v with
  | case1 tag v ih => exact ih
  | case2 => rfl

theorem content_ne_tagged (v : Value) {tag : String} {w : Value} : v.content ≠ .tagged tag w := by
  fun_induction content v with
  | case1 tag v ih => exact ih
  | case2 v h => exact h tag w

theorem content_untagged (v : Value) : v.untagged.content = v.content.untagged := by
  rw [untagged_content]
  cases h : v.untagged with
  | tagged tag w => exact absurd h (untagged_ne_tagged v)
  | _ => rfl

theorem outline_untagged (v : Value) : v.untagged.outline = v.outline := by
  rw [outline, outline, content_untagged]
  cases h : v.content with
  | seq items => simp [untagged, Function.comp_def]
  | map pairs => simp [untagged]
  | tagged tag w => exact absurd h (content_ne_tagged v)
  | _ => rfl

theorem part?_untagged (v : Value) (position : List Nat) :
    v.untagged.part? position = (v.part? position).map untagged := by
  induction position generalizing v with
  | nil => rfl
  | cons n position ih =>
      rw [part?, part?, content_untagged]
      cases h : v.content with
      | seq items =>
          rw [untagged, untaggedItems_eq]
          simp only [List.getElem?_map]
          cases items[n]? with
          | none => rfl
          | some item => exact ih item
      | map pairs =>
          rw [untagged, untaggedPairs_eq]
          simp only [List.getElem?_map]
          cases pairs[n]? with
          | none => rfl
          | some pair => exact ih pair.2
      | tagged tag w => exact absurd h (content_ne_tagged v)
      | _ => rfl

/-- At every position there is what was there before, but for the tags. -/
theorem outline_part?_untagged (v : Value) (position : List Nat) :
    (v.untagged.part? position).map outline = (v.part? position).map outline := by
  rw [part?_untagged, Option.map_map]
  exact congrArg (Option.map · _) (funext outline_untagged)

/-- No tag in a key is taken out. -/
theorem tagInKey_untagged_iff {v : Value} : TagInKey v.untagged ↔ TagInKey v := by
  induction v using inductOn with
  | seq items ih =>
      rw [untagged, untaggedItems_eq, tagInKey_seq_iff, tagInKey_seq_iff]
      simp only [List.mem_map, exists_exists_and_eq_and]
      exact exists_congr fun item => and_congr_right fun hmem => ih item hmem
  | map pairs ih =>
      rw [untagged, untaggedPairs_eq, tagInKey_map_iff, tagInKey_map_iff]
      simp only [List.mem_map, exists_exists_and_eq_and]
      exact exists_congr fun pair => and_congr_right fun hmem => or_congr_right (ih pair hmem).2
  | tagged tag v ih =>
      rw [untagged, ih]
      constructor
      · exact .under
      · intro h
        cases h with
        | under h => exact h
  | _ => rfl

theorem holdsTag_untagged_iff {v : Value} : v.untagged.holdsTag = true ↔ TagInKey v :=
  (holdsTag_iff_tagInKey (untagged_untagged v)).trans tagInKey_untagged_iff

end AdventureTables.Yaml.Value

namespace AdventureTables

open Yaml (Value)
open Yaml.Value (EqualButTags TagInValue outline)

/-- **Tags on values do not matter.**  Two values that become equal when all
tags in value positions are taken out are read as the same dungeon, or refused
for the same reason, because taking the tags out makes the same value of both.
That value has no tag in a value position, and at every position as many items
or the same keys as before.  A value without tags in value positions stays as
it is. -/
theorem ofValue_ignores_tags (v : Value) :
    (∀ w, EqualButTags v w ↔ v.untagged = w.untagged) ∧
    (∀ w, EqualButTags v w → Dungeon.ofValue v = Dungeon.ofValue w) ∧
    ¬ TagInValue v.untagged ∧
    (∀ position, (v.untagged.part? position).map outline = (v.part? position).map outline) ∧
    (¬ TagInValue v ↔ v.untagged = v) ∧
    v.untagged.untagged = v.untagged := by
  have hsame := Value.untagged_untagged v
  refine ⟨fun w => Value.equalButTags_iff, fun w h => ?_, Value.not_tagInValue_iff.mpr hsame,
    Value.outline_part?_untagged v, Value.not_tagInValue_iff, hsame⟩
  rw [Dungeon.ofValue, Dungeon.ofValue, Value.equalButTags_iff.mp h]

/-- A document with tags on a key, on the whole, on a table and twice on a
text. -/
def taggedDocument : Value :=
  .tagged "!dungeon" (.map [(.tagged "!key" (.string "arbitrary_messages"),
      .tagged "!!omap" (.seq [.map [(.string "HELLO",
        .tagged "!a" (.tagged "!b" (.string "Hi.")))]])),
    (.string "class_messages", .null), (.string "turn_threshold_messages", .null),
    (.string "locations", .tagged "!none" .null), (.string "object_descriptions", .null),
    (.string "obituaries", .null)])

/-- The same with the tag on the key only. -/
def plainDocument : Value :=
  .map [(.tagged "!key" (.string "arbitrary_messages"),
      .seq [.map [(.string "HELLO", .string "Hi.")]]),
    (.string "class_messages", .null), (.string "turn_threshold_messages", .null),
    (.string "locations", .null), (.string "object_descriptions", .null),
    (.string "obituaries", .null)]

/-- Both are read as a dungeon with one message. -/
theorem ofValue_taggedDocument :
    EqualButTags taggedDocument plainDocument ∧
    Dungeon.ofValue taggedDocument = Dungeon.ofValue plainDocument ∧
    Dungeon.ofValue plainDocument = .ok ⟨[⟨"HELLO", some "Hi."⟩], [], [], [], [], []⟩ ∧
    taggedDocument.untagged = plainDocument := by
  obtain ⟨hiff, hread, -⟩ := ofValue_ignores_tags taggedDocument
  have hequal : EqualButTags taggedDocument plainDocument := (hiff plainDocument).mpr rfl
  exact ⟨hequal, hread plainDocument hequal, rfl, rfl⟩

end AdventureTables
