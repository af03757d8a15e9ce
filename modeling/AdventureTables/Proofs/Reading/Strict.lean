import AdventureTables.Dungeon.Reading
import AdventureTables.Proofs.Outcome
/-!
# Strict reading

A strict record is checked pair by pair with the names seen so far in hand.
The check passes exactly if all keys are texts, no known name is given twice,
and the values of the known names pass their own checks
(`firstFault_eq_none_iff`).  What values a name is given is said by `valuesOf`,
without regard to the order in which the pairs were checked.
-/

namespace AdventureTables

open Yaml (Value)

/-- A reading without a fault is one that succeeds. -/
theorem fault?_eq_none_iff {α β : Type} {read : α → Except Mismatch β} {value : α} :
    fault? (read value) = none ↔ Reads read value := by
  unfold Reads
  cases read value <;> simp [fault?]

/-! ## Pairs of a strict record -/

/-- All keys are texts, their tags aside. -/
def TextKeys (pairs : List (Value × Value)) : Prop :=
  ∀ pair ∈ pairs, ∃ name, keyText? pair.1 = some name

/-- The values that a name is given, in their order. -/
def valuesOf (name : String) (pairs : List (Value × Value)) : List Value :=
  (pairs.filter fun pair => keyText? pair.1 = some name).map Prod.snd

/-- A pair gives its value to the name that its key is. -/
theorem valuesOf_cons_self {name : String} {key value : Value} {pairs : List (Value × Value)}
    (h : keyText? key = some name) :
    valuesOf name ((key, value) :: pairs) = value :: valuesOf name pairs := by
  simp [valuesOf, h]

/-- A pair gives nothing to other names. -/
theorem valuesOf_cons_of_ne {name : String} {key value : Value} {pairs : List (Value × Value)}
    (h : keyText? key ≠ some name) :
    valuesOf name ((key, value) :: pairs) = valuesOf name pairs := by
  simp [valuesOf, h]

/-- The value of a field is the first one that its name is given. -/
theorem field_eq_ok_iff {name : String} {pairs : List (Value × Value)} {value : Value} :
    field name pairs = .ok value ↔ (valuesOf name pairs).head? = some value := by
  rw [field, valuesOf, List.head?_map, List.head?_filter]
  cases pairs.find? fun pair => keyText? pair.1 = some name <;> simp

/-- The pairs of a strict record are without a fault exactly if all keys are
texts, and each known name is given a value at most once, not at all if it was
seen before, and none that its check refuses. -/
theorem firstFault_eq_none_iff {checks : List (String × (Value → Option Mismatch))}
    {seen : List String} {pairs : List (Value × Value)} :
    firstFault checks seen pairs = none ↔
      TextKeys pairs ∧ ∀ name check, checks.lookup name = some check →
        (valuesOf name pairs).length ≤ (if name ∈ seen then 0 else 1) ∧
        ∀ value ∈ valuesOf name pairs, check value = none := by
  induction pairs generalizing seen with
  | nil => simp [firstFault, TextKeys, valuesOf]
  | cons pair pairs ih =>
      obtain ⟨key, value⟩ := pair
      cases hkey : keyText? key with
      | none => simp [firstFault, TextKeys, hkey]
      | some given =>
          have htext : TextKeys ((key, value) :: pairs) ↔ TextKeys pairs := by
            simp [TextKeys, hkey]
          cases hcheck : checks.lookup given with
          | none =>
              simp only [firstFault, hkey, hcheck, htext, ih]
              refine and_congr_right fun _ => forall₂_congr fun name check => ?_
              refine forall_congr' fun hname => ?_
              have hne : keyText? key ≠ some name := by
                intro heq
                rw [hkey, Option.some.injEq] at heq
                simp [← heq, hcheck] at hname
              rw [valuesOf_cons_of_ne hne]
          | some check =>
              by_cases hseen : given ∈ seen
              · simp only [firstFault, hkey, hcheck, List.contains_eq_mem, hseen, decide_true,
                  if_true, reduceCtorEq, false_iff]
                intro h
                obtain ⟨-, h⟩ := h
                have hlen := (h given check hcheck).1
                simp [valuesOf_cons_self hkey, hseen] at hlen
              cases hvalue : check value with
              | some mismatch =>
                  simp only [firstFault, hkey, hcheck, List.contains_eq_mem, hseen, decide_false,
                    Bool.false_eq_true, if_false, hvalue, reduceCtorEq, false_iff]
                  intro h
                  obtain ⟨-, h⟩ := h
                  have hpass := (h given check hcheck).2 value
                  simp [valuesOf_cons_self hkey, hvalue] at hpass
              | none =>
                  simp only [firstFault, hkey, hcheck, List.contains_eq_mem, hseen, decide_false,
                    Bool.false_eq_true, if_false, hvalue, htext, ih]
                  refine and_congr_right fun _ => forall₂_congr fun name other => ?_
                  refine forall_congr' fun hname => ?_
                  by_cases hsame : given = name
                  · subst hsame
                    obtain rfl : check = other := Option.some.inj (hcheck.symm.trans hname)
                    simp [valuesOf_cons_self hkey, hseen, hvalue]
                  · have hne : keyText? key ≠ some name := by simpa [hkey] using hsame
                    simp [valuesOf_cons_of_ne hne, Ne.symm hsame]

/-- The pairs of a strict record are taken exactly if the record is null, for
no pairs, or a mapping without a fault. -/
theorem readRecord_eq_ok_iff {demand : Demand}
    {checks : List (String × (Value → Option Mismatch))} {value : Value}
    {pairs : List (Value × Value)} :
    readRecord demand checks value = .ok pairs ↔
      value = .null ∧ pairs = [] ∨ value = .map pairs ∧ firstFault checks [] pairs = none := by
  cases value with
  | null => simp [readRecord, eq_comm]
  | map given =>
      simp only [readRecord]
      cases hfault : firstFault checks [] given with
      | none =>
          simp only [Except.ok.injEq, reduceCtorEq, false_and, Value.map.injEq, false_or]
          constructor
          · intro heq
            subst heq
            exact ⟨rfl, hfault⟩
          · exact fun h => h.1
      | some mismatch =>
          simp only [reduceCtorEq, false_and, Value.map.injEq, false_or, false_iff]
          intro h
          obtain ⟨rfl, hnone⟩ := h
          simp [hfault] at hnone
  | _ => simp [readRecord]

/-! ## Records that must be complete -/

/-- Each key among different ones is looked up as it stands. -/
theorem lookup_eq_some_iff_mem {α β : Type} [DecidableEq α] {pairs : List (α × β)}
    (hnodup : (pairs.map Prod.fst).Nodup) {key : α} {value : β} :
    pairs.lookup key = some value ↔ (key, value) ∈ pairs := by
  induction pairs with
  | nil => simp
  | cons pair pairs ih =>
      obtain ⟨first, firstValue⟩ := pair
      obtain ⟨hfresh, hrest⟩ := List.nodup_cons.mp hnodup
      by_cases hkey : key = first
      · subst hkey
        have hother : (key, value) ∉ pairs := fun hmem =>
          hfresh (List.mem_map.mpr ⟨_, hmem, rfl⟩)
        simp [List.lookup_cons_self, hother, eq_comm]
      · have hbeq : (key == first) = false := beq_false_of_ne hkey
        simp [List.lookup_cons, hbeq, hkey, ih hrest]

/-- A record is without a fault and has all the fields that it must have
exactly if it is a mapping with texts for keys that gives each of the fields
once, with a value that passes its check. -/
theorem completeRecord_iff {demand : Demand} {checks : List (String × (Value → Option Mismatch))}
    {value : Value} (hne : checks ≠ []) (hnodup : (checks.map Prod.fst).Nodup) :
    (∃ pairs, readRecord demand checks value = .ok pairs ∧
      ∀ entry ∈ checks, ∃ given, field entry.1 pairs = .ok given ∧ entry.2 given = none) ↔
    ∃ pairs, value = .map pairs ∧ TextKeys pairs ∧
      ∀ entry ∈ checks, ∃ given, valuesOf entry.1 pairs = [given] ∧ entry.2 given = none := by
  constructor
  · intro h
    obtain ⟨pairs, hread, hfields⟩ := h
    obtain ⟨-, rfl⟩ | ⟨rfl, hfault⟩ := readRecord_eq_ok_iff.mp hread
    · -- Null has no pairs, so the first field is missing.
      obtain ⟨entry, hentry⟩ := List.exists_mem_of_ne_nil checks hne
      obtain ⟨given, hgiven, -⟩ := hfields entry hentry
      simp [field] at hgiven
    · obtain ⟨htext, hchecks⟩ := firstFault_eq_none_iff.mp hfault
      refine ⟨pairs, rfl, htext, fun entry hentry => ?_⟩
      obtain ⟨given, hgiven, hcheck⟩ := hfields entry hentry
      obtain ⟨rest, hvalues⟩ := List.head?_eq_some_iff.mp (field_eq_ok_iff.mp hgiven)
      have honce := (hchecks entry.1 entry.2 ((lookup_eq_some_iff_mem hnodup).mpr hentry)).1
      have hrest : rest = [] := by simpa [hvalues] using honce
      exact ⟨given, by rw [hvalues, hrest], hcheck⟩
  · intro h
    obtain ⟨pairs, rfl, htext, hfields⟩ := h
    refine ⟨pairs, readRecord_eq_ok_iff.mpr (.inr ⟨rfl, ?_⟩), fun entry hentry => ?_⟩
    · refine firstFault_eq_none_iff.mpr ⟨htext, fun name check hlookup => ?_⟩
      obtain ⟨given, hvalues, hcheck⟩ :=
        hfields (name, check) ((lookup_eq_some_iff_mem hnodup).mp hlookup)
      simpa [hvalues] using hcheck
    · obtain ⟨given, hvalues, hcheck⟩ := hfields entry hentry
      exact ⟨given, field_eq_ok_iff.mpr (by rw [hvalues, List.head?_cons]), hcheck⟩

end AdventureTables
