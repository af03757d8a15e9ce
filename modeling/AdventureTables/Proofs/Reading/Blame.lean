import AdventureTables.Proofs.Reading.Acceptance
/-!
# What a document is refused for

The pairs at the root of a document are looked at one after the other, and the
first one that is at fault settles what is reported: one whose key is no text,
one that gives a known name again, or one whose value is refused for the name
that it is given to (`RootFault`).  What comes after it is never looked at, and
the value of a name that is given again is not either.

Only a document without such a pair is asked for missing names, in the order of
the collections and not of the document.  So what is reported then depends on
which of the collections are given and on nothing else.
-/

namespace AdventureTables

open Yaml (Value)

/-! ## Faults of pairs -/

/-- The names of all collections, in the order in which they are asked for. -/
def collectionNames : List String :=
  tableNames ++ ["obituaries"]

/-- The pairs at the root of a document; null has none. -/
def rootPairs? : Value → Option (List (Value × Value))
  | .null => some []
  | .map pairs => some pairs
  | _ => none

/-- A name is given by one of some pairs. -/
def Given (name : String) (pairs : List (Value × Value)) : Prop :=
  ∃ pair ∈ pairs, keyText? pair.1 = some name

/-- The collection of a name is not read from a value, for some reason. -/
def Refuses (name : String) (value : Value) (mismatch : Mismatch) : Prop :=
  name ∈ ["arbitrary_messages", "class_messages", "turn_threshold_messages"] ∧
      readMessages value = .error mismatch ∨
    name = "locations" ∧ readLocations value = .error mismatch ∨
    name = "object_descriptions" ∧ readObjects value = .error mismatch ∨
    name = "obituaries" ∧ readObituaries value = .error mismatch

/-- What is wrong with a pair at the root of a document, after some others. -/
inductive RootFault (before : List (Value × Value)) : Value × Value → Mismatch → Prop
  | key {key value : Value} (h : keyText? key = none) :
      RootFault before (key, value) (.shape (.of key) .fieldName)
  | repeated {key value : Value} {name : String} (hkey : keyText? key = some name)
      (hname : name ∈ collectionNames) (hgiven : Given name before) :
      RootFault before (key, value) (.repeated name)
  | value {key value : Value} {name : String} {mismatch : Mismatch}
      (hkey : keyText? key = some name) (hnew : ¬ Given name before)
      (h : Refuses name value mismatch) : RootFault before (key, value) mismatch

/-- What is wrong with a name of a collection that some pairs do not give. -/
def MissingFault (pairs : List (Value × Value)) (name : String) (mismatch : Mismatch) : Prop :=
  ¬ Given name pairs ∧ mismatch = .missing name

theorem fault?_eq_some_iff {α β : Type} {read : α → Except Mismatch β} {value : α}
    {mismatch : Mismatch} : fault? (read value) = some mismatch ↔ read value = .error mismatch := by
  cases read value <;> simp [fault?]

/-- A collection is checked for what it is read as. -/
theorem lookup_checks {name : String} {check : Value → Option Mismatch}
    (h : Dungeon.checks.lookup name = some check) {value : Value} {mismatch : Mismatch} :
    check value = some mismatch ↔ Refuses name value mismatch := by
  have hmem : (name, check) ∈ Dungeon.checks := (lookup_eq_some_iff_mem (by decide)).mp h
  simp only [Dungeon.checks, List.mem_cons, List.not_mem_nil, or_false, Prod.mk.injEq] at hmem
  rcases hmem with ⟨rfl, rfl⟩ | ⟨rfl, rfl⟩ | ⟨rfl, rfl⟩ | ⟨rfl, rfl⟩ | ⟨rfl, rfl⟩ | ⟨rfl, rfl⟩
  all_goals simp [fault?_eq_some_iff, Refuses]

theorem lookup_checks_eq_none_iff {name : String} :
    Dungeon.checks.lookup name = none ↔ name ∉ collectionNames := by
  simp [Dungeon.checks, collectionNames, tableNames]

theorem Refuses.mem {name : String} {value : Value} {mismatch : Mismatch}
    (h : Refuses name value mismatch) : name ∈ collectionNames := by
  rcases h with ⟨hname, -⟩ | ⟨rfl, -⟩ | ⟨rfl, -⟩ | ⟨rfl, -⟩
  · simp only [List.mem_cons, List.not_mem_nil, or_false] at hname
    rcases hname with rfl | rfl | rfl <;> decide
  all_goals decide

/-! ## The first pair at fault -/

section Pairs

variable {before pairs : List (Value × Value)} {key value : Value} {name : String}
  {mismatch : Mismatch}

theorem given_append_iff {after : List (Value × Value)} :
    Given name (before ++ after) ↔ Given name before ∨ Given name after := by
  simp only [Given, List.mem_append, or_and_right, exists_or]

theorem given_singleton_iff : Given name [(key, value)] ↔ keyText? key = some name := by
  simp [Given]

theorem rootFault_of_none (hkey : keyText? key = none) :
    RootFault before (key, value) mismatch ↔ mismatch = .shape (.of key) .fieldName := by
  constructor
  · intro h
    cases h with
    | key => rfl
    | repeated hsome => simp [hkey] at hsome
    | value hsome => simp [hkey] at hsome
  · rintro rfl
    exact .key hkey

theorem rootFault_of_some (hkey : keyText? key = some name) :
    RootFault before (key, value) mismatch ↔
      Given name before ∧ name ∈ collectionNames ∧ mismatch = .repeated name ∨
        ¬ Given name before ∧ Refuses name value mismatch := by
  constructor
  · intro h
    cases h with
    | key hnone => simp [hkey] at hnone
    | repeated hsome hname hgiven =>
        obtain rfl := Option.some.inj (hsome.symm.trans hkey)
        exact .inl ⟨hgiven, hname, rfl⟩
    | value hsome hnew h =>
        obtain rfl := Option.some.inj (hsome.symm.trans hkey)
        exact .inr ⟨hnew, h⟩
  · rintro (⟨hgiven, hname, rfl⟩ | ⟨hnew, h⟩)
    · exact .repeated hkey hname hgiven
    · exact .value hkey hnew h

/-- The fault that is found among some pairs is that of the first one at fault,
if of the known names those have been seen that were given before. -/
theorem firstFault_eq_some_iff {seen : List String}
    (hseen : ∀ name ∈ collectionNames, name ∈ seen ↔ Given name before) :
    firstFault Dungeon.checks seen pairs = some mismatch ↔
      Reports (fun between => RootFault (before ++ between)) pairs mismatch := by
  induction pairs generalizing before seen with
  | nil => simp [firstFault, not_reports_nil]
  | cons pair pairs ih =>
      obtain ⟨key, value⟩ := pair
      have hshift : (fun between => RootFault (before ++ (key, value) :: between)) =
          fun between => RootFault (before ++ [(key, value)] ++ between) := by simp
      rw [reports_cons_iff, List.append_nil, hshift]
      cases hkey : keyText? key with
      | none => simp [firstFault, hkey, rootFault_of_none hkey, eq_comm]
      | some given =>
          simp only [rootFault_of_some hkey]
          cases hcheck : Dungeon.checks.lookup given with
          | none =>
              have hunknown := lookup_checks_eq_none_iff.mp hcheck
              have hrefuses : ∀ m, ¬ Refuses given value m := fun m h => hunknown h.mem
              have hseen' : ∀ name ∈ collectionNames,
                  name ∈ seen ↔ Given name (before ++ [(key, value)]) := by
                intro name hname
                have hne : given ≠ name := fun h => hunknown (h ▸ hname)
                simp [given_append_iff, given_singleton_iff, hkey, hne, hseen name hname]
              simp [firstFault, hkey, hcheck, hunknown, hrefuses, ih hseen']
          | some check =>
              have hknown : given ∈ collectionNames := by
                by_contra hunknown
                simp [lookup_checks_eq_none_iff.mpr hunknown] at hcheck
              have hgiven := hseen given hknown
              have hrefuses : ∀ m, Refuses given value m ↔ check value = some m :=
                fun m => (lookup_checks hcheck).symm
              by_cases hmem : given ∈ seen
              · simp [firstFault, hkey, hcheck, hmem, hgiven.mp hmem, hknown, eq_comm]
              · have hnew : ¬ Given given before := mt hgiven.mpr hmem
                have hseen' : ∀ name ∈ collectionNames,
                    name ∈ given :: seen ↔ Given name (before ++ [(key, value)]) := by
                  intro name hname
                  simp [given_append_iff, given_singleton_iff, hkey, hseen name hname, or_comm,
                    eq_comm]
                cases hvalue : check value with
                | some m => simp [firstFault, hkey, hcheck, hmem, hvalue, hnew, hrefuses]
                | none => simp [firstFault, hkey, hcheck, hmem, hvalue, hnew, hrefuses, ih hseen']

theorem firstFault_root_eq_some_iff :
    firstFault Dungeon.checks [] pairs = some mismatch ↔ Reports RootFault pairs mismatch :=
  @firstFault_eq_some_iff [] pairs mismatch [] (by simp [Given])

theorem firstFault_root_eq_none_iff :
    firstFault Dungeon.checks [] pairs = none ↔ Faultless RootFault pairs := by
  rw [← not_not (a := Faultless RootFault pairs), ← exists_reports_iff]
  simp only [← firstFault_root_eq_some_iff]
  cases firstFault Dungeon.checks [] pairs <;> simp

/-! ## Missing names -/

theorem field_eq_error_iff :
    field name pairs = .error mismatch ↔ MissingFault pairs name mismatch := by
  unfold field
  cases hfind : pairs.find? fun pair => keyText? pair.1 = some name with
  | none =>
      have hnone : ¬ Given name pairs := by simpa [Given] using hfind
      simp [MissingFault, hnone, eq_comm]
  | some pair =>
      have hgiven : Given name pairs :=
        ⟨pair, List.mem_of_find?_eq_some hfind, by simpa using List.find?_some hfind⟩
      simp [MissingFault, hgiven]

theorem forall_not_missingFault_iff :
    (∀ mismatch, ¬ MissingFault pairs name mismatch) ↔ Given name pairs := by
  simp [MissingFault]

/-- Reading goes on after a collection if it is given, with a value that it is
read from. -/
theorem named_bind_eq_error_iff {α β : Type} {read : Value → Except Mismatch α}
    {next : α → Except Mismatch β} {names : List String}
    (hread : ∀ value ∈ valuesOf name pairs, fault? (read value) = none)
    (hnext : ∀ result, next result = .error mismatch ↔
      Reports (fun _ => MissingFault pairs) names mismatch) :
    (do next (← read (← field name pairs))) = .error mismatch ↔
      Reports (fun _ => MissingFault pairs) (name :: names) mismatch := by
  rw [reports_cons_iff, forall_not_missingFault_iff, ← field_eq_error_iff]
  cases hfield : field name pairs with
  | error fault =>
      obtain ⟨hmissing, -⟩ := field_eq_error_iff.mp hfield
      simp [bind, Except.bind, hmissing]
  | ok value =>
      have hmem : value ∈ valuesOf name pairs :=
        List.mem_of_mem_head? (field_eq_ok_iff.mp hfield)
      obtain ⟨result, hresult⟩ := fault?_eq_none_iff.mp (hread value hmem)
      have hgiven : Given name pairs := by
        by_contra hmissing
        simp [field_eq_error_iff.mpr ⟨hmissing, rfl⟩] at hfield
      simp [bind, Except.bind, hresult, hnext, hgiven]

/-- Of pairs without fault a dungeon is read, unless a name is missing. -/
theorem ofUntagged_eq_error_iff (h : firstFault Dungeon.checks [] pairs = none) :
    Dungeon.ofUntagged (.map pairs) = .error mismatch ↔
      Reports (fun _ => MissingFault pairs) collectionNames mismatch := by
  obtain ⟨-, hchecks⟩ := firstFault_eq_none_iff.mp h
  have hpass : ∀ entry ∈ Dungeon.checks,
      ∀ value ∈ valuesOf entry.1 pairs, entry.2 value = none := by
    intro entry hmem
    exact (hchecks entry.1 entry.2 ((lookup_eq_some_iff_mem (by decide)).mpr hmem)).2
  simp only [Dungeon.checks, List.forall_mem_cons] at hpass
  obtain ⟨harbitrary, hclasses, hturns, hlocations, hobjects, hobituaries, -⟩ := hpass
  have hrecord : readRecord .dungeon Dungeon.checks (.map pairs) = .ok pairs := by
    simp [readRecord, h]
  rw [Dungeon.ofUntagged, hrecord]
  -- The collections are read one after the other, in the order of their names.
  refine named_bind_eq_error_iff harbitrary fun _ => ?_
  refine named_bind_eq_error_iff hclasses fun _ => ?_
  refine named_bind_eq_error_iff hturns fun _ => ?_
  refine named_bind_eq_error_iff hlocations fun _ => ?_
  refine named_bind_eq_error_iff hobjects fun _ => ?_
  refine named_bind_eq_error_iff hobituaries fun _ => ?_
  simp [pure, Except.pure, not_reports_nil]

end Pairs

/-! ## Documents -/

section Documents

variable {document : Value} {pairs : List (Value × Value)} {mismatch : Mismatch}

theorem ofValue_of_rootPairs? (hroot : rootPairs? document.untagged = some pairs) :
    Dungeon.ofValue document = Dungeon.ofUntagged (.map pairs) := by
  unfold Dungeon.ofValue
  unfold rootPairs? at hroot
  split at hroot
  · -- Null is read like a mapping without pairs.
    rename_i hnull
    obtain rfl : [] = pairs := Option.some.inj hroot
    rw [hnull]
    rfl
  · rename_i given hmap
    obtain rfl : given = pairs := Option.some.inj hroot
    rw [hmap]
  · simp at hroot

theorem ofUntagged_map_eq_error_iff :
    Dungeon.ofUntagged (.map pairs) = .error mismatch ↔
      Reports RootFault pairs mismatch ∨
      Faultless RootFault pairs ∧
        Reports (fun _ => MissingFault pairs) collectionNames mismatch := by
  rw [← firstFault_root_eq_some_iff, ← firstFault_root_eq_none_iff]
  cases hfault : firstFault Dungeon.checks [] pairs with
  | none => simp [ofUntagged_eq_error_iff hfault]
  | some fault => simp [Dungeon.ofUntagged, readRecord, hfault, bind, Except.bind]

end Documents

/-- **What a document is refused for.**  If some pair at the root of a document is
at fault, the document is refused for the first one that is, and so is any other
document that has the same pairs up to this one.  If none is, and the document is
refused nevertheless, it is for the first name of a collection that is not given;
another document without such a pair that gives the same collections, in any
order and among any other names, is refused for the same. -/
theorem ofValue_reports_first {document : Value} {pairs : List (Value × Value)}
    (hroot : rootPairs? document.untagged = some pairs) :
    (∀ mismatch, Dungeon.ofValue document = .error mismatch ↔
      Reports RootFault pairs mismatch ∨
      Faultless RootFault pairs ∧
        Reports (fun _ => MissingFault pairs) collectionNames mismatch) ∧
    (∀ before pair after mismatch, pairs = before ++ pair :: after →
      Faultless RootFault before → RootFault before pair mismatch →
      ∀ other rest, rootPairs? other.untagged = some (before ++ pair :: rest) →
        Dungeon.ofValue other = .error mismatch) ∧
    (Faultless RootFault pairs → ∀ other others, rootPairs? other.untagged = some others →
      Faultless RootFault others →
      (∀ name ∈ collectionNames, Given name others ↔ Given name pairs) →
      ∀ mismatch, Dungeon.ofValue other = .error mismatch ↔
        Dungeon.ofValue document = .error mismatch) := by
  refine ⟨fun mismatch => ?_, ?_, ?_⟩
  · rw [ofValue_of_rootPairs? hroot, ofUntagged_map_eq_error_iff]
  · intro before pair after mismatch _ hbefore hpair other rest hother
    rw [ofValue_of_rootPairs? hother, ofUntagged_map_eq_error_iff]
    exact .inl ⟨before, pair, rest, rfl, hbefore, hpair⟩
  · intro hfaultless other others hother hothers hsame mismatch
    have hmissing : ∀ name ∈ collectionNames, ∀ e, MissingFault others name e ↔
        MissingFault pairs name e := by
      intro name hname e
      rw [MissingFault, MissingFault, hsame name hname]
    have hreported := firstFault_root_eq_none_iff.mpr hfaultless
    have hreported' := firstFault_root_eq_none_iff.mpr hothers
    rw [ofValue_of_rootPairs? hroot, ofValue_of_rootPairs? hother,
      ofUntagged_eq_error_iff hreported, ofUntagged_eq_error_iff hreported',
      reports_congr hmissing]

/-- A document that gives the locations again, with a value that they are not
read from, and then has a key that is no text. -/
def repeatingPairs : List (Value × Value) :=
  [(.string "hints", .bool true), (.tagged "!x" (.string "locations"), .seq []),
    (.string "locations", .bool true), (.null, .null)]

/-- A document without locations and without messages. -/
def lackingPairs : List (Value × Value) :=
  [(.string "obituaries", .null), (.string "hints", .bool true),
    (.string "object_descriptions", .seq [])]

/-- The one document is refused for the repetition, the other for the messages
that are missing. -/
theorem ofValue_repeatingPairs :
    rootPairs? (Value.map repeatingPairs).untagged = some repeatingPairs ∧
    Dungeon.ofValue (.map repeatingPairs) = .error (.repeated "locations") ∧
    rootPairs? (Value.map lackingPairs).untagged = some lackingPairs ∧
    Dungeon.ofValue (.map lackingPairs) = .error (.missing "arbitrary_messages") := by
  have hrepeating : rootPairs? (Value.map repeatingPairs).untagged = some repeatingPairs := by rfl
  have hlacking : rootPairs? (Value.map lackingPairs).untagged = some lackingPairs := by rfl
  refine ⟨hrepeating, ?_, hlacking, ?_⟩
  · obtain ⟨hreport, -⟩ := ofValue_reports_first hrepeating
    have hbefore : Faultless RootFault (repeatingPairs.take 2) :=
      firstFault_root_eq_none_iff.mp (by rfl)
    have hgiven : Given "locations" (repeatingPairs.take 2) :=
      ⟨(.tagged "!x" (.string "locations"), .seq []), by simp [repeatingPairs], rfl⟩
    refine (hreport _).mpr (.inl ⟨_, (.string "locations", .bool true), _, rfl, hbefore, ?_⟩)
    exact .repeated rfl (by decide) hgiven
  · obtain ⟨hreport, -⟩ := ofValue_reports_first hlacking
    have hfaultless : Faultless RootFault lackingPairs :=
      firstFault_root_eq_none_iff.mp (by rfl)
    refine (hreport _).mpr (.inr ⟨hfaultless, reports_cons_iff.mpr (.inl ⟨?_, rfl⟩)⟩)
    simp [Given, lackingPairs, keyText?, Value.content]

end AdventureTables
