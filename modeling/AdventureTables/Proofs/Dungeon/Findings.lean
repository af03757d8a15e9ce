import AdventureTables.Proofs.Dungeon.Identifiers
import Mathlib.Algebra.BigOperators.Group.List.Basic
/-!
# What the check finds

The check goes through the identifiers of a table with those before in hand.  So
a problem has a cause, an entry at some place of its table, and what an entry
causes is said by `CausedAt` without the check: its identifier does not match
the pattern, or an entry before it has the same.

Two things are counted and one is ordered.  An identifier that is there `n`
times is reported as a duplicate `n - 1` times, and as invalid `n` times or
never (`count_duplicate_problems`, `count_invalid_problems`).  The problems stand
in the order of their causes: table by table, in a table place by place, and at
a place first what the identifier is and then that it was there
(`pairwise_findings`).  Each table is checked by itself, and the places of its
entries have no part in which problems there are.
-/

namespace AdventureTables

instance : DecidablePred MatchesIdentifier :=
  fun _ => decidable_of_iff _ isIdentifier_iff

/-- The entry at a place of a table causes a problem. -/
inductive CausedAt (ids : List String) (place : Nat) : Problem → Prop
  | invalid {table : Table} {id : String} (hid : ids[place]? = some id)
      (h : ¬ MatchesIdentifier id) : CausedAt ids place (.invalid table id)
  | duplicate {table : Table} {id : String} {earlier : Nat} (hid : ids[place]? = some id)
      (hearlier : earlier < place) (hsame : ids[earlier]? = some id) :
      CausedAt ids place (.duplicate table id)

/-- A problem, and the place in its table of an entry that causes it. -/
structure Finding where
  problem : Problem
  place : Nat

/-- The order of findings: by table, by place, and with what is wrong with an
identifier before that it is there again. -/
inductive Finding.Before : Finding → Finding → Prop
  | table {first second : Finding}
      (h : Table.all.idxOf first.problem.table < Table.all.idxOf second.problem.table) :
      Before first second
  | place {first second : Finding} (htable : first.problem.table = second.problem.table)
      (h : first.place < second.place) : Before first second
  | kind {table : Table} {id : String} {place : Nat} :
      Before ⟨.invalid table id, place⟩ ⟨.duplicate table id, place⟩

variable {table : Table} {seen ids : List String} {id other : String} {dungeon : Dungeon}

/-! ## Problems of an entry -/

/-- The problems that an entry causes, some identifiers being before it. -/
def entryProblems (table : Table) (before : List String) (id : String) : List Problem :=
  (if isIdentifier id then [] else [.invalid table id]) ++
    (if before.contains id then [.duplicate table id] else [])

theorem problemsFrom_cons (table : Table) (seen : List String) (id : String) (ids : List String) :
    problemsFrom table seen (id :: ids) =
      entryProblems table seen id ++ problemsFrom table (id :: seen) ids := rfl

theorem mem_entryProblems_iff {problem : Problem} :
    problem ∈ entryProblems table seen id ↔
      problem = .invalid table id ∧ ¬ MatchesIdentifier id ∨
        problem = .duplicate table id ∧ id ∈ seen := by
  rw [entryProblems, List.mem_append, ← isIdentifier_iff]
  by_cases hvalid : isIdentifier id <;> by_cases hseen : id ∈ seen <;> simp [hvalid, hseen]

theorem count_invalid_entryProblems :
    (entryProblems table seen id).count (.invalid table other) =
      if id = other ∧ ¬ MatchesIdentifier id then 1 else 0 := by
  simp only [entryProblems, ← isIdentifier_iff, List.count_append]
  by_cases hvalid : isIdentifier id <;> by_cases hseen : id ∈ seen <;>
    simp [hvalid, hseen, List.count_singleton]

theorem count_duplicate_entryProblems :
    (entryProblems table seen id).count (.duplicate table other) =
      if id = other ∧ id ∈ seen then 1 else 0 := by
  simp only [entryProblems, List.count_append]
  by_cases hvalid : isIdentifier id <;> by_cases hseen : id ∈ seen <;>
    simp [hvalid, hseen, List.count_singleton]

/-! ## Causes of problems -/

/-- The problems that the entry at a place of a table causes. -/
def problemsAt (table : Table) (seen ids : List String) (place : Nat) : List Problem :=
  match ids[place]? with
  | some id => entryProblems table (seen ++ ids.take place) id
  | none => []

/-- The check reports what the entries cause, one after the other. -/
theorem problemsFrom_eq_flatMap :
    problemsFrom table seen ids =
      (List.range ids.length).flatMap (problemsAt table seen ids) := by
  induction ids generalizing seen with
  | nil => rfl
  | cons id ids ih =>
      have hfirst : problemsAt table seen (id :: ids) 0 = entryProblems table seen id := by
        simp [problemsAt]
      have hrest : ∀ place, problemsAt table seen (id :: ids) (place + 1) =
          problemsAt table (id :: seen) ids place := by
        intro place
        simp only [problemsAt, List.getElem?_cons_succ, List.take_succ_cons]
        cases ids[place]? with
        | none => rfl
        | some other => simp [entryProblems, or_left_comm]
      rw [problemsFrom_cons, ih, List.length_cons, List.range_succ_eq_map, List.flatMap_cons,
        List.flatMap_map, hfirst]
      simp only [hrest]

theorem CausedAt.getElem?_eq {place : Nat} {problem : Problem} (h : CausedAt ids place problem) :
    ids[place]? = some problem.id := by
  cases h with
  | invalid hid => exact hid
  | duplicate hid => exact hid

theorem CausedAt.lt_length {place : Nat} {problem : Problem} (h : CausedAt ids place problem) :
    place < ids.length :=
  (List.getElem?_eq_some_iff.mp h.getElem?_eq).1

theorem mem_problemsAt_iff {place : Nat} {problem : Problem} :
    problem ∈ problemsAt table [] ids place ↔
      problem.table = table ∧ CausedAt ids place problem := by
  have hbefore : ∀ id, id ∈ ids.take place ↔ ∃ earlier < place, ids[earlier]? = some id := by
    intro id
    simp [List.mem_iff_getElem?, List.getElem?_take]
  constructor
  · intro h
    unfold problemsAt at h
    split at h
    · next id hid =>
      obtain ⟨rfl, hinvalid⟩ | ⟨rfl, hseen⟩ := mem_entryProblems_iff.mp h
      · exact ⟨rfl, .invalid hid hinvalid⟩
      · obtain ⟨earlier, hearlier, hsame⟩ := (hbefore id).mp hseen
        exact ⟨rfl, .duplicate hid hearlier hsame⟩
    · exact absurd h List.not_mem_nil
  · intro h
    obtain ⟨rfl, hcaused⟩ := h
    cases hcaused with
    | invalid hid hinvalid =>
        rw [problemsAt, hid]
        exact mem_entryProblems_iff.mpr (.inl ⟨rfl, hinvalid⟩)
    | duplicate hid hearlier hsame =>
        rw [problemsAt, hid]
        exact mem_entryProblems_iff.mpr (.inr ⟨rfl, (hbefore _).mpr ⟨_, hearlier, hsame⟩⟩)

/-- The problems of a table are those that its entries cause. -/
theorem mem_problemsFrom_iff {problem : Problem} :
    problem ∈ problemsFrom table [] ids ↔
      problem.table = table ∧ ∃ place, CausedAt ids place problem := by
  rw [problemsFrom_eq_flatMap, List.mem_flatMap]
  simp only [mem_problemsAt_iff, List.mem_range]
  constructor
  · intro h
    obtain ⟨place, -, htable, hcaused⟩ := h
    exact ⟨htable, place, hcaused⟩
  · intro h
    obtain ⟨htable, place, hcaused⟩ := h
    exact ⟨place, hcaused.lt_length, htable, hcaused⟩

/-- An identifier of a table is reported as invalid as often as it is there, or
never. -/
theorem count_invalid_problemsFrom :
    (problemsFrom table seen ids).count (.invalid table id) =
      if MatchesIdentifier id then 0 else ids.count id := by
  induction ids generalizing seen with
  | nil => simp [problemsFrom]
  | cons first ids ih =>
      rw [problemsFrom_cons, List.count_append, count_invalid_entryProblems, ih, List.count_cons]
      by_cases hsame : first = id
      · subst hsame
        by_cases hvalid : MatchesIdentifier first <;> simp [hvalid, Nat.add_comm]
      · simp [hsame]

/-- An identifier of a table is reported as a duplicate as often as it is there,
but for the first time if it was not seen before. -/
theorem count_duplicate_problemsFrom :
    (problemsFrom table seen ids).count (.duplicate table id) =
      if id ∈ seen then ids.count id else ids.count id - 1 := by
  induction ids generalizing seen with
  | nil => simp [problemsFrom]
  | cons first ids ih =>
      rw [problemsFrom_cons, List.count_append, count_duplicate_entryProblems, ih, List.count_cons]
      by_cases hsame : first = id
      · subst hsame
        by_cases hseen : first ∈ seen <;> simp [hseen, Nat.add_comm]
      · simp [hsame, Ne.symm hsame]

/-- A dungeon has a problem as often as the table of the problem has it. -/
theorem count_problems (dungeon : Dungeon) (problem : Problem) :
    dungeon.problems.count problem =
      (problemsFrom problem.table [] (problem.table.ids dungeon)).count problem := by
  have hothers : ∀ table, table ≠ problem.table → table ∈ Table.all →
      (problemsFrom table [] (table.ids dungeon)).count problem = 0 := by
    intro table hne _
    exact List.count_eq_zero.mpr fun hmem => hne (mem_problemsFrom_iff.mp hmem).1.symm
  have honce : Table.all.count problem.table = 1 := by
    cases problem.table <;> decide
  rw [Dungeon.problems, List.count_flatMap]
  exact (List.sum_map_eq_nsmul_single _ _ hothers).trans (by rw [honce, one_nsmul])

theorem count_invalid_problems (dungeon : Dungeon) (table : Table) (id : String) :
    dungeon.problems.count (.invalid table id) =
      if MatchesIdentifier id then 0 else (table.ids dungeon).count id :=
  (count_problems dungeon _).trans count_invalid_problemsFrom

theorem count_duplicate_problems (dungeon : Dungeon) (table : Table) (id : String) :
    dungeon.problems.count (.duplicate table id) = (table.ids dungeon).count id - 1 := by
  rw [count_problems, Problem.table, count_duplicate_problemsFrom, if_neg List.not_mem_nil]

/-! ## Findings -/

/-- The problems of a dungeon, each with its cause. -/
def Dungeon.findings (dungeon : Dungeon) : List Finding :=
  Table.all.flatMap fun table =>
    (List.range (table.ids dungeon).length).flatMap fun place =>
      (problemsAt table [] (table.ids dungeon) place).map (⟨·, place⟩)

theorem map_problem_findings (dungeon : Dungeon) :
    dungeon.findings.map Finding.problem = dungeon.problems := by
  simp only [Dungeon.findings, Dungeon.problems, problemsFrom_eq_flatMap, List.map_flatMap,
    List.map_map, Function.comp_def, List.map_id']

theorem mem_findings_iff {finding : Finding} :
    finding ∈ dungeon.findings ↔
      CausedAt (finding.problem.table.ids dungeon) finding.place finding.problem := by
  obtain ⟨problem, place⟩ := finding
  simp only [Dungeon.findings, List.mem_flatMap, List.mem_map, List.mem_range,
    mem_problemsAt_iff, Finding.mk.injEq]
  constructor
  · intro h
    obtain ⟨_, -, _, -, _, ⟨rfl, hcaused⟩, rfl, rfl⟩ := h
    exact hcaused
  · intro h
    exact ⟨problem.table, Table.mem_all _, place, h.lt_length, problem, ⟨rfl, h⟩, rfl, rfl⟩

theorem pairwise_findings (dungeon : Dungeon) : dungeon.findings.Pairwise Finding.Before := by
  have hcause : ∀ {table place finding}, finding ∈
      (problemsAt table [] (Table.ids dungeon table) place).map (Finding.mk · place) →
        finding.problem.table = table ∧ finding.place = place := by
    intro table place finding hmem
    obtain ⟨problem, hproblem, rfl⟩ := List.mem_map.mp hmem
    exact ⟨(mem_problemsAt_iff.mp hproblem).1, rfl⟩
  have horder : Table.all.Pairwise fun first second =>
      Table.all.idxOf first < Table.all.idxOf second := by decide
  refine List.pairwise_flatMap.mpr ⟨fun table _ => List.pairwise_flatMap.mpr ⟨?_, ?_⟩, ?_⟩
  · intro place _
    unfold problemsAt
    split
    · next id hid =>
      rw [entryProblems]
      split <;> split <;> simp [Finding.Before.kind]
    · exact .nil
  · refine List.pairwise_lt_range.imp fun hlt first hfirst second hsecond => ?_
    obtain ⟨htable₁, hplace₁⟩ := hcause hfirst
    obtain ⟨htable₂, hplace₂⟩ := hcause hsecond
    exact .place (htable₁.trans htable₂.symm) (by rwa [hplace₁, hplace₂])
  · refine horder.imp fun hlt first hfirst second hsecond => ?_
    obtain ⟨_, -, hfirst⟩ := List.mem_flatMap.mp hfirst
    obtain ⟨_, -, hsecond⟩ := List.mem_flatMap.mp hsecond
    exact .table (by rwa [(hcause hfirst).1, (hcause hsecond).1])

/-! ## The check -/

theorem Table.entryName_injective : Function.Injective Table.entryName := by
  intro table other
  cases table <;> cases other <;> decide

/-- **The check finds exactly the problems there are.**  An identifier that is in
a table `n` times is reported there as a duplicate `n - 1` times, and as invalid
`n` times if it does not match the pattern, else never.  The problems are those
that entries cause, in the order of the entries, table by table, and those of an
entry with the invalid identifier before the repeated one.  So where in its table
an entry stands has no part in which problems there are, and an identifier is only
reported as a duplicate if it is twice in one table.  What an entry is called tells
its table. -/
theorem problems_exact (dungeon : Dungeon) :
    (∀ table id,
      dungeon.problems.count (.duplicate table id) = (table.ids dungeon).count id - 1 ∧
      dungeon.problems.count (.invalid table id) =
        if MatchesIdentifier id then 0 else (table.ids dungeon).count id) ∧
    (∃ findings : List Finding, findings.map Finding.problem = dungeon.problems ∧
      findings.Pairwise Finding.Before ∧
      ∀ finding, finding ∈ findings ↔
        CausedAt (finding.problem.table.ids dungeon) finding.place finding.problem) ∧
    (∀ dungeon' : Dungeon, (∀ table : Table, (table.ids dungeon').Perm (table.ids dungeon)) →
      dungeon'.problems.Perm dungeon.problems) ∧
    (∀ table id, .duplicate table id ∈ dungeon.problems ↔ 2 ≤ (table.ids dungeon).count id) ∧
    Function.Injective Table.entryName := by
  refine ⟨fun table id => ⟨count_duplicate_problems dungeon table id,
      count_invalid_problems dungeon table id⟩,
    ⟨dungeon.findings, map_problem_findings dungeon, pairwise_findings dungeon,
      fun finding => mem_findings_iff⟩, fun dungeon' hperm => ?_, fun table id => ?_,
    Table.entryName_injective⟩
  · refine List.perm_iff_count.mpr fun problem => ?_
    cases problem with
    | duplicate table id =>
        rw [count_duplicate_problems, count_duplicate_problems, (hperm table).count_eq]
    | invalid table id =>
        rw [count_invalid_problems, count_invalid_problems, (hperm table).count_eq]
  · rw [← List.count_pos_iff, count_duplicate_problems]
    omega

/-- A dungeon with three classes of one name that is no identifier, and a class and
a message of another. -/
def crowdedDungeon : Dungeon where
  arbitraryMessages := [⟨"CAT", none⟩]
  classMessages :=
    [⟨"9LIVES", some "a"⟩, ⟨"9LIVES", some "b"⟩, ⟨"CAT", none⟩, ⟨"9LIVES", some "c"⟩]
  turnThresholdMessages := []
  locations := []
  objectDescriptions := []
  obituaries := []

/-- The same with its classes in another order. -/
def shuffledDungeon : Dungeon :=
  { crowdedDungeon with
    classMessages :=
      [⟨"CAT", none⟩, ⟨"9LIVES", some "c"⟩, ⟨"9LIVES", some "a"⟩, ⟨"9LIVES", some "b"⟩] }

/-- The three classes are five problems, in either order.  That a class and a
message share a name is none. -/
theorem problems_shuffledDungeon :
    (∀ table : Table, (table.ids shuffledDungeon).Perm (table.ids crowdedDungeon)) ∧
    shuffledDungeon.problems.Perm crowdedDungeon.problems ∧
    crowdedDungeon.problems = [.invalid .classMessages "9LIVES", .invalid .classMessages "9LIVES",
      .duplicate .classMessages "9LIVES", .invalid .classMessages "9LIVES",
      .duplicate .classMessages "9LIVES"] ∧
    .duplicate .classMessages "CAT" ∉ shuffledDungeon.problems := by
  have hperm : ∀ table : Table, (table.ids shuffledDungeon).Perm (table.ids crowdedDungeon) := by
    intro table
    cases table <;> decide
  obtain ⟨-, -, hproblems, -, -⟩ := problems_exact crowdedDungeon
  obtain ⟨-, -, -, hduplicate, -⟩ := problems_exact shuffledDungeon
  refine ⟨hperm, hproblems shuffledDungeon hperm, by decide, ?_⟩
  exact mt (hduplicate .classMessages "CAT").mp (by decide)

end AdventureTables
