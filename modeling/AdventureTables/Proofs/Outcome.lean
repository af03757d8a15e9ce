import Mathlib.Data.List.Forall2
/-!
# What succeeds

A computation that may fail gives a result or a fault.  `Reads` says that a
reader takes a value, whatever it makes of it.  Several computations one after
the other succeed exactly if each of them does, and their result is made of the
results of all of them.  If they do not, the fault is that of the first one that
fails (`mapM_eq_error_iff`).
-/

namespace AdventureTables

/-- A reader takes a value. -/
def Reads {α β ε : Type} (read : α → Except ε β) (value : α) : Prop :=
  ∃ result, read value = .ok result

/-- A result that is there is the result. -/
theorem toOption_eq_some_iff {α ε : Type} {outcome : Except ε α} {result : α} :
    outcome.toOption = some result ↔ outcome = .ok result := by
  cases outcome <;> simp [Except.toOption]

/-- Two readings one after the other give what the second makes of what the
first gave. -/
theorem bind_eq_ok_iff {α β ε : Type} {first : Except ε α} {next : α → Except ε β} {result : β} :
    (first >>= next) = .ok result ↔ ∃ value, first = .ok value ∧ next value = .ok result := by
  cases first <;> simp [bind, Except.bind]

/-- What is done after a check is done if the check passes. -/
theorem check_bind_eq_ok_iff {β ε : Type} {check : Except ε Unit} {next : Unit → Except ε β}
    {result : β} :
    (check >>= next) = .ok result ↔ check = .ok () ∧ next () = .ok result := by
  cases check <;> simp [bind, Except.bind]

/-- Two readings one after the other succeed if the first does, and the second
does on what it gave. -/
theorem exists_bind_eq_ok_iff {α β ε : Type} {first : Except ε α} {next : α → Except ε β} :
    (∃ result, (first >>= next) = .ok result) ↔ ∃ value, first = .ok value ∧ Reads next value := by
  simp only [bind_eq_ok_iff, Reads]
  exact ⟨fun ⟨result, value, hfirst, hnext⟩ => ⟨value, hfirst, result, hnext⟩,
    fun ⟨value, hfirst, result, hnext⟩ => ⟨result, value, hfirst, hnext⟩⟩

/-- What is given without reading anything is given. -/
theorem exists_pure_eq_ok_iff {α ε : Type} {value : α} :
    (∃ result, (pure value : Except ε α) = .ok result) ↔ True := by
  simp [pure, Except.pure]

/-- A sequence is read item by item. -/
theorem mapM_eq_ok_iff {α β ε : Type} {read : α → Except ε β} {items : List α} {results : List β} :
    items.mapM read = .ok results ↔
      List.Forall₂ (fun item result => read item = .ok result) items results := by
  induction items generalizing results with
  | nil =>
      cases results with
      | nil => simp [pure, Except.pure]
      | cons => simp [pure, Except.pure]
  | cons item items ih =>
      rw [List.mapM_cons, bind_eq_ok_iff]
      simp only [bind_eq_ok_iff, ih, pure, Except.pure, Except.ok.injEq]
      constructor
      · intro h
        obtain ⟨result, hitem, rest, hrest, rfl⟩ := h
        exact .cons hitem hrest
      · intro h
        cases h with
        | cons hitem hrest => exact ⟨_, hitem, _, hrest, rfl⟩

/-- Values of which some may be absent are there together if each of them
is. -/
theorem mapM_eq_some_iff {α β : Type} {value? : α → Option β} {items : List α} {values : List β} :
    items.mapM value? = some values ↔
      List.Forall₂ (fun item value => value? item = some value) items values := by
  induction items generalizing values with
  | nil => cases values <;> simp
  | cons item items ih =>
      cases values with
      | nil => simp [List.mapM_cons, Option.bind_eq_some_iff]
      | cons value values =>
          simp [List.mapM_cons, Option.bind_eq_some_iff, List.forall₂_cons, ih]

/-- What is read in two steps is read item by item. -/
theorem exists_forall₂_comp_iff {α β γ : Type} {R : α → β → Prop} {S : β → γ → Prop}
    {items : List α} {results : List γ} :
    (∃ middle, List.Forall₂ R items middle ∧ List.Forall₂ S middle results) ↔
      List.Forall₂ (fun item result => ∃ middle, R item middle ∧ S middle result) items
        results := by
  constructor
  · intro h
    obtain ⟨middle, hfirst, hsecond⟩ := h
    induction hfirst generalizing results with
    | nil =>
        cases hsecond
        exact .nil
    | cons hitem _ ih =>
        cases hsecond with
        | cons hresult hrest => exact .cons ⟨_, hitem, hresult⟩ (ih hrest)
  · intro h
    induction h with
    | nil => exact ⟨[], .nil, .nil⟩
    | cons hboth _ ih =>
        obtain ⟨b, hitem, hresult⟩ := hboth
        obtain ⟨middle, hfirst, hsecond⟩ := ih
        exact ⟨b :: middle, .cons hitem hfirst, .cons hresult hsecond⟩

/-- Items may be read in any way that is the same for each of them. -/
theorem forall₂_congr_left {α β : Type} {R S : α → β → Prop} {items : List α} {results : List β}
    (h : ∀ item ∈ items, ∀ result, R item result ↔ S item result) :
    List.Forall₂ R items results ↔ List.Forall₂ S items results := by
  induction items generalizing results with
  | nil => simp
  | cons item items ih =>
      obtain ⟨hitem, hitems⟩ := List.forall_mem_cons.mp h
      simp only [List.forall₂_cons_left_iff, hitem, ih hitems]

/-- What each item is read as can be collected. -/
theorem exists_forall₂_iff {α β : Type} {R : α → β → Prop} {P : β → Prop} {items : List α} :
    (∃ results, List.Forall₂ R items results ∧ ∀ result ∈ results, P result) ↔
      ∀ item ∈ items, ∃ result, R item result ∧ P result := by
  induction items with
  | nil => simp
  | cons item items ih =>
      rw [List.forall_mem_cons, ← ih]
      constructor
      · intro h
        obtain ⟨results, h, hall⟩ := h
        cases h with
        | cons hitem hrest =>
            obtain ⟨hfirst, hothers⟩ := List.forall_mem_cons.mp hall
            exact ⟨⟨_, hitem, hfirst⟩, _, hrest, hothers⟩
      · intro h
        obtain ⟨⟨result, hitem, hfirst⟩, results, hrest, hothers⟩ := h
        exact ⟨result :: results, .cons hitem hrest, List.forall_mem_cons.mpr ⟨hfirst, hothers⟩⟩

/-- What is made of some things one by one is the same if it is for each of
them. -/
theorem map_eq_of_forall₂ {α β : Type} {f g : α → β} {as bs : List α}
    (h : List.Forall₂ (fun a b => f a = g b) as bs) : as.map f = bs.map g := by
  rw [← List.forall₂_eq_eq_eq, List.forall₂_map_left_iff, List.forall₂_map_right_iff]
  exact h

theorem mapM_congr_of_forall₂ {α β ε : Type} {read : α → Except ε β} {as bs : List α}
    (h : List.Forall₂ (fun a b => read a = read b) as bs) : as.mapM read = bs.mapM read := by
  induction h with
  | nil => rfl
  | cons hab _ ih => rw [List.mapM_cons, List.mapM_cons, hab, ih]

/-- A sequence is taken if each of its items is. -/
theorem reads_mapM_iff {α β ε : Type} {read : α → Except ε β} {items : List α} :
    Reads (fun items : List α => items.mapM read) items ↔ ∀ item ∈ items, Reads read item := by
  have hall : (∃ results, List.Forall₂ (fun item result => read item = .ok result) items results ∧
      ∀ result ∈ results, True) ↔ ∀ item ∈ items, ∃ result, read item = .ok result ∧ True :=
    exists_forall₂_iff
  simpa [Reads, mapM_eq_ok_iff] using hall

/-! ## Keeping what is read -/

/-- What is read from one value is read from the other one as well. -/
def Keeps {α β ε : Type} (read : α → Except ε β) (v w : α) : Prop :=
  ∀ result, read v = .ok result → read w = .ok result

theorem Keeps.of_eq {α β ε : Type} {read : α → Except ε β} {v w : α} (h : read v = read w) :
    Keeps read v w :=
  fun _ hread => h ▸ hread

theorem Keeps.refl {α β ε : Type} {read : α → Except ε β} (v : α) : Keeps read v v :=
  .of_eq rfl

/-- If the items of a sequence are replaced by others that keep what is read,
the sequence keeps it. -/
theorem keeps_mapM {α β ε : Type} {read : α → Except ε β} {items items' : List α}
    (h : List.Forall₂ (Keeps read) items items') :
    Keeps (fun items : List α => items.mapM read) items items' := by
  intro results hread
  have hitems := mapM_eq_ok_iff.mp hread
  apply mapM_eq_ok_iff.mpr
  clear hread
  induction h generalizing results with
  | nil => exact hitems
  | cons hkeep _ ih =>
      cases hitems with
      | cons hitem hrest => exact .cons (hkeep _ hitem) (ih _ hrest)

/-! ## The first fault -/

/-- Two readings one after the other fail if the first does, or if the second
does on what the first gave. -/
theorem bind_eq_error_iff {α β ε : Type} {first : Except ε α} {next : α → Except ε β} {fault : ε} :
    (first >>= next) = .error fault ↔
      first = .error fault ∨ ∃ value, first = .ok value ∧ next value = .error fault := by
  cases first <;> simp [bind, Except.bind]

theorem not_reads_iff {α β ε : Type} {read : α → Except ε β} {value : α} :
    ¬ Reads read value ↔ ∃ fault, read value = .error fault := by
  unfold Reads
  cases read value <;> simp

/-- None of some things is at fault.  What a thing is at fault for may depend on
what comes before it. -/
def Faultless {α ε : Type} (fault : List α → α → ε → Prop) (things : List α) : Prop :=
  ∀ before thing after, things = before ++ thing :: after → ∀ e, ¬ fault before thing e

/-- What the first one of some things that is at fault is at fault for. -/
def Reports {α ε : Type} (fault : List α → α → ε → Prop) (things : List α) (e : ε) : Prop :=
  ∃ before thing after, things = before ++ thing :: after ∧ Faultless fault before ∧
    fault before thing e

section Faults

variable {α β ε : Type} {fault : List α → α → ε → Prop} {a : α} {things : List α} {e : ε}

theorem faultless_nil : Faultless fault [] := by
  intro before thing after hsplit
  simp at hsplit

theorem faultless_cons_iff :
    Faultless fault (a :: things) ↔
      (∀ e, ¬ fault [] a e) ∧ Faultless (fun before => fault (a :: before)) things := by
  constructor
  · intro h
    refine ⟨h [] a things rfl, ?_⟩
    rintro before thing after rfl
    exact h (a :: before) thing after rfl
  · rintro ⟨hfirst, hrest⟩ before thing after hsplit
    cases before with
    | nil =>
        obtain ⟨rfl, -⟩ := List.cons.inj hsplit
        exact hfirst
    | cons b before =>
        obtain ⟨rfl, hthings⟩ := List.cons.inj hsplit
        exact hrest before thing after hthings

theorem not_reports_nil : ¬ Reports fault [] e := by
  rintro ⟨before, thing, after, hsplit, -⟩
  simp at hsplit

/-- What is reported is the fault of the first thing, or if there is none, of
the first one among the others. -/
theorem reports_cons_iff :
    Reports fault (a :: things) e ↔
      fault [] a e ∨
        (∀ e, ¬ fault [] a e) ∧ Reports (fun before => fault (a :: before)) things e := by
  constructor
  · rintro ⟨before, thing, after, hsplit, hbefore, hthing⟩
    cases before with
    | nil =>
        obtain ⟨rfl, -⟩ := List.cons.inj hsplit
        exact .inl hthing
    | cons b before =>
        obtain ⟨rfl, hthings⟩ := List.cons.inj hsplit
        obtain ⟨hfirst, hrest⟩ := faultless_cons_iff.mp hbefore
        exact .inr ⟨hfirst, before, thing, after, hthings, hrest, hthing⟩
  · rintro (hfirst | ⟨hfirst, before, thing, after, rfl, hbefore, hthing⟩)
    · exact ⟨[], a, things, rfl, faultless_nil, hfirst⟩
    · exact ⟨a :: before, thing, after, rfl, faultless_cons_iff.mpr ⟨hfirst, hbefore⟩, hthing⟩

/-- If something is at fault, something is reported. -/
theorem exists_reports_iff : (∃ e, Reports fault things e) ↔ ¬ Faultless fault things := by
  induction things generalizing fault with
  | nil => simp [not_reports_nil, faultless_nil]
  | cons a things ih =>
      simp only [reports_cons_iff, faultless_cons_iff, exists_or, exists_and_left, ih]
      by_cases hfirst : ∀ e, ¬ fault [] a e
      · simp [hfirst]
      · simp [hfirst, not_forall_not.mp hfirst]

/-- Faults that do not depend on what comes before are those of each thing. -/
theorem faultless_iff_forall {fault : α → ε → Prop} :
    Faultless (fun _ => fault) things ↔ ∀ a ∈ things, ∀ e, ¬ fault a e := by
  induction things with
  | nil => simp [faultless_nil]
  | cons a things ih => rw [faultless_cons_iff, List.forall_mem_cons, ih]

theorem reports_congr {fault fault' : α → ε → Prop}
    (h : ∀ a ∈ things, ∀ e, fault a e ↔ fault' a e) :
    Reports (fun _ => fault) things e ↔ Reports (fun _ => fault') things e := by
  induction things with
  | nil => simp [not_reports_nil]
  | cons a things ih =>
      obtain ⟨ha, hthings⟩ := List.forall_mem_cons.mp h
      simp only [reports_cons_iff, ha, ih hthings]

/-- A sequence is not read exactly if one of its items is not, and the fault is
that of the first such item. -/
theorem mapM_eq_error_iff {read : α → Except ε β} {items : List α} :
    items.mapM read = .error e ↔ Reports (fun _ item e => read item = .error e) items e := by
  induction items with
  | nil => simp [pure, Except.pure, not_reports_nil]
  | cons item items ih =>
      rw [List.mapM_cons, reports_cons_iff, ← ih]
      cases hitem : read item with
      | error fault => simp [bind, Except.bind]
      | ok result => simp [bind_eq_error_iff, pure, Except.pure]

end Faults

end AdventureTables
