import AdventureTables.Proofs.Files.Walking
import Mathlib.Data.List.Induction
/-!
# The two ways to look at a path

As a name for a place a path is a list of components, and as a walk it is a list
of steps.  The two agree on its moves, the steps that lead anywhere: they are
what the components say (`moves_eq`).

The parent of a path is the path without its last component
(`components_parent`), hence without its last move.  So the directory that a
path lies in by name is the one that its walk comes to before the last step
(`locate_directory`), although the first is found by leaving out octets and the
second by walking.  A path whose last step goes down to a name has that name
(`fileName?_of_last`).
-/

namespace AdventureTables

namespace Path

variable {path : Path}

/-! ## Pieces -/

/-- What holds no slash is one piece. -/
theorem pieces_of_notMem {piece : Name} (h : slash ∉ piece) : pieces piece = [piece] := by
  induction piece with
  | nil => rfl
  | cons octet rest ih =>
      obtain ⟨hfirst, hrest⟩ := not_or.mp (mt List.mem_cons.mpr h)
      simp [pieces, Ne.symm hfirst, ih hrest]

/-- A path is cut at each of its slashes. -/
theorem pieces_append_slash (first rest : List UInt8) :
    pieces (first ++ slash :: rest) = pieces first ++ pieces rest := by
  induction first with
  | nil => simp [pieces]
  | cons octet first ih =>
      by_cases hslash : octet = slash
      · simp [pieces, hslash, ih]
      · obtain ⟨piece, others, hpieces⟩ := List.exists_cons_of_ne_nil (pieces_ne_nil first)
        simp [pieces, hslash, ih, hpieces]

/-- Pieces that were joined are found again. -/
theorem pieces_join {names : List Name} (hne : names ≠ []) (h : ∀ name ∈ names, slash ∉ name) :
    pieces (join names) = names := by
  induction names with
  | nil => exact absurd rfl hne
  | cons name others ih =>
      obtain ⟨hname, hothers⟩ := List.forall_mem_cons.mp h
      by_cases hlast : others = []
      · subst hlast
        exact pieces_of_notMem hname
      · rw [join_cons hlast, pieces_append_slash, pieces_of_notMem hname, ih hlast hothers]
        rfl

/-- The first of several pieces is empty exactly if a path starts at the
root. -/
theorem isAbsolute_iff :
    path.isAbsolute = true ↔ ∃ piece rest, pieces path.octets = [] :: piece :: rest := by
  obtain ⟨octets⟩ := path
  cases octets with
  | nil => simp [isAbsolute, pieces]
  | cons octet rest =>
      obtain ⟨piece, others, hpieces⟩ := List.exists_cons_of_ne_nil (pieces_ne_nil rest)
      by_cases hslash : octet = slash <;> simp [isAbsolute, pieces, hslash, hpieces]

/-! ## Components of pieces -/

/-- The components that the pieces of a path are. -/
def piecesComponents : List Name → List Component
  | [] => []
  | first :: rest => (component? true first).toList ++ rest.filterMap (component? false)

theorem components_eq (path : Path) :
    path.components =
      (if path.isAbsolute then [.root] else []) ++ piecesComponents (pieces path.octets) := by
  unfold components piecesComponents
  cases pieces path.octets <;> simp

/-- One more piece is one more component, if it is any. -/
theorem piecesComponents_concat (names : List Name) (piece : Name) :
    piecesComponents (names ++ [piece]) =
      piecesComponents names ++ (component? names.isEmpty piece).toList := by
  cases names with
  | nil => simp [piecesComponents]
  | cons first rest => cases hpiece : component? false piece <;> simp [piecesComponents, hpiece]

/-- The pieces that are left out at the end are no components. -/
theorem piecesComponents_trimmed (names : List Name) :
    piecesComponents (trimmed names).reverse = piecesComponents names.reverse := by
  fun_induction trimmed names with
  | case1 => rfl
  | case2 piece h => rfl
  | case3 piece h => simp [piecesComponents, Option.not_isSome_iff_eq_none.mp h]
  | case4 piece others hothers h => rfl
  | case5 piece others hothers h ih =>
      have hnone : component? false piece = none := Option.not_isSome_iff_eq_none.mp h
      have hsome : others.isEmpty = false := List.isEmpty_eq_false_iff.mpr hothers
      rw [ih, List.reverse_cons, piecesComponents_concat]
      simp [hsome, hnone]

theorem trimmed_suffix (names : List Name) : trimmed names <:+ names := by
  fun_induction trimmed names with
  | case1 => exact List.suffix_rfl
  | case2 piece h => exact List.suffix_rfl
  | case3 piece h => exact List.nil_suffix
  | case4 piece others hothers h => exact List.suffix_rfl
  | case5 piece others hothers h ih => exact ih.trans (List.suffix_cons piece others)

/-- What is left ends in a component. -/
theorem isSome_of_trimmed {names others : List Name} {last : Name}
    (h : trimmed names = last :: others) : (component? others.isEmpty last).isSome = true := by
  fun_induction trimmed names with
  | case1 => cases h
  | case2 piece hpiece =>
      obtain ⟨rfl, rfl⟩ := List.cons.inj h
      exact hpiece
  | case3 piece hpiece => cases h
  | case4 piece rest hrest hpiece =>
      obtain ⟨rfl, rfl⟩ := List.cons.inj h
      rwa [List.isEmpty_eq_false_iff.mpr hrest]
  | case5 piece rest hrest hpiece ih => exact ih h

/-- A path that keeps the first pieces of another starts where that does, unless
only an empty piece is kept. -/
theorem isAbsolute_of_prefix {other : Path} (hbegins : pieces other.octets <+: pieces path.octets)
    (hlast : (pieces other.octets).getLast? ≠ some []) :
    other.isAbsolute = path.isAbsolute := by
  obtain ⟨more, hmore⟩ := hbegins
  rw [Bool.eq_iff_iff, isAbsolute_iff, isAbsolute_iff, ← hmore]
  constructor
  · intro h
    obtain ⟨piece, rest, hpieces⟩ := h
    exact ⟨piece, rest ++ more, by simp [hpieces]⟩
  · intro h
    obtain ⟨piece, rest, hpieces⟩ := h
    cases hother : pieces other.octets with
    | nil => exact absurd hother (pieces_ne_nil _)
    | cons first others =>
        rw [hother, List.cons_append] at hpieces
        obtain ⟨rfl, -⟩ := List.cons.inj hpieces
        cases others with
        | nil => simp [hother] at hlast
        | cons piece rest => exact ⟨piece, rest, rfl⟩

/-- The last pieces of a path can be left out. -/
theorem pieces_join_of_suffix {names : List Name} (hne : names ≠ [])
    (hsuffix : names <:+ (pieces path.octets).reverse) :
    pieces (join names.reverse) = names.reverse ∧ names.reverse <+: pieces path.octets := by
  have hbegins : names.reverse <+: pieces path.octets := by
    simpa using List.reverse_prefix.mpr hsuffix
  refine ⟨pieces_join (by simpa using hne) fun name hname => ?_, hbegins⟩
  exact slash_notMem_of_mem_pieces (hbegins.subset hname)

/-- What the parent of a path keeps are last pieces of it, read backwards. -/
theorem suffix_of_trimmed {last : Name} {others : List Name}
    (h : trimmed (pieces path.octets).reverse = last :: others) :
    trimmed others <:+ (pieces path.octets).reverse := by
  have hall : last :: others <:+ (pieces path.octets).reverse := h ▸ trimmed_suffix _
  exact (trimmed_suffix others).trans ((List.suffix_cons last others).trans hall)

/-- The parent of a path is the path without its last component. -/
theorem components_parent (path : Path) : path.parent.components = path.components.dropLast := by
  have hall := piecesComponents_trimmed (pieces path.octets).reverse
  rw [List.reverse_reverse] at hall
  rw [components_eq path, ← hall, parent]
  cases htrimmed : trimmed (pieces path.octets).reverse with
  | nil => cases path.isAbsolute <;> rfl
  | cons last others =>
      obtain ⟨component, hcomponent⟩ := Option.isSome_iff_exists.mp (isSome_of_trimmed htrimmed)
      have hrest : ((if path.isAbsolute then [Component.root] else []) ++
          piecesComponents (last :: others).reverse).dropLast =
            (if path.isAbsolute then [Component.root] else []) ++
              piecesComponents (trimmed others).reverse := by
        rw [List.reverse_cons, piecesComponents_concat, piecesComponents_trimmed]
        simp [hcomponent, ← List.append_assoc]
      rw [hrest]
      dsimp only
      cases hothers : trimmed others with
      | nil => cases path.isAbsolute <;> rfl
      | cons final more =>
          -- The pieces of the parent are the first ones of the path.
          obtain ⟨hpieces, hbegins⟩ := pieces_join_of_suffix (by simp)
            (hothers ▸ suffix_of_trimmed htrimmed)
          have habsolute : (Path.mk (join (final :: more).reverse)).isAbsolute =
              path.isAbsolute := by
            apply isAbsolute_of_prefix
            · rwa [hpieces]
            · have hfinal := isSome_of_trimmed hothers
              rw [hpieces]
              intro hempty
              obtain rfl : final = [] := by simpa using hempty
              simp [component?] at hfinal
          rw [components_eq, habsolute, hpieces]

/-- More pieces make more octets. -/
theorem join_prefix {names others : List Name} (hne : names ≠ []) (h : names <+: others) :
    join names <+: join others := by
  obtain ⟨more, rfl⟩ := h
  induction names with
  | nil => exact absurd rfl hne
  | cons name names ih =>
      by_cases hnames : names = []
      · subst hnames
        cases more with
        | nil => exact List.prefix_rfl
        | cons piece more => exact ⟨slash :: join (piece :: more), rfl⟩
      · rw [List.cons_append, join_cons hnames, join_cons (by simp [hnames])]
        exact (List.prefix_append_right_inj name).mpr
          ((List.cons_prefix_cons).mpr ⟨rfl, ih hnames⟩)

/-- The parent of a path is the beginning of it. -/
theorem octets_parent_prefix (path : Path) : path.parent.octets <+: path.octets := by
  rw [parent]
  cases htrimmed : trimmed (pieces path.octets).reverse with
  | nil => exact List.nil_prefix
  | cons last others =>
      dsimp only
      cases hothers : trimmed others with
      | nil =>
          obtain ⟨octets⟩ := path
          cases octets with
          | nil => simp [isAbsolute]
          | cons octet rest => by_cases hslash : octet = slash <;> simp [isAbsolute, hslash]
      | cons final more =>
          obtain ⟨-, hbegins⟩ := pieces_join_of_suffix (by simp)
            (hothers ▸ suffix_of_trimmed htrimmed)
          have hjoin := join_prefix (by simp) hbegins
          rwa [join_pieces] at hjoin

/-! ## Moves -/

/-- The move that a component is. -/
def Component.move? : Component → Option Step
  | .root | .current => none
  | .parent => some .up
  | .name piece => some (.down piece)

/-- The moves of a path, by its components. -/
def moves (path : Path) : List Step :=
  path.components.filterMap Component.move?

/-- A piece is a move if it is a component, first or not, or a step that leads
anywhere. -/
theorem move?_component? (first : Bool) (piece : Name) :
    (component? first piece).bind Component.move? =
      if piece = [] ∨ stepOf piece = .stay then none else some (stepOf piece) := by
  unfold component? stepOf
  by_cases hempty : piece = []
  · simp [hempty]
  · by_cases hdot : piece = dot
    · cases first <;> simp [hdot, dot, Component.move?]
    · by_cases hdots : piece = dotDot
      · simp [hdots, dot, dotDot, Component.move?]
      · simp [hempty, hdot, hdots, Component.move?]

theorem moves_pieces (names : List Name) :
    (piecesComponents names).filterMap Component.move? =
      ((names.filter (· ≠ [])).map stepOf).filter (· ≠ .stay) := by
  induction names using List.reverseRecOn with
  | nil => rfl
  | append_singleton names piece ih =>
      rw [piecesComponents_concat, List.filterMap_append, ih]
      have hlast : (component? names.isEmpty piece).toList.filterMap Component.move? =
          ((component? names.isEmpty piece).bind Component.move?).toList := by
        cases component? names.isEmpty piece with
        | none => rfl
        | some component => cases hmove : component.move? <;> simp [hmove]
      rw [hlast, move?_component?]
      by_cases hempty : piece = []
      · simp [hempty]
      · by_cases hstay : stepOf piece = .stay <;> simp [hempty, hstay]

/-- The moves of a path are the steps of its walk that lead anywhere. -/
theorem moves_eq (path : Path) : path.moves = path.walk.steps.filter (· ≠ .stay) := by
  have hroot : (if path.isAbsolute then [Component.root] else []).filterMap Component.move? =
      [] := by
    cases path.isAbsolute <;> rfl
  rw [moves, components_eq, List.filterMap_append, hroot, moves_pieces, List.nil_append]
  obtain hnil | ⟨steps, step, hsteps⟩ :=
    List.eq_nil_or_concat (((pieces path.octets).filter (· ≠ [])).map stepOf)
  · simp only [Walk.steps, walk, hnil]
    split <;> rfl
  · simp only [Walk.steps, walk, hsteps]
    split <;> simp [List.filter_cons]

/-- The moves before the last step are the first of all moves. -/
theorem moves_before_prefix (path : Path) :
    path.walk.before.filter (· ≠ .stay) <+: path.moves := by
  rw [moves_eq, Walk.steps, List.append_assoc, List.filter_append]
  exact List.prefix_append _ _

theorem component?_of_down {first : Bool} {piece name : Name} (hempty : piece ≠ [])
    (h : stepOf piece = .down name) : component? first piece = some (.name name) := by
  unfold stepOf at h
  split at h
  · simp at h
  · split at h
    · simp at h
    · next hdot hdots =>
      obtain rfl := Step.down.inj h
      simp [component?, hempty, hdot, hdots]

/-- A path whose last step goes down to a name has that name at its end. -/
theorem components_of_last {name : Name} (h : path.walk.last = some (.down name)) :
    ∃ before, path.components = before ++ [.name name] := by
  have hpieces : ∀ names : List Name,
      ((names.filter (· ≠ [])).map stepOf).getLast? = some (.down name) →
        ∃ before, piecesComponents names = before ++ [.name name] := by
    intro names hlast
    induction names using List.reverseRecOn with
    | nil => simp at hlast
    | append_singleton names piece ih =>
        rw [piecesComponents_concat]
        by_cases hempty : piece = []
        · subst hempty
          obtain ⟨before, hbefore⟩ := ih (by simpa using hlast)
          exact ⟨before, by simp [hbefore, component?]⟩
        · have hstep : stepOf piece = .down name := by simpa [hempty] using hlast
          exact ⟨piecesComponents names, by rw [component?_of_down hempty hstep]; rfl⟩
  obtain ⟨before, hbefore⟩ := hpieces _ h
  exact ⟨_, by rw [components_eq, hbefore, ← List.append_assoc]⟩

/-- A path whose last step goes down to a name has that name. -/
theorem fileName?_of_last {name : Name} (h : path.walk.last = some (.down name)) :
    path.fileName? = some name := by
  obtain ⟨before, hbefore⟩ := components_of_last h
  simp [fileName?, hbefore]

/-! ## The directory that a path lies in -/

/-- A path starts at the root if the root is one of its components. -/
theorem root_mem_components_iff : .root ∈ path.components ↔ path.isAbsolute = true := by
  have hpiece : ∀ first piece, component? first piece ≠ some .root := by
    intro first piece
    unfold component?
    grind
  have hpieces : ∀ names : List Name, .root ∉ piecesComponents names := by
    intro names
    cases names with
    | nil => simp [piecesComponents]
    | cons first rest => simp [piecesComponents, hpiece]
  rw [components_eq]
  cases path.isAbsolute <;> simp [hpieces]

theorem isAbsolute_directory :
    path.directory.isAbsolute = true ↔ .root ∈ path.components.dropLast := by
  rw [← components_parent, root_mem_components_iff, directory]
  split
  · next hempty => simp [isAbsolute, hempty, dot, slash]
  · rfl

/-- The directory of a path is where its moves but the last one lead. -/
theorem moves_directory (path : Path) :
    path.directory.moves = path.components.dropLast.filterMap Component.move? := by
  rw [← components_parent, directory]
  split
  · next hempty =>
    have hparent : path.parent = ⟨[]⟩ := by
      cases hpath : path.parent
      simp_all
    rw [hparent]
    rfl
  · rfl

end Path

namespace Disk

open AdventureTables.Path (Step)

variable {disk : Disk} {position other : Position} {path : Path}

/-- A walk to a directory starts in one. -/
theorem isDirectory_of_walk {start : Position} {steps : List Step}
    (h : steps.foldlM disk.step start = .ok other) (hdir : disk.IsDirectory other) :
    disk.IsDirectory start := by
  cases steps with
  | nil => exact Except.ok.inj h ▸ hdir
  | cons step steps =>
      obtain ⟨next, hstep, -⟩ := walk_cons_eq_ok_iff.mp h
      exact hstep.isDirectory

/-- On the way to a directory only the moves matter. -/
theorem walk_moves_iff {start : Position} {steps : List Step} (hdir : disk.IsDirectory other) :
    (steps.filter (· ≠ .stay)).foldlM disk.step start = .ok other ↔
      steps.foldlM disk.step start = .ok other := by
  induction steps generalizing start with
  | nil => rfl
  | cons step steps ih =>
      rw [walk_cons_eq_ok_iff]
      by_cases hstay : step = .stay
      · subst hstay
        rw [List.filter_cons_of_neg (by simp), ih]
        constructor
        · intro h
          exact ⟨start, .stay (isDirectory_of_walk h hdir), h⟩
        · intro h
          obtain ⟨next, hstep, hrest⟩ := h
          cases hstep with
          | stay => exact hrest
      · rw [List.filter_cons_of_pos (by simpa using hstay), walk_cons_eq_ok_iff]
        exact exists_congr fun next => and_congr_right fun _ => ih

/-- A path leads to a directory by its moves, if it can be walked at all. -/
theorem locate_directory_iff (hdir : disk.IsDirectory position) :
    disk.locate path = .ok position ↔
      checkPath path = .ok () ∧ path.moves.foldlM disk.step (disk.origin path) = .ok position := by
  rw [locate_eq_ok_iff, Path.moves_eq, walk_moves_iff hdir]

theorem checkPath_eq_ok_iff :
    checkPath path = .ok () ↔
      0 ∉ path.octets ∧ path.octets ≠ [] ∧ path.octets.length ≤ maxPathLength := by
  unfold checkPath
  grind

/-- If a path can be walked, so can the one of its directory. -/
theorem checkPath_directory (h : checkPath path = .ok ()) :
    checkPath path.directory = .ok () := by
  rw [Path.directory]
  split
  · rfl
  · next hne =>
    obtain ⟨hzero, -, hlength⟩ := checkPath_eq_ok_iff.mp h
    have hbegins := path.octets_parent_prefix
    exact checkPath_eq_ok_iff.mpr
      ⟨fun hmem => hzero (hbegins.subset hmem), hne, Nat.le_trans hbegins.length_le hlength⟩

/-- The directory that a path lies in by name is the one that its walk comes to
before it goes down to a name. -/
theorem Target.locate_directory {directory : Position} {name : Name}
    (h : disk.Target path directory name) : disk.locate path.directory = .ok directory := by
  obtain ⟨hcheck, hwalk, hdir⟩ := locateParent_eq_ok_iff.mp h.parent
  obtain ⟨before, hbefore⟩ := Path.components_of_last h.last
  refine (locate_directory_iff hdir).mpr ⟨checkPath_directory hcheck, ?_⟩
  have habsolute : path.directory.isAbsolute = path.isAbsolute := by
    rw [Bool.eq_iff_iff, Path.isAbsolute_directory, ← Path.root_mem_components_iff, hbefore]
    simp
  have hmoves : path.directory.moves ++ [.down name] =
      path.walk.before.filter (· ≠ .stay) ++ [.down name] := by
    calc path.directory.moves ++ [.down name]
        = path.moves := by
          rw [Path.moves_directory, Path.moves, hbefore]
          simp [Path.Component.move?]
      _ = path.walk.before.filter (· ≠ .stay) ++ [.down name] := by
          rw [Path.moves_eq, steps_of_last h.last h.unslashed]
          simp
  rw [List.append_cancel_right hmoves, walk_moves_iff hdir, origin, habsolute]
  exact hwalk

end Disk

end AdventureTables
