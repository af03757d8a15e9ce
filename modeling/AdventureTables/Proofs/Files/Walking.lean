import AdventureTables.Files.Disk
import AdventureTables.Proofs.Outcome
/-!
# Walking on a disk

What a step of a walk does is said once, by `Disk.StepsTo`, and everything about
paths is taken from there.

A step starts in a directory.  So a walk that comes to anything else ends there
(`walk_from_nonDirectory`), and putting a file where no directory is changes no
walk but the ones that end at it (`walk_put_iff`).

Where a file with some path lies, or would lie if there were one, is its
`Target`.  In a tree, whatever a path leads to is a directory or lies at the
target of the path (`exists_target_of_locate`): the other way to end a walk is
to go up, and what is below something is below a directory.
-/

namespace AdventureTables.Disk

open AdventureTables.Path (Step)

variable {disk : Disk} {position other : Position} {path : Path}
variable {content : ByteArray} {mode : Nat}

/-! ## Directories -/

/-- There is a directory at a position. -/
def IsDirectory (disk : Disk) (position : Position) : Prop :=
  ∃ mode, disk.node? position = some (.directory mode)

/-- What a tree is: whatever lies at a position lies in a directory. -/
def IsTree (disk : Disk) : Prop :=
  ∀ directory name, disk.node? (directory ++ [name]) ≠ none → disk.IsDirectory directory

/-- The root is a directory. -/
theorem isDirectory_nil (disk : Disk) : disk.IsDirectory [] :=
  ⟨newDirectoryMode, by simp [node?]⟩

/-- What a directory of a tree lies in is a directory. -/
theorem IsTree.isDirectory_dropLast (htree : disk.IsTree) (h : disk.IsDirectory position) :
    disk.IsDirectory position.dropLast := by
  obtain rfl | ⟨parent, name, rfl⟩ := List.eq_nil_or_concat position
  · exact h
  · obtain ⟨mode, hmode⟩ := h
    rw [List.concat_eq_append] at hmode ⊢
    rw [List.dropLast_concat]
    exact htree parent name (by simp [hmode])

/-- Exactly directories are entered. -/
theorem enter_eq_ok_iff : disk.enter position = .ok () ↔ disk.IsDirectory position := by
  unfold enter IsDirectory
  cases disk.node? position with
  | none => simp
  | some node => cases node <;> simp

/-- A file put where no directory is makes no directory and takes none away. -/
theorem isDirectory_put_iff (hfile : ¬ disk.IsDirectory position) :
    (disk.put position (.file content mode)).IsDirectory other ↔ disk.IsDirectory other := by
  by_cases h : position = other
  · subst h
    have hne : position ≠ [] := by
      intro heq
      subst heq
      exact hfile disk.isDirectory_nil
    simp [IsDirectory, node?_put_self _ _ hne] at hfile ⊢
    exact hfile
  · rw [IsDirectory, node?_put_of_ne _ _ h, IsDirectory]

/-! ## Steps -/

/-- What a step does: where it starts and where it leads to. -/
inductive StepsTo (disk : Disk) : Position → Step → Position → Prop
  | stay {position : Position} (h : disk.IsDirectory position) :
      StepsTo disk position .stay position
  | up {position : Position} (h : disk.IsDirectory position) :
      StepsTo disk position .up position.dropLast
  | down {position : Position} {name : Name} (h : disk.IsDirectory position)
      (hshort : name.length ≤ maxNameLength) (hsome : disk.node? (position ++ [name]) ≠ none) :
      StepsTo disk position (.down name) (position ++ [name])

/-- A name in a directory has a position unless it is too long. -/
theorem child_eq_ok_iff {name : Name} :
    child position name = .ok other ↔
      name.length ≤ maxNameLength ∧ other = position ++ [name] := by
  unfold child
  by_cases h : maxNameLength < name.length
  · simp [h, Nat.not_le.mpr h]
  · simp [h, Nat.not_lt.mp h, eq_comm]

/-- A step is taken exactly as `StepsTo` says. -/
theorem step_eq_ok_iff {step : Step} :
    disk.step position step = .ok other ↔ disk.StepsTo position step other := by
  constructor
  · intro h
    cases step with
    | stay =>
        obtain ⟨henter, hother⟩ := check_bind_eq_ok_iff.mp h
        obtain rfl := Except.ok.inj hother
        exact .stay (enter_eq_ok_iff.mp henter)
    | up =>
        obtain ⟨henter, hother⟩ := check_bind_eq_ok_iff.mp h
        obtain rfl := Except.ok.inj hother
        exact .up (enter_eq_ok_iff.mp henter)
    | down name =>
        obtain ⟨henter, hrest⟩ := check_bind_eq_ok_iff.mp h
        obtain ⟨found, hchild, hnode⟩ := bind_eq_ok_iff.mp hrest
        obtain ⟨hshort, rfl⟩ := child_eq_ok_iff.mp hchild
        cases hsome : disk.node? (position ++ [name]) with
        | none => simp [hsome] at hnode
        | some node =>
            obtain rfl : position ++ [name] = other := by
              simpa [hsome, pure, Except.pure] using hnode
            exact .down (enter_eq_ok_iff.mp henter) hshort (by simp [hsome])
  · intro h
    cases h with
    | stay h => exact check_bind_eq_ok_iff.mpr ⟨enter_eq_ok_iff.mpr h, rfl⟩
    | up h => exact check_bind_eq_ok_iff.mpr ⟨enter_eq_ok_iff.mpr h, rfl⟩
    | @down name h hshort hsome =>
        refine check_bind_eq_ok_iff.mpr ⟨enter_eq_ok_iff.mpr h, bind_eq_ok_iff.mpr ?_⟩
        refine ⟨position ++ [name], child_eq_ok_iff.mpr ⟨hshort, rfl⟩, ?_⟩
        obtain ⟨node, hnode⟩ := Option.ne_none_iff_exists'.mp hsome
        simp [hnode, pure, Except.pure]

/-- A step starts in a directory. -/
theorem StepsTo.isDirectory {step : Step} (h : disk.StepsTo position step other) :
    disk.IsDirectory position := by
  cases h with
  | stay h => exact h
  | up h => exact h
  | down h => exact h

/-- In a tree, a step leads to a directory or down to a name. -/
theorem StepsTo.isDirectory_or_down (htree : disk.IsTree) {step : Step}
    (h : disk.StepsTo position step other) :
    disk.IsDirectory other ∨
      ∃ name, step = .down name ∧ name.length ≤ maxNameLength ∧ other = position ++ [name] := by
  cases h with
  | stay h => exact .inl h
  | up h => exact .inl (htree.isDirectory_dropLast h)
  | down _ hshort => exact .inr ⟨_, rfl, hshort, rfl⟩

/-- Putting a file where no directory is changes no step to another place. -/
theorem stepsTo_put_iff {start : Position} {step : Step}
    (hfile : ¬ disk.IsDirectory position) (hne : other ≠ position) :
    (disk.put position (.file content mode)).StepsTo start step other ↔
      disk.StepsTo start step other := by
  constructor
  · intro h
    cases h with
    | stay h => exact .stay ((isDirectory_put_iff hfile).mp h)
    | up h => exact .up ((isDirectory_put_iff hfile).mp h)
    | down h hshort hsome =>
        refine .down ((isDirectory_put_iff hfile).mp h) hshort ?_
        rwa [node?_put_of_ne _ _ hne.symm] at hsome
  · intro h
    cases h with
    | stay h => exact .stay ((isDirectory_put_iff hfile).mpr h)
    | up h => exact .up ((isDirectory_put_iff hfile).mpr h)
    | down h hshort hsome =>
        refine .down ((isDirectory_put_iff hfile).mpr h) hshort ?_
        rwa [node?_put_of_ne _ _ hne.symm]

/-! ## Walks -/

/-- A walk goes on from where its first step leads to. -/
theorem walk_cons_eq_ok_iff {start : Position} {step : Step} {steps : List Step} :
    (step :: steps).foldlM disk.step start = .ok other ↔
      ∃ next, disk.StepsTo start step next ∧ steps.foldlM disk.step next = .ok other := by
  rw [List.foldlM_cons, bind_eq_ok_iff]
  simp only [step_eq_ok_iff]

/-- A walk that ends in a step comes there by the steps before. -/
theorem walk_append_singleton_eq_ok_iff {start : Position} {step : Step} {steps : List Step} :
    (steps ++ [step]).foldlM disk.step start = .ok other ↔
      ∃ before, steps.foldlM disk.step start = .ok before ∧ disk.StepsTo before step other := by
  rw [List.foldlM_append, bind_eq_ok_iff]
  simp only [List.foldlM_cons, List.foldlM_nil, bind_pure, step_eq_ok_iff]

/-- There is no way on from what is no directory. -/
theorem walk_from_nonDirectory {steps : List Step} (hfile : ¬ disk.IsDirectory position)
    (h : steps.foldlM disk.step position = .ok other) : other = position := by
  cases steps with
  | nil => exact (Except.ok.inj h).symm
  | cons step steps =>
      obtain ⟨next, hstep, -⟩ := walk_cons_eq_ok_iff.mp h
      exact absurd hstep.isDirectory hfile

/-- Putting a file where no directory is changes no walk to another place. -/
theorem walk_put_iff {start : Position} {steps : List Step}
    (hfile : ¬ disk.IsDirectory position) (hne : other ≠ position) :
    steps.foldlM (disk.put position (.file content mode)).step start = .ok other ↔
      steps.foldlM disk.step start = .ok other := by
  induction steps generalizing start with
  | nil => simp
  | cons step steps ih =>
      rw [walk_cons_eq_ok_iff, walk_cons_eq_ok_iff]
      refine exists_congr fun next => ?_
      by_cases hnext : next = position
      · -- Neither walk leaves the position of the file.
        subst hnext
        have hfile' : ¬ (disk.put next (.file content mode)).IsDirectory next :=
          mt (isDirectory_put_iff hfile).mp hfile
        constructor
        · intro h
          obtain ⟨-, hrest⟩ := h
          exact absurd (walk_from_nonDirectory hfile' hrest) hne
        · intro h
          obtain ⟨-, hrest⟩ := h
          exact absurd (walk_from_nonDirectory hfile hrest) hne
      · rw [stepsTo_put_iff hfile hnext, ih]

/-! ## Where a path leads -/

/-- The last step of a path ends its walk, if no slash follows. -/
theorem steps_of_last {step : Step} (hlast : path.walk.last = some step)
    (hslashed : path.walk.slashed = false) : path.walk.steps = path.walk.before ++ [step] := by
  simp [Path.Walk.steps, hlast, hslashed]

/-- What a path leads to is found by its walk, if it can be walked at all. -/
theorem locate_eq_ok_iff :
    disk.locate path = .ok position ↔
      checkPath path = .ok () ∧
        path.walk.steps.foldlM disk.step (disk.origin path) = .ok position := by
  rw [locate, check_bind_eq_ok_iff]

/-- A node is found where a path leads to. -/
theorem find_eq_ok_iff {node : Node} :
    disk.find path = .ok node ↔
      ∃ position, disk.locate path = .ok position ∧ disk.node? position = some node := by
  rw [find, bind_eq_ok_iff]
  refine exists_congr fun position => and_congr_right fun _ => ?_
  cases disk.node? position <;> simp [pure, Except.pure]

/-- The last directory of a path is found by the walk without its last step. -/
theorem locateParent_eq_ok_iff :
    disk.locateParent path = .ok position ↔
      checkPath path = .ok () ∧
        path.walk.before.foldlM disk.step (disk.origin path) = .ok position ∧
        disk.IsDirectory position := by
  rw [locateParent, check_bind_eq_ok_iff, bind_eq_ok_iff]
  simp only [check_bind_eq_ok_iff, enter_eq_ok_iff, pure, Except.pure, Except.ok.injEq]
  refine and_congr_right fun _ => ⟨?_, fun ⟨hwalk, hdir⟩ => ⟨position, hwalk, hdir, rfl⟩⟩
  intro h
  obtain ⟨_, hwalk, hdir, rfl⟩ := h
  exact ⟨hwalk, hdir⟩

/-- Putting a file where no directory is changes no path's last directory. -/
theorem locateParent_put_iff (hfile : ¬ disk.IsDirectory position) :
    (disk.put position (.file content mode)).locateParent path = .ok other ↔
      disk.locateParent path = .ok other := by
  rw [locateParent_eq_ok_iff, locateParent_eq_ok_iff, isDirectory_put_iff hfile]
  refine and_congr_right fun _ => and_congr_left fun hdir => ?_
  have hne : other ≠ position := by
    intro heq
    subst heq
    exact hfile hdir
  exact walk_put_iff hfile hne

/-! ## Targets -/

/-- A file with some path lies, or would lie, in a directory under a name. -/
structure Target (disk : Disk) (path : Path) (directory : Position) (name : Name) : Prop where
  last : path.walk.last = some (.down name)
  unslashed : path.walk.slashed = false
  parent : disk.locateParent path = .ok directory
  short : name.length ≤ maxNameLength

section Target

variable {directory : Position} {name : Name}

/-- A target is a matter of the disk only by the directory that the path ends
in. -/
theorem target_iff :
    disk.Target path directory name ↔
      path.walk.last = some (.down name) ∧ path.walk.slashed = false ∧
        disk.locateParent path = .ok directory ∧ name.length ≤ maxNameLength := by
  constructor
  · intro h
    exact ⟨h.last, h.unslashed, h.parent, h.short⟩
  · intro h
    obtain ⟨hlast, hunslashed, hparent, hshort⟩ := h
    exact ⟨hlast, hunslashed, hparent, hshort⟩

/-- A target lies in a directory. -/
theorem Target.isDirectory (h : disk.Target path directory name) : disk.IsDirectory directory :=
  (locateParent_eq_ok_iff.mp h.parent).2.2

/-- A path leads to its target, if anything lies there. -/
theorem Target.locate_iff (h : disk.Target path directory name) :
    disk.locate path = .ok position ↔
      position = directory ++ [name] ∧ disk.node? position ≠ none := by
  obtain ⟨hcheck, hwalk, hdir⟩ := locateParent_eq_ok_iff.mp h.parent
  rw [locate_eq_ok_iff, steps_of_last h.last h.unslashed, walk_append_singleton_eq_ok_iff]
  constructor
  · intro hall
    obtain ⟨-, before, hbefore, hstep⟩ := hall
    obtain rfl : directory = before := Except.ok.inj (hwalk.symm.trans hbefore)
    cases hstep with
    | down _ _ hsome => exact ⟨rfl, hsome⟩
  · intro hall
    obtain ⟨rfl, hsome⟩ := hall
    exact ⟨hcheck, directory, hwalk, .down hdir h.short hsome⟩

/-- What a path leads to is what lies at its target. -/
theorem Target.find_iff (h : disk.Target path directory name) {node : Node} :
    disk.find path = .ok node ↔ disk.node? (directory ++ [name]) = some node := by
  rw [find_eq_ok_iff]
  simp only [h.locate_iff]
  constructor
  · intro hall
    obtain ⟨_, ⟨rfl, -⟩, hnode⟩ := hall
    exact hnode
  · intro hnode
    exact ⟨_, ⟨rfl, by simp [hnode]⟩, hnode⟩

/-- A new file gets the permission bits of what it replaces, and the usual ones
if it replaces nothing. -/
theorem Target.modeFor_eq (h : disk.Target path directory name) :
    disk.modeFor path = ((disk.node? (directory ++ [name])).map Node.mode).getD newFileMode := by
  unfold modeFor Disk.mode
  cases hfind : disk.find path with
  | ok node => simp [h.find_iff.mp hfind, bind, Except.bind, pure, Except.pure]
  | error fault =>
      have hnone : disk.node? (directory ++ [name]) = none := by
        by_contra hsome
        obtain ⟨node, hnode⟩ := Option.ne_none_iff_exists'.mp hsome
        simp [h.find_iff.mpr hnode] at hfind
      simp [hnone, bind, Except.bind]

/-- Putting a file where no directory is changes no target. -/
theorem target_put_iff (hfile : ¬ disk.IsDirectory position) :
    (disk.put position (.file content mode)).Target path directory name ↔
      disk.Target path directory name := by
  rw [target_iff, target_iff, locateParent_put_iff hfile]

/-- A path of slashes only starts at the root. -/
theorem isAbsolute_of_last_eq_none (hcheck : checkPath path = .ok ())
    (hlast : path.walk.last = none) : path.isAbsolute = true := by
  obtain ⟨octets⟩ := path
  cases octets with
  | nil => simp [checkPath] at hcheck
  | cons octet rest =>
      have hempty : (Path.pieces (octet :: rest)).filter (· ≠ []) = [] := by
        simpa [Path.walk] using hlast
      by_cases hslash : octet = Path.slash
      · simp [Path.isAbsolute, hslash]
      · cases hpieces : Path.pieces rest with
        | nil => exact absurd hpieces (Path.pieces_ne_nil rest)
        | cons piece others => simp [Path.pieces, hslash, hpieces] at hempty

/-- In a tree, whatever a path leads to is a directory or lies at the target of
the path. -/
theorem exists_target_of_locate (htree : disk.IsTree) (hlocate : disk.locate path = .ok position)
    (hfile : ¬ disk.IsDirectory position) :
    ∃ directory name, disk.Target path directory name ∧ position = directory ++ [name] := by
  obtain ⟨hcheck, hwalk⟩ := locate_eq_ok_iff.mp hlocate
  cases hslashed : path.walk.slashed with
  | true =>
      have hsteps : path.walk.steps = (path.walk.before ++ path.walk.last.toList) ++ [.stay] := by
        simp [Path.Walk.steps, hslashed]
      rw [hsteps, walk_append_singleton_eq_ok_iff] at hwalk
      obtain ⟨before, -, hstep⟩ := hwalk
      obtain hdir | ⟨name, hdown, -⟩ := hstep.isDirectory_or_down htree
      · exact absurd hdir hfile
      · simp at hdown
  | false =>
      cases hlast : path.walk.last with
      | none =>
          have hbefore : path.walk.before = [] := by
            simp only [Path.walk, List.getLast?_eq_none_iff] at hlast
            simp only [Path.walk, hlast, List.dropLast_nil]
          have hsteps : path.walk.steps = [] := by
            simp [Path.Walk.steps, hlast, hslashed, hbefore]
          rw [hsteps, origin, isAbsolute_of_last_eq_none hcheck hlast] at hwalk
          obtain rfl : [] = position := Except.ok.inj hwalk
          exact absurd disk.isDirectory_nil hfile
      | some step =>
          rw [steps_of_last hlast hslashed, walk_append_singleton_eq_ok_iff] at hwalk
          obtain ⟨before, hbefore, hstep⟩ := hwalk
          obtain hdir | ⟨name, rfl, hshort, rfl⟩ := hstep.isDirectory_or_down htree
          · exact absurd hdir hfile
          · have hparent := locateParent_eq_ok_iff.mpr ⟨hcheck, hbefore, hstep.isDirectory⟩
            exact ⟨before, name, ⟨hlast, hslashed, hparent, hshort⟩, rfl⟩

/-! ## Files put into a tree -/

/-- A tree stays one when a file is put into one of its directories, where no
directory is. -/
theorem IsTree.put (htree : disk.IsTree) (hdir : disk.IsDirectory directory)
    (hfile : ¬ disk.IsDirectory (directory ++ [name])) :
    (disk.put (directory ++ [name]) (.file content mode)).IsTree := by
  intro parent child hsome
  rw [isDirectory_put_iff hfile]
  by_cases hsame : directory ++ [name] = parent ++ [child]
  · obtain ⟨rfl, -⟩ := List.append_inj' hsame rfl
    exact hdir
  · rw [node?_put_of_ne _ _ hsame] at hsome
    exact htree parent child hsome

/-- Putting a file into a tree changes nothing about the paths that have
another target, or none. -/
theorem find_put_iff (htree : disk.IsTree) (hdir : disk.IsDirectory directory)
    (hfile : ¬ disk.IsDirectory (directory ++ [name]))
    (hother : ∀ parent child, disk.Target path parent child →
      parent ++ [child] ≠ directory ++ [name]) {node : Node} :
    (disk.put (directory ++ [name]) (.file content mode)).find path = .ok node ↔
      disk.find path = .ok node := by
  rw [find_eq_ok_iff, find_eq_ok_iff]
  refine exists_congr fun found => ?_
  by_cases hfound : found = directory ++ [name]
  · -- Neither disk lets the path lead there: that would be its target.
    subst hfound
    constructor
    · intro h
      obtain ⟨hlocate, -⟩ := h
      obtain ⟨parent, child, htarget, hsame⟩ := exists_target_of_locate (htree.put hdir hfile)
        hlocate (mt (isDirectory_put_iff hfile).mp hfile)
      exact absurd hsame.symm (hother parent child ((target_put_iff hfile).mp htarget))
    · intro h
      obtain ⟨hlocate, -⟩ := h
      obtain ⟨parent, child, htarget, hsame⟩ := exists_target_of_locate htree hlocate hfile
      exact absurd hsame.symm (hother parent child htarget)
  · rw [locate_eq_ok_iff, locate_eq_ok_iff, node?_put_of_ne _ _ (Ne.symm hfound)]
    exact and_congr_left fun _ => and_congr_right fun _ => walk_put_iff hfile hfound

end Target

/-! ## What is staged -/

/-- Two disks are the same but for what is staged. -/
structure SameTree (disk other : Disk) : Prop where
  nodes : disk.nodes = other.nodes
  current : disk.current = other.current

theorem SameTree.trans {other third : Disk} (h : disk.SameTree other)
    (hthird : other.SameTree third) : disk.SameTree third :=
  ⟨h.nodes.trans hthird.nodes, h.current.trans hthird.current⟩

/-- There is nothing on a disk but a tree and what is staged. -/
theorem SameTree.eq {other : Disk} (h : disk.SameTree other)
    (hstaged : disk.staged = other.staged) : disk = other := by
  obtain ⟨nodes, staged, current⟩ := disk
  obtain ⟨rfl, rfl⟩ := h
  subst hstaged
  rfl

/-- A node is put to the same place whatever is staged. -/
theorem SameTree.put {other : Disk} (h : disk.SameTree other) (position : Position) (node : Node) :
    (disk.put position node).SameTree (other.put position node) :=
  ⟨by simp only [Disk.put, h.nodes], h.current⟩

/-- Walks are the same whatever is staged. -/
theorem SameTree.locateParent_eq {other : Disk} (h : disk.SameTree other) :
    disk.locateParent path = other.locateParent path := by
  obtain ⟨nodes, staged, current⟩ := disk
  obtain ⟨rfl, rfl⟩ := h
  rfl

/-- Directories are the same whatever is staged. -/
theorem SameTree.isDirectory_iff {other : Disk} (h : disk.SameTree other) :
    disk.IsDirectory position ↔ other.IsDirectory position := by
  simp only [IsDirectory, node?, h.nodes]

/-- Targets are the same whatever is staged. -/
theorem SameTree.target_iff {other : Disk} (h : disk.SameTree other) {directory : Position}
    {name : Name} : disk.Target path directory name ↔ other.Target path directory name := by
  rw [Disk.target_iff, Disk.target_iff, h.locateParent_eq]

end AdventureTables.Disk
