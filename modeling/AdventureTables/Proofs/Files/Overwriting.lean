import AdventureTables.Proofs.Files.Replacing
/-!
# Writing the tables again

A writing that changes the tree at all found the disk ready for it: both files
can be staged, and the header has a destination (`Ready`).  Then the header is
filled in, and the source file too if it has a place (`Ready.writeTables_eq`).

A place that is filled keeps the permission bits that were due to it, and
filling it makes no directory and takes none away.  So all paths mean the same
afterwards, and of all that is filled in only the last file at each place
counts (`fill_fill_fill_fill`).  A later writing to the same paths ends as it
would have ended without the earlier one, and leaves the same disk, however
far the earlier one came (`writeTables_writeTables`).
-/

namespace AdventureTables

open Code (Tables)

namespace Disk

variable {disk disk' : Disk} {path : Path} {position other : Position}
variable {content : ByteArray} {mode : Nat}

/-! ## Filling places -/

/-- The last node that is put to a position counts. -/
theorem put_put (disk : Disk) (position : Position) (a b : Node) :
    (disk.put position a).put position b = disk.put position b := by
  refine SameTree.eq ⟨?_, rfl⟩ rfl
  apply Std.ExtTreeMap.ext_getElem?
  intro other
  simp only [put, Std.ExtTreeMap.getElem?_insert]
  split <;> rfl

/-- At different positions the order does not matter. -/
theorem put_comm (disk : Disk) (h : position ≠ other) (a b : Node) :
    (disk.put position a).put other b = (disk.put other b).put position a := by
  refine SameTree.eq ⟨?_, rfl⟩ rfl
  apply Std.ExtTreeMap.ext_getElem?
  intro third
  simp only [put, Std.ExtTreeMap.getElem?_insert, Std.LawfulEqCmp.compare_eq_iff_eq]
  by_cases hthird : other = third
  · subst hthird
    simp [h]
  · simp [hthird]

/-- The disk with a file at a position that has the permission bits due
there. -/
def fill (disk : Disk) (position : Position) (content : ByteArray) : Disk :=
  disk.put position (.file content (disk.modeAt position))

/-- Permission bits that are due to a position stay due to it. -/
theorem modeAt_fill (disk : Disk) (position other : Position) (content : ByteArray) :
    (disk.fill position content).modeAt other = disk.modeAt other := by
  by_cases h : position = other
  · subst h
    by_cases hroot : position = []
    · simp [modeAt, node?, hroot]
    · rw [modeAt, fill, node?_put_self _ _ hroot]
      rfl
  · rw [modeAt, fill, node?_put_of_ne _ _ h, modeAt]

theorem fill_fill (disk : Disk) (position : Position) (a b : ByteArray) :
    (disk.fill position a).fill position b = disk.fill position b := by
  rw [fill, modeAt_fill, fill, put_put, fill]

theorem fill_comm (disk : Disk) (h : position ≠ other) (a b : ByteArray) :
    (disk.fill position a).fill other b = (disk.fill other b).fill position a := by
  rw [fill, modeAt_fill, fill, put_comm _ h, fill, modeAt_fill, fill]

/-- Of two files filled in twice, be it to one position or to two, the last two
count. -/
theorem fill_fill_fill_fill (disk : Disk) (position other : Position) (a b a' b' : ByteArray) :
    (((disk.fill position a).fill other b).fill position a').fill other b' =
      (disk.fill position a').fill other b' := by
  by_cases h : position = other
  · subst h
    simp only [fill_fill]
  · calc (((disk.fill position a).fill other b).fill position a').fill other b'
        = (((disk.fill position a).fill position a').fill other b).fill other b' := by
          rw [fill_comm _ (Ne.symm h)]
      _ = (disk.fill position a').fill other b' := by rw [fill_fill, fill_fill]

/-! ## Where files can be staged -/

/-- There is a directory to stage the file of a path in, and the path to open it
by can be walked at all. -/
def Stageable (disk : Disk) (path : Path) : Prop :=
  checkPath (disk.stagingPath path) = .ok () ∧
    ∃ directory, disk.locate path.directory = .ok directory ∧ disk.IsDirectory directory

/-- Whether a file can be staged does not depend on what it holds. -/
theorem exists_stage_eq_ok_iff :
    (∃ result, disk.stage path content = .ok result) ↔ disk.Stageable path := by
  rw [stage, Stageable]
  simp only [check_bind_eq_ok_iff, exists_and_left, exists_bind_eq_ok_iff]
  refine and_congr_right fun _ => exists_congr fun directory => and_congr_right fun _ => ?_
  simp [Reads, check_bind_eq_ok_iff, enter_eq_ok_iff, pure, Except.pure]

/-- Nor on what else is staged. -/
theorem SameTree.stageable_iff (h : disk.SameTree disk') :
    disk.Stageable path ↔ disk'.Stageable path := by
  obtain ⟨nodes, staged, current⟩ := disk
  obtain ⟨rfl, rfl⟩ := h
  rfl

/-- Putting a file where no directory is takes no place to stage files away, and
makes none. -/
theorem stageable_put_iff (hfile : ¬ disk.IsDirectory position) :
    (disk.put position (.file content mode)).Stageable path ↔ disk.Stageable path := by
  refine and_congr_right fun _ => exists_congr fun directory => ?_
  rw [isDirectory_put_iff hfile]
  refine and_congr_left fun hdir => ?_
  have hne : directory ≠ position := by
    intro heq
    subst heq
    exact hfile hdir
  rw [locate_eq_ok_iff, locate_eq_ok_iff]
  exact and_congr_right fun _ => walk_put_iff hfile hne

/-! ## Where files are moved to -/

/-- The position that a file is moved to. -/
def place (disk : Disk) (path : Path) : Except DiskFault Position := do
  let directory ← disk.locateParent path
  match path.walk.last with
  | some (.down name) =>
    let position ← child directory name
    if path.walk.slashed then throw .notADirectory
    else
      match disk.node? position with
      | some (.directory _) => throw .isADirectory
      | _ => return position
  | _ => throw .busy

/-- What is staged has no part in where it is moved to, or why it is not. -/
theorem commit_eq (disk : Disk) (staged : Staged) (path : Path) :
    disk.commit staged path = (disk.place path).map fun position =>
      (disk.discard staged).put position (.file staged.content staged.mode) := by
  rw [commit, place]
  cases disk.locateParent path with
  | error fault => rfl
  | ok directory =>
      cases path.walk.last with
      | none => rfl
      | some step =>
          cases step with
          | stay => rfl
          | up => rfl
          | down name =>
              simp only [bind, Except.bind]
              cases child directory name with
              | error fault => rfl
              | ok position =>
                  cases path.walk.slashed with
                  | true => rfl
                  | false =>
                      simp only [Bool.false_eq_true, if_false]
                      cases disk.node? position with
                      | none => rfl
                      | some node => cases node <;> rfl

theorem commit_eq_error_iff {staged : Staged} {fault : DiskFault} :
    disk.commit staged path = .error fault ↔ disk.place path = .error fault := by
  rw [commit_eq]
  cases disk.place path <;> simp [Except.map]

/-- Nor has anything else that is staged. -/
theorem SameTree.place_eq (h : disk.SameTree disk') : disk.place path = disk'.place path := by
  obtain ⟨nodes, _, current⟩ := disk
  obtain ⟨rfl, rfl⟩ := h
  rfl

theorem Destination.place_eq (h : disk.Destination path position) :
    disk.place path = .ok position := by
  obtain ⟨directory, name, htarget, rfl, hfile⟩ := h
  have hchild : child directory name = .ok (directory ++ [name]) :=
    child_eq_ok_iff.mpr ⟨htarget.short, rfl⟩
  rw [place, htarget.parent]
  simp only [bind, Except.bind, htarget.last, hchild, htarget.unslashed, Bool.false_eq_true,
    if_false]
  split
  · next mode hmode => exact absurd ⟨mode, hmode⟩ hfile
  · rfl

theorem place_eq_ok_iff : disk.place path = .ok position ↔ disk.Destination path position := by
  refine ⟨fun h => ?_, Destination.place_eq⟩
  have hcommit := (commit_eq disk ⟨[], .empty, 0⟩ path).trans (congrArg _ h)
  obtain ⟨found, hfound, -⟩ := commit_eq_ok_iff_destination.mp hcommit
  obtain rfl : found = position := Except.ok.inj (hfound.place_eq.symm.trans h)
  exact hfound

/-- Filling a place where no directory is leaves files their places. -/
theorem place_fill_eq_ok_iff (hfile : ¬ disk.IsDirectory position) :
    (disk.fill position content).place path = .ok other ↔ disk.place path = .ok other := by
  rw [place_eq_ok_iff, place_eq_ok_iff, fill, Destination.put_iff hfile]

theorem SameTree.modeAt_eq (h : disk.SameTree disk') :
    disk.modeAt position = disk'.modeAt position := by
  rw [modeAt, modeAt, node?, node?, h.nodes]

end Disk

/-! ## Writing twice -/

section Again

variable {disk : Disk} {tables : Tables} {paths : OutputPaths} {position other : Position}

/-- A writing will change the tree: both files can be staged, and the header is
moved to a position. -/
structure Ready (disk : Disk) (paths : OutputPaths) (position : Position) : Prop where
  header : disk.Stageable paths.header
  source : disk.Stageable paths.source
  destination : disk.Destination paths.header position

/-- A disk stays ready when a place is filled where no directory is. -/
theorem Ready.fill (h : Ready disk paths position) (content : ByteArray)
    (hfile : ¬ disk.IsDirectory other) : Ready (disk.fill other content) paths position where
  header := (Disk.stageable_put_iff hfile).mpr h.header
  source := (Disk.stageable_put_iff hfile).mpr h.source
  destination := (Disk.Destination.put_iff hfile).mpr h.destination

theorem Ready.unique (h : Ready disk paths position) (hother : Ready disk paths other) :
    position = other :=
  Except.ok.inj (h.destination.place_eq.symm.trans hother.destination.place_eq)

/-- A header is only moved on a disk that is ready. -/
theorem ready_of_moved {header source : Staged} {disk₁ disk₂ disk₃ : Disk}
    (hheader : disk.stage paths.header tables.header.toByteArray = .ok (header, disk₁))
    (hsource : disk₁.stage paths.source tables.source.toByteArray = .ok (source, disk₂))
    (hmoved : disk₂.commit header paths.header = .ok disk₃) :
    ∃ position, Ready disk paths position ∧
      disk₃.discard source = disk.fill position tables.header.toByteArray ∧
      disk₃.place paths.source =
        (disk.fill position tables.header.toByteArray).place paths.source := by
  obtain ⟨hsame₁, -⟩ := Disk.stage_spec hheader
  obtain ⟨directory, name, htarget, hfile, hsame, hput⟩ := header_moved hheader hsource hmoved
  have hdisk : disk₃.discard source =
      disk.fill (directory ++ [name]) tables.header.toByteArray := hput
  refine ⟨directory ++ [name], ?_, hdisk, hdisk ▸ hsame.place_eq⟩
  exact
    { header := Disk.exists_stage_eq_ok_iff.mp ⟨_, hheader⟩
      source := hsame₁.stageable_iff.mp (Disk.exists_stage_eq_ok_iff.mp ⟨_, hsource⟩)
      destination := ⟨directory, name, htarget, rfl, hfile⟩ }

/-- A writing that does not find the disk ready leaves it as it is. -/
theorem unchanged_or_ready (disk : Disk) (tables : Tables) (paths : OutputPaths) :
    (writeTables disk tables paths).2 = disk ∨ ∃ position, Ready disk paths position := by
  have hrun : WriteRun disk tables paths (writeTables disk tables paths) := writeTables_run
  generalize writeTables disk tables paths = result at hrun ⊢
  cases hrun with
  | headerUnstaged => exact .inl rfl
  | sourceUnstaged hheader => exact .inl (Disk.discard_stage hheader)
  | headerUnmoved hheader hsource =>
      left
      rw [Disk.discard_stage hsource, Disk.discard_stage hheader]
  | sourceUnmoved hheader hsource hmoved =>
      obtain ⟨position, hready, -⟩ := ready_of_moved hheader hsource hmoved
      exact .inr ⟨position, hready⟩
  | written hheader hsource hmoved =>
      obtain ⟨position, hready, -⟩ := ready_of_moved hheader hsource hmoved
      exact .inr ⟨position, hready⟩

/-- A writing that finds the disk ready fills in the header, and the source
file too if there is a place for it then. -/
theorem Ready.writeTables_eq (h : Ready disk paths position) (tables : Tables) :
    writeTables disk tables paths =
      match (disk.fill position tables.header.toByteArray).place paths.source with
      | .error fault =>
        (.error ⟨.source, paths.source, fault, false⟩,
          disk.fill position tables.header.toByteArray)
      | .ok other =>
        (.ok (), (disk.fill position tables.header.toByteArray).fill other
          tables.source.toByteArray) := by
  have hrun : WriteRun disk tables paths (writeTables disk tables paths) := writeTables_run
  generalize writeTables disk tables paths = result at hrun ⊢
  cases hrun with
  | headerUnstaged hfault =>
      have hstage : ∃ result, disk.stage paths.header tables.header.toByteArray = .ok result :=
        Disk.exists_stage_eq_ok_iff.mpr h.header
      simp [hfault] at hstage
  | @sourceUnstaged _ disk₁ _ hheader hfault =>
      obtain ⟨hsame, -⟩ := Disk.stage_spec hheader
      have hstage : ∃ result, disk₁.stage paths.source tables.source.toByteArray = .ok result :=
        Disk.exists_stage_eq_ok_iff.mpr (hsame.stageable_iff.mpr h.source)
      simp [hfault] at hstage
  | headerUnmoved hheader hsource hfault =>
      obtain ⟨hsame₁, -⟩ := Disk.stage_spec hheader
      obtain ⟨hsame₂, -⟩ := Disk.stage_spec hsource
      have hplace := (hsame₂.trans hsame₁).place_eq.trans h.destination.place_eq
      simp [Disk.commit_eq_error_iff, hplace] at hfault
  | sourceUnmoved hheader hsource hmoved hfault =>
      obtain ⟨other, hready, hdisk, hplace⟩ := ready_of_moved hheader hsource hmoved
      obtain rfl := h.unique hready
      rw [← hplace, Disk.commit_eq_error_iff.mp hfault, hdisk]
  | @written _ source _ _ _ _ hheader hsource hmoved hlast =>
      obtain ⟨other, hready, hdisk, hplace⟩ := ready_of_moved hheader hsource hmoved
      obtain rfl := h.unique hready
      obtain ⟨hsame₁, -⟩ := Disk.stage_spec hheader
      obtain ⟨-, -, hcontent, hmode⟩ := Disk.stage_spec hsource
      obtain ⟨other, hdestination, rfl⟩ := Disk.commit_eq_ok_iff_destination.mp hlast
      rw [hdestination.place_eq] at hplace
      -- The permission bits were looked up before the header was moved.
      have hother : disk.Destination paths.source other := Disk.place_eq_ok_iff.mp
        ((Disk.place_fill_eq_ok_iff h.destination.not_isDirectory).mp hplace.symm)
      have hmode' : source.mode = disk.modeAt other := by
        rw [hmode, (hsame₁.destination_iff.mpr hother).modeFor_eq, hsame₁.modeAt_eq]
      rw [← hplace, hdisk, hcontent, hmode',
        ← Disk.modeAt_fill disk position other tables.header.toByteArray]
      rfl

/-- **Earlier writes to the same paths do not matter.**  A writing ends as it
would have ended on the disk before the earlier one, with the same fault if it
fails, and leaves the same disk, whether the earlier one succeeded, moved
nothing or moved only the header. -/
theorem writeTables_writeTables (disk : Disk) (earlier tables : Tables) (paths : OutputPaths) :
    writeTables (writeTables disk earlier paths).2 tables paths =
      writeTables disk tables paths := by
  obtain hsame | ⟨position, hready⟩ := unchanged_or_ready disk earlier paths
  · rw [hsame]
  have hfile := hready.destination.not_isDirectory
  rw [hready.writeTables_eq tables, hready.writeTables_eq earlier]
  have hready₁ := hready.fill earlier.header.toByteArray hfile
  cases hearlier : (disk.fill position earlier.header.toByteArray).place paths.source with
  | error fault => simp only [hready₁.writeTables_eq, Disk.fill_fill]
  | ok other =>
      -- The source file has the same place in all disks that come up.
      have hsource := Disk.place_eq_ok_iff.mp hearlier
      have hready₂ := hready₁.fill earlier.source.toByteArray hsource.not_isDirectory
      have hother := (Disk.place_fill_eq_ok_iff hfile).mp hearlier
      have hplace : (disk.fill position tables.header.toByteArray).place paths.source =
          .ok other := (Disk.place_fill_eq_ok_iff hfile).mpr hother
      have hplace₂ : (((disk.fill position earlier.header.toByteArray).fill other
          earlier.source.toByteArray).fill position tables.header.toByteArray).place paths.source =
            .ok other :=
        (Disk.place_fill_eq_ok_iff hready₂.destination.not_isDirectory).mpr
          ((Disk.place_fill_eq_ok_iff hsource.not_isDirectory).mpr hearlier)
      simp only [hready₂.writeTables_eq, hplace, hplace₂, Disk.fill_fill_fill_fill]

end Again

end AdventureTables
