import AdventureTables.Proofs.Files.Writing
/-!
# Writing the tables, and succeeding

Both destinations are found before anything is moved, and both keep what is
known of them while the files are moved: a file that is put where no directory
is changes no target (`Disk.Destination.put_iff`) and no permission bits that
were looked up already.  So a writing that succeeds puts two files, first the
header and then the source file, to the places that their paths had all along
(`written_eq`), and everything else is read off from these two steps.

The two places may be one, however the paths are spelled.  Then the source file
is what is left.
-/

namespace AdventureTables

open Code (Tables)

namespace Disk

variable {disk : Disk} {path : Path} {position other : Position}
variable {content : ByteArray} {mode : Nat}

/-! ## Destinations -/

/-- The position that a path names as a file: the one of its target, unless a
directory is in the way. -/
def Destination (disk : Disk) (path : Path) (position : Position) : Prop :=
  ∃ directory name, disk.Target path directory name ∧ position = directory ++ [name] ∧
    ¬ disk.IsDirectory position

/-- The permission bits of a file that is to lie at a position: those of what
lies there, and the usual ones if nothing does. -/
def modeAt (disk : Disk) (position : Position) : Nat :=
  ((disk.node? position).map Node.mode).getD newFileMode

theorem Destination.ne_nil (h : disk.Destination path position) : position ≠ [] := by
  obtain ⟨directory, name, -, rfl, -⟩ := h
  simp

theorem Destination.not_isDirectory (h : disk.Destination path position) :
    ¬ disk.IsDirectory position := by
  obtain ⟨-, -, -, -, hfile⟩ := h
  exact hfile

/-- Putting a file where no directory is leaves all destinations as they are. -/
theorem Destination.put_iff (hfile : ¬ disk.IsDirectory position) :
    (disk.put position (.file content mode)).Destination path other ↔
      disk.Destination path other := by
  simp only [Destination, target_put_iff hfile, isDirectory_put_iff hfile]

/-- Two files put one after the other, neither where a directory is, leave all
destinations as they are. -/
theorem Destination.put_put {content' : ByteArray} {mode' : Nat}
    {first second : Position} (hfirst : ¬ disk.IsDirectory first)
    (hsecond : ¬ disk.IsDirectory second) (h : disk.Destination path position) :
    ((disk.put first (.file content mode)).put second (.file content' mode')).Destination path
      position := by
  have hsecond' : ¬ (disk.put first (.file content mode)).IsDirectory second :=
    mt (isDirectory_put_iff hfirst).mp hsecond
  exact (Destination.put_iff hsecond').mpr ((Destination.put_iff hfirst).mpr h)

theorem SameTree.destination_iff {disk' : Disk} (h : disk.SameTree disk') :
    disk.Destination path position ↔ disk'.Destination path position := by
  simp only [Destination, h.target_iff, h.isDirectory_iff]

/-- What a path leads to is what lies at its destination. -/
theorem Destination.find_iff (h : disk.Destination path position) {node : Node} :
    disk.find path = .ok node ↔ disk.node? position = some node := by
  obtain ⟨directory, name, htarget, rfl, -⟩ := h
  exact htarget.find_iff

/-- A path leads to its destination if anything lies there. -/
theorem Destination.locate_eq (h : disk.Destination path position)
    (hsome : disk.node? position ≠ none) : disk.locate path = .ok position := by
  obtain ⟨directory, name, htarget, rfl, -⟩ := h
  exact htarget.locate_iff.mpr ⟨rfl, hsome⟩

theorem Destination.modeFor_eq (h : disk.Destination path position) :
    disk.modeFor path = disk.modeAt position := by
  obtain ⟨directory, name, htarget, rfl, -⟩ := h
  exact htarget.modeFor_eq

/-- A staged file is moved to its destination, if it has one. -/
theorem commit_eq_ok_iff_destination {disk' : Disk} {staged : Staged} :
    disk.commit staged path = .ok disk' ↔
      ∃ position, disk.Destination path position ∧
        disk' = (disk.discard staged).put position (.file staged.content staged.mode) := by
  rw [commit_eq_ok_iff]
  constructor
  · intro h
    obtain ⟨directory, name, htarget, hfile, hput⟩ := h
    exact ⟨_, ⟨directory, name, htarget, rfl, hfile⟩, hput⟩
  · intro h
    obtain ⟨_, ⟨directory, name, htarget, rfl, hfile⟩, hput⟩ := h
    exact ⟨directory, name, htarget, hfile, hput⟩

/-- A file that lies at the destination of a path is read by the path. -/
theorem Destination.read_eq (h : disk.Destination path position)
    (hnode : disk.node? position = some (.file content mode)) :
    disk.read path = .ok content ∧ disk.mode path = .ok mode := by
  have hfind : disk.find path = .ok (.file content mode) := h.find_iff.mpr hnode
  constructor
  · rw [Disk.read, hfind]
    rfl
  · rw [Disk.mode, hfind]
    rfl

end Disk

/-! ## Two files put one after the other -/

section Run

variable {disk disk' : Disk} {tables : Tables} {paths : OutputPaths}

/-- A writing that succeeds puts the header to its destination and then the
source file to its own, each with the permission bits that were due to it
before. -/
theorem written_eq (h : writeTables disk tables paths = (.ok (), disk')) :
    ∃ header source, disk.Destination paths.header header ∧
      disk.Destination paths.source source ∧
      disk' = (disk.put header (.file tables.header.toByteArray (disk.modeAt header))).put source
        (.file tables.source.toByteArray (disk.modeAt source)) := by
  have hrun : WriteRun disk tables paths (.ok (), disk') := h ▸ writeTables_run
  cases hrun with
  | @written header source disk₁ disk₂ disk₃ _ hheader hsource hmoved hlast =>
      obtain ⟨directory, name, htarget, hfile, hsame, hput⟩ := header_moved hheader hsource hmoved
      obtain ⟨hsame₁, -, -, -⟩ := Disk.stage_spec hheader
      obtain ⟨-, -, hcontent, hmode⟩ := Disk.stage_spec hsource
      obtain ⟨position, hdestination, rfl⟩ := Disk.commit_eq_ok_iff_destination.mp hlast
      -- Where the source file goes was settled before the header was moved.
      rw [hsame.destination_iff, hput, Disk.Destination.put_iff hfile] at hdestination
      have hmode' : source.mode = disk.modeAt position := by
        rw [hmode, (hsame₁.destination_iff.mpr hdestination).modeFor_eq, Disk.modeAt, Disk.modeAt,
          Disk.node?, Disk.node?, hsame₁.nodes]
      refine ⟨directory ++ [name], position, ⟨directory, name, htarget, rfl, hfile⟩,
        hdestination, ?_⟩
      rw [hput, hcontent, hmode']
      rfl

/-- A path leads to a new file with some text.  It leads to where it led before
if anything was there, and then the file has the permission bits of what was
there, which was no directory. -/
structure Replaced (disk disk' : Disk) (path : Path) (position : Position) (text : String) :
    Prop where
  before : ∀ node, disk.find path = .ok node ↔ disk.node? position = some node
  noDirectory : ¬ disk.IsDirectory position
  locate : disk'.locate path = .ok position
  read : disk'.read path = .ok text.toByteArray
  mode : disk'.mode path = .ok (((disk.node? position).map Node.mode).getD 0o644)

/-- A path leads to the file that was put to its destination. -/
theorem replaced_of_node? {path : Path} {position : Position} {text : String}
    (hbefore : disk.Destination path position) (hafter : disk'.Destination path position)
    (hnode : disk'.node? position =
      some (.file text.toByteArray (disk.modeAt position))) :
    Replaced disk disk' path position text := by
  obtain ⟨hread, hmode⟩ := hafter.read_eq hnode
  exact
    { before := fun node => hbefore.find_iff
      noDirectory := hbefore.not_isDirectory
      locate := hafter.locate_eq (by simp [hnode])
      read := hread
      mode := hmode }

/-- After two files are put to the destinations of two paths, the paths lead to
them.  If the destinations are one, both lead to the second file. -/
theorem replaced_put_put {first second : Path} {position position' : Position}
    {text text' : String} (hfirst : disk.Destination first position)
    (hsecond : disk.Destination second position')
    (hdisk : disk' = (disk.put position (.file text.toByteArray (disk.modeAt position))).put
      position' (.file text'.toByteArray (disk.modeAt position'))) :
    Replaced disk disk' first position (if position = position' then text' else text) ∧
      Replaced disk disk' second position' text' := by
  subst hdisk
  have hfile := hfirst.not_isDirectory
  have hfile' := hsecond.not_isDirectory
  constructor
  · apply replaced_of_node? hfirst (hfirst.put_put hfile hfile')
    by_cases hsame : position = position'
    · subst hsame
      rw [if_pos rfl, Disk.node?_put_self _ _ hfirst.ne_nil]
    · rw [if_neg hsame, Disk.node?_put_of_ne _ _ (Ne.symm hsame),
        Disk.node?_put_self _ _ hfirst.ne_nil]
  · apply replaced_of_node? hsecond (hsecond.put_put hfile hfile')
    rw [Disk.node?_put_self _ _ hsecond.ne_nil]

/-- **What writing the tables leaves.**  The path of the source file leads to
the new source file.  The path of the header leads to the new header, unless
both paths lead to one place.  A file that was replaced keeps its permission
bits, and a new one has the usual ones.  Nothing else is changed in the tree,
and nothing is left staged that was not before. -/
theorem writeTables_ok (h : writeTables disk tables paths = (.ok (), disk')) :
    ∃ header source,
      Replaced disk disk' paths.header header
        (if header = source then tables.source else tables.header) ∧
      Replaced disk disk' paths.source source tables.source ∧
      (∀ other, other ≠ header → other ≠ source → disk'.node? other = disk.node? other) ∧
      disk'.staged = disk.staged ∧ disk'.current = disk.current := by
  obtain ⟨header, source, hheader, hsource, hdisk⟩ := written_eq h
  obtain ⟨hfirst, hsecond⟩ := replaced_put_put hheader hsource hdisk
  subst hdisk
  refine ⟨header, source, hfirst, hsecond, ?_, rfl, rfl⟩
  intro other hother hother'
  rw [Disk.node?_put_of_ne _ _ hother'.symm, Disk.node?_put_of_ne _ _ hother.symm]

end Run

/-- A disk with a file `t` that only its owner may read, in a directory `d`. -/
def privateDisk : Disk :=
  (Disk.put ⟨∅, [], []⟩ [[0x64]] (.directory 0o755)).put [[0x64], [0x74]]
    (.file "old".toByteArray 0o600)

/-- Both tables are written to one file, as `d/../d/t` and as `./d//t`.  The
source file is left, as private as the file was. -/
theorem writeTables_sameFile :
    ∃ disk', writeTables privateDisk ⟨"h", "c"⟩ ⟨.ofText "d/../d/t", .ofText "./d//t"⟩ =
        (.ok (), disk') ∧
      disk'.read (.ofText "d/../d/t") = .ok "c".toByteArray ∧
      disk'.read (.ofText "./d//t") = .ok "c".toByteArray ∧
      disk'.mode (.ofText "d/../d/t") = .ok 0o600 ∧
      disk'.node? [[0x64]] = some (.directory 0o755) ∧ disk'.staged = [] := by
  have hwritten : (writeTables privateDisk ⟨"h", "c"⟩
      ⟨.ofText "d/../d/t", .ofText "./d//t"⟩).1 = .ok () := by rfl
  obtain ⟨header, source, hheader, hsource, hother, hstaged, -⟩ :=
    writeTables_ok (Prod.ext hwritten rfl)
  obtain rfl : [[0x64], [0x74]] = header := Except.ok.inj hheader.locate
  obtain rfl : [[0x64], [0x74]] = source := Except.ok.inj hsource.locate
  exact ⟨_, Prod.ext hwritten rfl, hheader.read, hsource.read, hheader.mode,
    hother _ (by decide) (by decide), hstaged⟩

end AdventureTables
