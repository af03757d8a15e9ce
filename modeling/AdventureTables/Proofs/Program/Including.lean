import AdventureTables.Program.Run
import AdventureTables.Proofs.Files.Moves
import AdventureTables.Proofs.Files.Replacing
/-!
# The line that includes the header

The source file includes the header by a name that is read off from the path of
the header, and the header is put to where the path leads.  The name is the last
component of the path, the place comes from walking it.  A file can only be put
to a path whose last step goes down to a name, so then there is a last component
and it is that name: the usual name, which stands in for a missing one, is not
used by any writing that succeeds.

A compiler looks for the name in the directory of the source file.  Where both
paths have the same parent directory, the header lies there
(`source_includes_header`).
-/

namespace AdventureTables

/-- Two paths have the same parent directory: their parents are one path, by
components, or lead to one place. -/
def Disk.SameParent (disk : Disk) (path other : Path) : Prop :=
  path.parent.components = other.parent.components ∨
    disk.locate path.directory = disk.locate other.directory

section Including

variable {disk disk' : Disk} {paths : OutputPaths} {dungeon : Dungeon}

/-- Files whose paths have the same parent directory are put to one
directory. -/
theorem Disk.SameParent.directory_eq {path other : Path} {directory directory' : Position}
    {name name' : Name} (h : disk.SameParent path other)
    (htarget : disk.Target path directory name) (hother : disk.Target other directory' name') :
    directory = directory' := by
  have hfirst := htarget.locate_directory
  have hsecond := hother.locate_directory
  obtain hparents | hplaces := h
  · have hmoves : path.directory.moves = other.directory.moves := by
      rw [Path.moves_directory, Path.moves_directory, ← Path.components_parent,
        ← Path.components_parent, hparents]
    have habsolute : path.directory.isAbsolute = other.directory.isAbsolute := by
      rw [Bool.eq_iff_iff, Path.isAbsolute_directory, Path.isAbsolute_directory,
        ← Path.components_parent, ← Path.components_parent, hparents]
    obtain ⟨-, hwalk⟩ := (Disk.locate_directory_iff htarget.isDirectory).mp hfirst
    obtain ⟨-, hwalk'⟩ := (Disk.locate_directory_iff hother.isDirectory).mp hsecond
    rw [hmoves, Disk.origin, habsolute] at hwalk
    exact Except.ok.inj (hwalk.symm.trans hwalk')
  · exact Except.ok.inj (hfirst.symm.trans (hplaces.trans hsecond))

/-- A source file begins with the line that includes the header and a blank
line. -/
theorem source_begins (dungeon : Dungeon) (name : String) :
    ∃ rest, (Code.tables dungeon name).source = "#include \"" ++ name ++ "\"\n\n" ++ rest := by
  obtain ⟨lines, hlines⟩ : ∃ lines, Code.sourceLines dungeon name =
      [Code.includeLine name, ""] ++ lines := ⟨_, List.append_assoc ..⟩
  refine ⟨Code.unlines lines, ?_⟩
  rw [Code.tables, hlines, Code.unlines_append]
  simp [Code.unlines, Code.includeLine, String.join, String.append_assoc]

/-- A header that can be written has a name, and it is included by that name. -/
theorem includeName_eq {name : Name} {text : String} (hname : paths.header.fileName? = some name)
    (htext : name = Utf8.octets text) : paths.includeName = text := by
  rw [OutputPaths.includeName, hname, htext]
  exact Utf8.lossy_octets text

/-- **The include line names the header that was written.**  Let the two paths
have the same parent directory and lead to different files, and let the name of
the header, if it has one, be text.  If the tables are written, the header has a
name, the source file begins with a line that includes that name and a blank
line, and under that name the directory of the source file holds the generated
header. -/
theorem source_includes_header (hparent : disk.SameParent paths.header paths.source)
    (htext : ∀ name, paths.header.fileName? = some name → ∃ text, name = Utf8.octets text)
    (hwritten : writeTables disk (tablesFor dungeon paths) paths = (.ok (), disk'))
    (hapart : disk'.locate paths.header ≠ disk'.locate paths.source) :
    (∃ name, paths.header.fileName? = some name) ∧
    (∃ rest, disk'.read paths.source =
      .ok ("#include \"" ++ paths.includeName ++ "\"\n\n" ++ rest).toByteArray) ∧
    ∃ directory name mode,
      disk'.locate paths.source.directory = .ok directory ∧
      disk'.locate paths.source = .ok (directory ++ [name]) ∧
      disk'.node? (directory ++ [Utf8.octets paths.includeName]) =
        some (.file (tablesFor dungeon paths).header.toByteArray mode) := by
  obtain ⟨_, _, hheader, hsource, hdisk⟩ := written_eq hwritten
  obtain ⟨hfirst, hsecond⟩ := replaced_put_put hheader hsource hdisk
  obtain ⟨directory, name, htarget, rfl, hfile⟩ := hheader
  obtain ⟨directory', name', htarget', rfl, hfile'⟩ := hsource
  obtain rfl := hparent.directory_eq htarget htarget'
  have hname := Path.fileName?_of_last htarget.last
  obtain ⟨text, rfl⟩ := htext name hname
  have hne : directory ++ [Utf8.octets text] ≠ directory ++ [name'] := by
    intro heq
    exact hapart (hfirst.locate.trans (heq ▸ hsecond.locate.symm))
  refine ⟨⟨_, hname⟩, ?_, ?_⟩
  · obtain ⟨rest, hrest⟩ := source_begins dungeon paths.includeName
    exact ⟨rest, hrest ▸ hsecond.read⟩
  · rw [includeName_eq hname rfl]
    have hafter : disk'.Target paths.source directory name' := by
      subst hdisk
      exact (Disk.target_put_iff (mt (Disk.isDirectory_put_iff hfile).mp hfile')).mpr
        ((Disk.target_put_iff hfile).mpr htarget')
    refine ⟨directory, name', disk.modeAt (directory ++ [Utf8.octets text]),
      hafter.locate_directory, hsecond.locate, ?_⟩
    rw [hdisk, Disk.node?_put_of_ne _ _ hne.symm, Disk.node?_put_self _ _ (by simp)]

end Including

/-- The files `t` and `c` in a directory `d`, named in different ways. -/
def siblingPaths : OutputPaths :=
  ⟨.ofText "d/../d/t", .ofText "./d//c"⟩

/-- The header is written to `t`, which its path says in a roundabout way, and the
source file beside it includes `t`. -/
theorem source_includes_sibling :
    privateDisk.SameParent siblingPaths.header siblingPaths.source ∧
    ∃ disk', writeTables privateDisk
        (tablesFor ⟨[], [⟨"A", some "Hi"⟩], [], [], [], []⟩ siblingPaths) siblingPaths =
          (.ok (), disk') ∧
      (∃ rest, disk'.read siblingPaths.source =
        .ok ("#include \"t\"\n\n" ++ rest).toByteArray) ∧
      ∃ mode, disk'.node? [[0x64], [0x74]] = some (.file
        (Code.tables ⟨[], [⟨"A", some "Hi"⟩], [], [], [], []⟩ "t").header.toByteArray mode) := by
  have hparent : privateDisk.SameParent siblingPaths.header siblingPaths.source := .inr rfl
  have hname : siblingPaths.header.fileName? = some (Utf8.octets "t") := rfl
  have hwritten : (writeTables privateDisk
      (tablesFor ⟨[], [⟨"A", some "Hi"⟩], [], [], [], []⟩ siblingPaths) siblingPaths).1 =
        .ok () := by rfl
  obtain ⟨-, hbegins, directory, name, mode, hdirectory, -, hnode⟩ :=
    source_includes_header hparent (fun name h => ⟨"t", Option.some.inj (h.symm.trans hname)⟩)
      (Prod.ext hwritten rfl) (by decide)
  rw [includeName_eq hname rfl] at hbegins hnode
  obtain rfl : [[0x64]] = directory := Except.ok.inj hdirectory
  refine ⟨hparent, _, Prod.ext hwritten rfl, hbegins, mode, ?_⟩
  rw [tablesFor, includeName_eq hname rfl] at hnode
  exact hnode

end AdventureTables
