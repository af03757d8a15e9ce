import AdventureTables.Program.Output
import AdventureTables.Proofs.Files.Walking
/-!
# Writing the tables, and failing to

Staging a file changes nothing but what is staged.  Moving it needs a target
that is no directory, and puts it there.  So the only way to change the tree is
to move a file, and the header is moved before the source file.

The ends that writing the tables can come to are listed in `WriteRun`.  In all
but the last two nothing was moved.  In the last but one the header was, and
the source file could not be.  Then the source file has no target that a file
could be put to, hence not the one of the header, and what its path leads to is
as before.
-/

namespace AdventureTables

open Code (Tables)

namespace Disk

variable {disk disk' : Disk} {path : Path} {staged : Staged}

/-! ## Staging and moving -/

/-- Staging a file leaves the tree alone.  The file gets the permission bits of
what it will replace. -/
theorem stage_spec {content : ByteArray} (h : disk.stage path content = .ok (staged, disk')) :
    disk'.SameTree disk ∧ disk'.staged = staged :: disk.staged ∧
      staged.content = content ∧ staged.mode = disk.modeFor path := by
  obtain ⟨-, h⟩ := check_bind_eq_ok_iff.mp h
  obtain ⟨directory, -, h⟩ := bind_eq_ok_iff.mp h
  obtain ⟨-, h⟩ := check_bind_eq_ok_iff.mp h
  obtain ⟨rfl, rfl⟩ := Prod.mk.inj (Except.ok.inj h)
  exact ⟨⟨rfl, rfl⟩, rfl, rfl, rfl⟩

/-- Staging leaves no trace once the staged file is removed. -/
theorem discard_stage {content : ByteArray}
    (h : disk.stage path content = .ok (staged, disk')) : disk'.discard staged = disk := by
  obtain ⟨hsame, hstaged, -⟩ := stage_spec h
  refine SameTree.eq ⟨hsame.nodes, hsame.current⟩ ?_
  rw [discard, hstaged, List.erase_cons_head]

/-- A staged file is moved exactly if its destination has a target that is no
directory, and it is put there. -/
theorem commit_eq_ok_iff :
    disk.commit staged path = .ok disk' ↔
      ∃ directory name, disk.Target path directory name ∧
        ¬ disk.IsDirectory (directory ++ [name]) ∧
        disk' = (disk.discard staged).put (directory ++ [name])
          (.file staged.content staged.mode) := by
  rw [commit, bind_eq_ok_iff]
  constructor
  · intro h
    obtain ⟨directory, hparent, h⟩ := h
    split at h
    · next name hlast =>
      obtain ⟨found, hchild, h⟩ := bind_eq_ok_iff.mp h
      obtain ⟨hshort, rfl⟩ := child_eq_ok_iff.mp hchild
      cases hslashed : path.walk.slashed with
      | true => simp [hslashed] at h
      | false =>
          refine ⟨directory, name, ⟨hlast, hslashed, hparent, hshort⟩, ?_, ?_⟩
          · intro hdir
            obtain ⟨mode, hmode⟩ := hdir
            simp [hslashed, hmode] at h
          · simp only [hslashed, Bool.false_eq_true, if_false] at h
            split at h
            · simp at h
            · exact (Except.ok.inj h).symm
    · simp at h
  · intro h
    obtain ⟨directory, name, htarget, hfile, rfl⟩ := h
    refine ⟨directory, htarget.parent, ?_⟩
    simp only [htarget.last, htarget.unslashed, Bool.false_eq_true, if_false]
    refine bind_eq_ok_iff.mpr ⟨_, child_eq_ok_iff.mpr ⟨htarget.short, rfl⟩, ?_⟩
    split
    · next mode hmode => exact absurd ⟨mode, hmode⟩ hfile
    · rfl

/-- A staged file that is not moved has no target that it could be put to. -/
theorem isDirectory_of_commit_error {fault : DiskFault} {directory : Position} {name : Name}
    (h : disk.commit staged path = .error fault) (htarget : disk.Target path directory name) :
    disk.IsDirectory (directory ++ [name]) := by
  by_contra hfile
  have hmoved : disk.commit staged path = .ok _ :=
    commit_eq_ok_iff.mpr ⟨directory, name, htarget, hfile, rfl⟩
  simp [h] at hmoved

end Disk

/-! ## The ends of a run -/

/-- How writing the tables ends, and the disk that it leaves. -/
inductive WriteRun (disk : Disk) (tables : Tables) (paths : OutputPaths) :
    Except WriteFault Unit × Disk → Prop
  | headerUnstaged {fault : DiskFault}
      (h : disk.stage paths.header tables.header.toByteArray = .error fault) :
      WriteRun disk tables paths (.error ⟨.header, paths.header, fault, true⟩, disk)
  | sourceUnstaged {header : Staged} {disk₁ : Disk} {fault : DiskFault}
      (hheader : disk.stage paths.header tables.header.toByteArray = .ok (header, disk₁))
      (h : disk₁.stage paths.source tables.source.toByteArray = .error fault) :
      WriteRun disk tables paths
        (.error ⟨.source, paths.source, fault, true⟩, disk₁.discard header)
  | headerUnmoved {header source : Staged} {disk₁ disk₂ : Disk} {fault : DiskFault}
      (hheader : disk.stage paths.header tables.header.toByteArray = .ok (header, disk₁))
      (hsource : disk₁.stage paths.source tables.source.toByteArray = .ok (source, disk₂))
      (h : disk₂.commit header paths.header = .error fault) :
      WriteRun disk tables paths
        (.error ⟨.header, paths.header, fault, false⟩, (disk₂.discard source).discard header)
  | sourceUnmoved {header source : Staged} {disk₁ disk₂ disk₃ : Disk} {fault : DiskFault}
      (hheader : disk.stage paths.header tables.header.toByteArray = .ok (header, disk₁))
      (hsource : disk₁.stage paths.source tables.source.toByteArray = .ok (source, disk₂))
      (hmoved : disk₂.commit header paths.header = .ok disk₃)
      (h : disk₃.commit source paths.source = .error fault) :
      WriteRun disk tables paths
        (.error ⟨.source, paths.source, fault, false⟩, disk₃.discard source)
  | written {header source : Staged} {disk₁ disk₂ disk₃ disk₄ : Disk}
      (hheader : disk.stage paths.header tables.header.toByteArray = .ok (header, disk₁))
      (hsource : disk₁.stage paths.source tables.source.toByteArray = .ok (source, disk₂))
      (hmoved : disk₂.commit header paths.header = .ok disk₃)
      (h : disk₃.commit source paths.source = .ok disk₄) :
      WriteRun disk tables paths (.ok (), disk₄)

section Run

variable {disk disk' : Disk} {tables : Tables} {paths : OutputPaths} {fault : WriteFault}

/-- Writing the tables comes to one of the ends. -/
theorem writeTables_run : WriteRun disk tables paths (writeTables disk tables paths) := by
  unfold writeTables
  split
  · next hheader => exact .headerUnstaged hheader
  · next header disk₁ hheader =>
    split
    · next hsource => exact .sourceUnstaged hheader hsource
    · next source disk₂ hsource =>
      split
      · next hmoved => exact .headerUnmoved hheader hsource hmoved
      · next disk₃ hmoved =>
        split
        · next h => exact .sourceUnmoved hheader hsource hmoved h
        · next disk₄ h => exact .written hheader hsource hmoved h

/-- Both files were staged and the header was moved to its destination, but the
source file could not be. -/
def OnlyHeaderMoved (disk : Disk) (tables : Tables) (paths : OutputPaths) (fault : DiskFault) :
    Prop :=
  ∃ header source disk₁ disk₂ disk₃,
    disk.stage paths.header tables.header.toByteArray = .ok (header, disk₁) ∧
    disk₁.stage paths.source tables.source.toByteArray = .ok (source, disk₂) ∧
    disk₂.commit header paths.header = .ok disk₃ ∧
    disk₃.commit source paths.source = .error fault

/-- The only difference between two disks is that the path of the header leads
to the new one, with the permission bits of the file that it led to before, if
it led to any. -/
def HeaderReplaced (disk disk' : Disk) (tables : Tables) (paths : OutputPaths) : Prop :=
  ∃ position, disk'.locate paths.header = .ok position ∧
    (∀ node, disk.find paths.header = .ok node ↔ disk.node? position = some node) ∧
    ¬ disk.IsDirectory position ∧
    disk' = disk.put position
      (.file tables.header.toByteArray (((disk.node? position).map Node.mode).getD 0o644))

/-- A header that is moved once both files are staged is put to its target. -/
theorem header_moved {header source : Staged} {disk₁ disk₂ disk₃ : Disk}
    (hheader : disk.stage paths.header tables.header.toByteArray = .ok (header, disk₁))
    (hsource : disk₁.stage paths.source tables.source.toByteArray = .ok (source, disk₂))
    (hmoved : disk₂.commit header paths.header = .ok disk₃) :
    ∃ directory name, disk.Target paths.header directory name ∧
      ¬ disk.IsDirectory (directory ++ [name]) ∧
      disk₃.SameTree (disk₃.discard source) ∧
      disk₃.discard source = disk.put (directory ++ [name]) (.file tables.header.toByteArray
        (((disk.node? (directory ++ [name])).map Node.mode).getD 0o644)) := by
  obtain ⟨hsame₁, hstaged₁, hcontent, hmode⟩ := Disk.stage_spec hheader
  obtain ⟨hsame₂, hstaged₂, -, -⟩ := Disk.stage_spec hsource
  obtain ⟨directory, name, htarget, hfile, rfl⟩ := Disk.commit_eq_ok_iff.mp hmoved
  have hsame : disk₂.SameTree disk := hsame₂.trans hsame₁
  replace htarget := hsame.target_iff.mp htarget
  refine ⟨directory, name, htarget, mt hsame.isDirectory_iff.mpr hfile, ⟨rfl, rfl⟩, ?_⟩
  rw [hcontent, hmode, htarget.modeFor_eq]
  have hput := hsame.put (directory ++ [name]) (.file tables.header.toByteArray
    (((disk.node? (directory ++ [name])).map Node.mode).getD 0o644))
  refine Disk.SameTree.eq ⟨hput.nodes, hput.current⟩ ?_
  calc (disk₂.staged.erase header).erase source
      = (disk₂.staged.erase source).erase header := List.erase_comm ..
    _ = disk.staged := by rw [hstaged₂, List.erase_cons_head, hstaged₁, List.erase_cons_head]

/-- What failing to write the tables leaves. -/
theorem writeTables_error (htree : disk.IsTree)
    (hfailed : writeTables disk tables paths = (.error fault, disk')) :
    fault.destination = paths.destination fault.file ∧
    disk'.staged = disk.staged ∧
    (fault.file = .header ∨ fault.staging = true → disk' = disk) ∧
    (fault.file = .source ∧ fault.staging = false →
      OnlyHeaderMoved disk tables paths fault.fault ∧ HeaderReplaced disk disk' tables paths ∧
      ∀ node, disk'.find paths.source = .ok node ↔ disk.find paths.source = .ok node) := by
  have hrun : WriteRun disk tables paths (.error fault, disk') := hfailed ▸ writeTables_run
  cases hrun with
  | headerUnstaged => simp [OutputPaths.destination]
  | sourceUnstaged hheader =>
      rw [Disk.discard_stage hheader]
      simp [OutputPaths.destination]
  | headerUnmoved hheader hsource =>
      rw [Disk.discard_stage hsource, Disk.discard_stage hheader]
      simp [OutputPaths.destination]
  | @sourceUnmoved header source disk₁ disk₂ disk₃ reason hheader hsource hmoved h =>
      obtain ⟨directory, name, htarget, hfile, hsame, hput⟩ := header_moved hheader hsource hmoved
      rw [hput] at hsame ⊢
      refine ⟨rfl, rfl, by simp, fun _ => ⟨⟨_, _, _, _, _, hheader, hsource, hmoved, h⟩, ?_, ?_⟩⟩
      · have hne : directory ++ [name] ≠ [] := by simp
        refine ⟨directory ++ [name], ?_, fun node => htarget.find_iff, hfile, rfl⟩
        exact ((Disk.target_put_iff hfile).mpr htarget).locate_iff.mpr
          ⟨rfl, by simp [Disk.node?_put_self _ _ hne]⟩
      · intro node
        refine Disk.find_put_iff htree htarget.isDirectory hfile fun parent child hsource heq => ?_
        -- The target of the source file could be put to if it were the one of the header.
        have hmoved' := hsame.target_iff.mpr ((Disk.target_put_iff hfile).mpr hsource)
        have hdir := hsame.isDirectory_iff.mp (Disk.isDirectory_of_commit_error h hmoved')
        exact hfile (heq ▸ (Disk.isDirectory_put_iff hfile).mp hdir)

end Run

/-- A disk with a directory where the source file is to be. -/
def blockedDisk : Disk :=
  Disk.put ⟨∅, [], []⟩ [[0x63]] (.directory 0o755)

/-- The source file cannot be moved to a directory, which the header does not
mind. -/
theorem writeTables_blocked :
    blockedDisk.IsTree ∧
    ∃ disk', writeTables blockedDisk ⟨"h", "c"⟩ ⟨⟨[0x68]⟩, ⟨[0x63]⟩⟩ =
        (.error ⟨.source, ⟨[0x63]⟩, .isADirectory, false⟩, disk') ∧
      disk'.staged = [] ∧
      HeaderReplaced blockedDisk disk' ⟨"h", "c"⟩ ⟨⟨[0x68]⟩, ⟨[0x63]⟩⟩ := by
  have htree : blockedDisk.IsTree := by
    intro directory name hsome
    have hpath : [[0x63]] = directory ++ [name] := by
      by_contra hne
      rw [blockedDisk, Disk.node?_put_of_ne _ _ hne] at hsome
      simp [Disk.node?] at hsome
    cases directory with
    | nil => exact blockedDisk.isDirectory_nil
    | cons => simp at hpath
  have hfailed : (writeTables blockedDisk ⟨"h", "c"⟩ ⟨⟨[0x68]⟩, ⟨[0x63]⟩⟩).1 =
      .error ⟨.source, ⟨[0x63]⟩, .isADirectory, false⟩ := by rfl
  obtain ⟨-, hstaged, -, hmoved⟩ := writeTables_error htree (Prod.ext hfailed rfl)
  exact ⟨htree, _, Prod.ext hfailed rfl, hstaged, (hmoved ⟨rfl, rfl⟩).2.1⟩

end AdventureTables
