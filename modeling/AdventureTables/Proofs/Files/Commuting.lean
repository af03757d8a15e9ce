import AdventureTables.Proofs.Files.Moves
import AdventureTables.Proofs.Files.Overwriting
/-!
# Writings that do not meet

A path that only goes down looks at the positions on its way and nowhere else.
So whatever is put to a position that is not on the way (`Disk.Misses`) changes
nothing about the path: neither where it leads, nor the fault if it leads
nowhere.  What is said of a walk is said of every operation by such a path, and
so of a whole writing: it ends as it would have ended, and what was put stays
(`Misses.writeTables_put`).

All that a writing does to the tree is to put files to the places of its two
paths (`exists_putAll`).  Two writings of which neither has a path on the way of
the other's thus do not notice each other, and what they put can be put in
either order (`writeTables_comm`).
-/

namespace AdventureTables

open Code (Tables)
open AdventureTables.Path (Step)

/-! ## Paths that go down -/

/-- A path starts in the current directory and goes down some names. -/
structure Path.Descends (path : Path) (names : List Name) : Prop where
  relative : path.isAbsolute = false
  moves : path.moves = names.map .down

theorem Path.descends_of_components {path : Path} {names : List Name}
    (h : path.components = names.map .name) : path.Descends names where
  relative := by
    rw [Bool.eq_false_iff, ne_eq, ← Path.root_mem_components_iff, h]
    simp
  moves := by
    rw [Path.moves, h, List.filterMap_map]
    exact congrFun (List.filterMap_eq_map (f := Step.down)) names

namespace Disk

variable {disk : Disk} {path : Path} {position other : Position} {node : Node}

/-- A path goes down from the current directory, and a position is not on its
way. -/
def Misses (disk : Disk) (path : Path) (position : Position) : Prop :=
  ∃ names, path.Descends names ∧ ¬ position <+: disk.current ++ names

/-- What is not on the way of a path is not on the way of its directory. -/
theorem Misses.directory (h : disk.Misses path position) :
    disk.Misses path.directory position := by
  obtain ⟨names, hdescends, hmiss⟩ := h
  have hbegins : path.directory.moves <+: names.map .down := by
    rw [← hdescends.moves, Path.moves_directory]
    exact (List.dropLast_prefix _).filterMap _
  obtain ⟨first, hfirst, hmoves⟩ := List.prefix_map_iff.mp hbegins
  refine ⟨first, ⟨?_, hmoves⟩, fun hposition => hmiss (hposition.trans ?_)⟩
  · have hroot : .root ∉ path.components := by
      rw [Path.root_mem_components_iff, hdescends.relative]
      simp
    rw [Bool.eq_false_iff, ne_eq, Path.isAbsolute_directory]
    exact fun h => hroot ((List.dropLast_prefix _).subset h)
  · exact (List.prefix_append_right_inj _).mpr hfirst

/-! ## Walks that miss a position -/

theorem enter_put_of_ne (h : position ≠ other) :
    (disk.put position node).enter other = disk.enter other := by
  rw [enter, enter, node?_put_of_ne _ _ h]

/-- A step looks at where it starts and at where it goes down to. -/
theorem step_put_of_ne {start : Position} {step : Step} (hstart : position ≠ start)
    (hnext : ∀ name, step = .down name → position ≠ start ++ [name]) :
    (disk.put position node).step start step = disk.step start step := by
  cases step with
  | stay => rw [Disk.step, Disk.step, enter_put_of_ne hstart]
  | up => rw [Disk.step, Disk.step, enter_put_of_ne hstart]
  | down name =>
      rw [Disk.step, Disk.step, enter_put_of_ne hstart]
      refine bind_congr fun _ => ?_
      cases hchild : child start name with
      | error fault => rfl
      | ok next =>
          obtain ⟨-, rfl⟩ := child_eq_ok_iff.mp hchild
          simp only [bind, Except.bind, node?_put_of_ne _ _ (hnext name rfl)]

/-- A walk that goes down some names comes to where they lead. -/
theorem walk_down {start : Position} {steps : List Step} {names : List Name}
    (hsteps : steps.filter (· ≠ .stay) = names.map .down)
    (h : steps.foldlM disk.step start = .ok other) : other = start ++ names := by
  induction steps generalizing start names with
  | nil =>
      obtain rfl : names = [] := by simpa using hsteps.symm
      simpa using (Except.ok.inj h).symm
  | cons step steps ih =>
      obtain ⟨next, hstep, hrest⟩ := walk_cons_eq_ok_iff.mp h
      cases hstep with
      | stay => exact ih (by simpa using hsteps) hrest
      | up => cases names <;> simp at hsteps
      | @down name =>
          cases names with
          | nil => simp at hsteps
          | cons first names =>
              obtain ⟨rfl, hrests⟩ : name = first ∧
                  steps.filter (· ≠ .stay) = names.map .down := by simpa using hsteps
              simpa using ih hrests hrest

/-- A walk that goes down some names does not notice what is put off its way. -/
theorem walk_put_of_misses {start : Position} {steps : List Step} {names : List Name}
    (hsteps : steps.filter (· ≠ .stay) <+: names.map .down)
    (hmiss : ¬ position <+: start ++ names) :
    steps.foldlM (disk.put position node).step start = steps.foldlM disk.step start := by
  induction steps generalizing start names with
  | nil => rfl
  | cons step steps ih =>
      have hstart : position ≠ start := by
        rintro rfl
        exact hmiss (List.prefix_append _ _)
      rw [List.foldlM_cons, List.foldlM_cons]
      cases step with
      | stay =>
          rw [step_put_of_ne hstart (by simp)]
          cases hstep : disk.step start .stay with
          | error fault => rfl
          | ok next =>
              cases step_eq_ok_iff.mp hstep with
              | stay => exact ih (by simpa using hsteps) hmiss
      | up => cases names <;> simp at hsteps
      | down name =>
          cases names with
          | nil => simp at hsteps
          | cons first names =>
              obtain ⟨rfl, hrest⟩ : name = first ∧
                  steps.filter (· ≠ .stay) <+: names.map .down := by
                simpa [List.cons_prefix_cons] using hsteps
              have hmiss' : ¬ position <+: (start ++ [name]) ++ names := by simpa using hmiss
              rw [step_put_of_ne hstart]
              · cases hstep : disk.step start (.down name) with
                | error fault => rfl
                | ok next =>
                    cases step_eq_ok_iff.mp hstep with
                    | down => exact ih hrest hmiss'
              · rintro _ hname rfl
                obtain rfl := Step.down.inj hname
                exact hmiss' (List.prefix_append _ _)

/-! ## Operations that miss a position -/

theorem Misses.locate_put (h : disk.Misses path position) :
    (disk.put position node).locate path = disk.locate path := by
  obtain ⟨names, hdescends, hmiss⟩ := h
  have hsteps : path.walk.steps.filter (· ≠ .stay) = names.map .down := by
    rw [← Path.moves_eq, hdescends.moves]
  have horigin : disk.origin path = disk.current := by simp [origin, hdescends.relative]
  rw [locate, locate]
  refine bind_congr fun _ => ?_
  exact walk_put_of_misses (hsteps ▸ List.prefix_rfl) (horigin ▸ hmiss)

/-- A path leads to no position that it misses. -/
theorem Misses.ne_of_locate (h : disk.Misses path position)
    (hlocate : disk.locate path = .ok other) : position ≠ other := by
  obtain ⟨names, hdescends, hmiss⟩ := h
  obtain ⟨-, hwalk⟩ := locate_eq_ok_iff.mp hlocate
  have hother := walk_down (by rw [← Path.moves_eq, hdescends.moves]) hwalk
  rw [origin, hdescends.relative] at hother
  rintro rfl
  exact hmiss (hother ▸ List.prefix_rfl)

theorem Misses.find_put (h : disk.Misses path position) :
    (disk.put position node).find path = disk.find path := by
  rw [find, find, h.locate_put]
  cases hlocate : disk.locate path with
  | error fault => rfl
  | ok other => simp only [bind, Except.bind, node?_put_of_ne _ _ (h.ne_of_locate hlocate)]

theorem Misses.modeFor_put (h : disk.Misses path position) :
    (disk.put position node).modeFor path = disk.modeFor path := by
  rw [modeFor, modeFor, Disk.mode, Disk.mode, h.find_put]

/-- Staging a file leaves what was put, and comes to the same otherwise. -/
theorem Misses.stage_put (h : disk.Misses path position) (content : ByteArray) :
    (disk.put position node).stage path content =
      (disk.stage path content).map fun (staged, staging) =>
        (staged, staging.put position node) := by
  -- The path to open the staged file by depends on the current directory only.
  have hpath : (disk.put position node).stagingPath path = disk.stagingPath path := rfl
  rw [stage, stage, hpath, h.directory.locate_put]
  cases checkPath (disk.stagingPath path) with
  | error fault => rfl
  | ok _ =>
      cases hlocate : disk.locate path.directory with
      | error fault => rfl
      | ok directory =>
          have hne := h.directory.ne_of_locate hlocate
          simp only [bind, Except.bind, enter_put_of_ne hne, h.modeFor_put]
          cases disk.enter directory <;> rfl

theorem Misses.locateParent_put (h : disk.Misses path position) :
    (disk.put position node).locateParent path = disk.locateParent path := by
  obtain ⟨names, hdescends, hmiss⟩ := h
  have hsteps := path.moves_before_prefix
  rw [hdescends.moves] at hsteps
  have horigin : disk.origin path = disk.current := by simp [origin, hdescends.relative]
  rw [locateParent, locateParent]
  refine bind_congr fun _ => ?_
  have hwalk : path.walk.before.foldlM (disk.put position node).step
      ((disk.put position node).origin path) =
        path.walk.before.foldlM disk.step (disk.origin path) :=
    walk_put_of_misses hsteps (horigin ▸ hmiss)
  rw [hwalk]
  cases hdirectory : path.walk.before.foldlM disk.step (disk.origin path) with
  | error fault => rfl
  | ok directory =>
      obtain ⟨first, hfirst, hmoves⟩ := List.prefix_map_iff.mp hsteps
      have hne : position ≠ directory := by
        rintro rfl
        refine hmiss ?_
        rw [walk_down hmoves hdirectory, horigin]
        exact (List.prefix_append_right_inj _).mpr hfirst
      simp only [bind, Except.bind, enter_put_of_ne hne]

/-- A file with a path that goes down lies where the names lead. -/
theorem Target.eq_of_descends {directory : Position} {name : Name} {names : List Name}
    (h : disk.Target path directory name) (hdescends : path.Descends names) :
    directory ++ [name] = disk.current ++ names := by
  obtain ⟨-, hwalk, -⟩ := locateParent_eq_ok_iff.mp h.parent
  have hmoves : path.walk.before.filter (· ≠ .stay) ++ [.down name] = names.map .down := by
    rw [← hdescends.moves, Path.moves_eq, steps_of_last h.last h.unslashed]
    simp
  obtain rfl | ⟨first, last, rfl⟩ := List.eq_nil_or_concat names
  · simp at hmoves
  · obtain ⟨hbefore, hlast⟩ : path.walk.before.filter (· ≠ .stay) = first.map .down ∧
        name = last := by simpa using hmoves
    rw [walk_down hbefore hwalk, origin, hdescends.relative, hlast]
    simp

theorem Misses.ne_of_target (h : disk.Misses path position) {directory : Position} {name : Name}
    (htarget : disk.Target path directory name) : position ≠ directory ++ [name] := by
  obtain ⟨names, hdescends, hmiss⟩ := h
  rw [htarget.eq_of_descends hdescends]
  rintro rfl
  exact hmiss List.prefix_rfl

theorem Misses.place_put (h : disk.Misses path position) :
    (disk.put position node).place path = disk.place path := by
  rw [place, place, h.locateParent_put]
  cases hparent : disk.locateParent path with
  | error fault => rfl
  | ok directory =>
      simp only [bind, Except.bind]
      split
      · next name hlast =>
        cases hchild : child directory name with
        | error fault => rfl
        | ok found =>
            obtain ⟨hshort, rfl⟩ := child_eq_ok_iff.mp hchild
            cases hslashed : path.walk.slashed with
            | true => rfl
            | false =>
                have hne := h.ne_of_target ⟨hlast, hslashed, hparent, hshort⟩
                simp only [node?_put_of_ne _ _ hne]
      · rfl

/-- Moving a file leaves what was put, and comes to the same otherwise. -/
theorem Misses.commit_put (h : disk.Misses path position) (staged : Staged) :
    (disk.put position node).commit staged path =
      (disk.commit staged path).map (·.put position node) := by
  rw [commit_eq, commit_eq, h.place_put]
  cases hplace : disk.place path with
  | error fault => rfl
  | ok other =>
      obtain ⟨directory, name, htarget, rfl, -⟩ := place_eq_ok_iff.mp hplace
      have hcomm := put_comm (disk.discard staged) (h.ne_of_target htarget) node
        (.file staged.content staged.mode)
      exact congrArg Except.ok hcomm

theorem commit_current {disk' : Disk} {staged : Staged}
    (h : disk.commit staged path = .ok disk') : disk'.current = disk.current := by
  obtain ⟨_, _, _, _, rfl⟩ := commit_eq_ok_iff.mp h
  rfl

/-- Which positions a path misses depends on the current directory only. -/
theorem Misses.of_current {disk' : Disk} (h : disk.Misses path position)
    (hcurrent : disk'.current = disk.current) : disk'.Misses path position := by
  rwa [Misses, hcurrent]

end Disk

/-! ## Whole writings -/

section Writing

variable {disk : Disk} {tables : Tables} {paths : OutputPaths} {position : Position} {node : Node}

/-- A writing does not notice what is put to a position that both its paths
miss. -/
theorem writeTables_put (hheader : disk.Misses paths.header position)
    (hsource : disk.Misses paths.source position) :
    writeTables (disk.put position node) tables paths =
      ((writeTables disk tables paths).1,
        (writeTables disk tables paths).2.put position node) := by
  rw [writeTables, writeTables, hheader.stage_put]
  cases hstaged : disk.stage paths.header tables.header.toByteArray with
  | error fault => rfl
  | ok result =>
      obtain ⟨header, disk₁⟩ := result
      have hcurrent₁ : disk₁.current = disk.current := (Disk.stage_spec hstaged).1.current
      simp only [Except.map, (hsource.of_current hcurrent₁).stage_put]
      cases hstaged' : disk₁.stage paths.source tables.source.toByteArray with
      | error fault => rfl
      | ok result =>
          obtain ⟨source, disk₂⟩ := result
          have hcurrent₂ : disk₂.current = disk.current :=
            (Disk.stage_spec hstaged').1.current.trans hcurrent₁
          simp only [Except.map, (hheader.of_current hcurrent₂).commit_put]
          cases hmoved : disk₂.commit header paths.header with
          | error fault => rfl
          | ok disk₃ =>
              have hcurrent₃ : disk₃.current = disk.current :=
                (Disk.commit_current hmoved).trans hcurrent₂
              simp only [Except.map, (hsource.of_current hcurrent₃).commit_put]
              cases disk₃.commit source paths.source <;> rfl

end Writing

/-! ## What a writing puts -/

section Puts

variable {disk : Disk} {tables : Tables} {paths : OutputPaths}
variable {puts others : List (Position × Node)}

/-- The disk with nodes put one after the other. -/
def Disk.putAll (disk : Disk) (puts : List (Position × Node)) : Disk :=
  puts.foldl (fun disk put => disk.put put.1 put.2) disk

theorem Disk.putAll_put (disk : Disk) {position : Position} (node : Node)
    (h : ∀ put ∈ puts, position ≠ put.1) :
    (disk.put position node).putAll puts = (disk.putAll puts).put position node := by
  induction puts generalizing disk with
  | nil => rfl
  | cons put puts ih =>
      obtain ⟨hfirst, hrest⟩ := List.forall_mem_cons.mp h
      calc (disk.put position node).putAll (put :: puts)
          = ((disk.put put.1 put.2).put position node).putAll puts := by
            rw [Disk.putAll, List.foldl_cons, put_comm _ hfirst, ← Disk.putAll]
        _ = (disk.putAll (put :: puts)).put position node := ih _ hrest

/-- What is put to different positions can be put in any order. -/
theorem Disk.putAll_comm (disk : Disk) (h : ∀ put ∈ puts, ∀ other ∈ others, put.1 ≠ other.1) :
    (disk.putAll puts).putAll others = (disk.putAll others).putAll puts := by
  induction puts generalizing disk with
  | nil => rfl
  | cons put puts ih =>
      obtain ⟨hfirst, hrest⟩ := List.forall_mem_cons.mp h
      calc (disk.putAll (put :: puts)).putAll others
          = ((disk.put put.1 put.2).putAll others).putAll puts := ih _ hrest
        _ = (disk.putAll others).putAll (put :: puts) := by
            rw [Disk.putAll_put _ _ hfirst]
            rfl

/-- All that a writing does is to put nodes to the destinations of its paths. -/
theorem exists_putAll (disk : Disk) (tables : Tables) (paths : OutputPaths) :
    ∃ puts : List (Position × Node), (writeTables disk tables paths).2 = disk.putAll puts ∧
      ∀ put ∈ puts, ∃ path ∈ [paths.header, paths.source], disk.Destination path put.1 := by
  obtain hsame | ⟨position, hready⟩ := unchanged_or_ready disk tables paths
  · exact ⟨[], hsame, by simp⟩
  · rw [hready.writeTables_eq tables]
    cases hplace : (disk.fill position tables.header.toByteArray).place paths.source with
    | error fault => exact ⟨[(position, _)], rfl, by simp [hready.destination]⟩
    | ok other =>
        have hother : disk.Destination paths.source other := Disk.place_eq_ok_iff.mp
          ((Disk.place_fill_eq_ok_iff hready.destination.not_isDirectory).mp hplace)
        exact ⟨[(position, _), (other, _)], rfl, by simp [hready.destination, hother]⟩

/-- A writing does not notice what is put to positions that both its paths
miss. -/
theorem writeTables_putAll
    (hmiss : ∀ put ∈ puts, ∀ path ∈ [paths.header, paths.source], disk.Misses path put.1) :
    writeTables (disk.putAll puts) tables paths =
      ((writeTables disk tables paths).1, (writeTables disk tables paths).2.putAll puts) := by
  induction puts generalizing disk with
  | nil => rfl
  | cons put puts ih =>
      obtain ⟨hfirst, hrest⟩ := List.forall_mem_cons.mp hmiss
      have hwritten : writeTables (disk.put put.1 put.2) tables paths = _ :=
        writeTables_put (hfirst paths.header (by simp)) (hfirst paths.source (by simp))
      calc writeTables (disk.putAll (put :: puts)) tables paths
          = _ := ih fun other hother path hpath => (hrest other hother path hpath).of_current rfl
        _ = _ := by rw [hwritten]; rfl

end Puts

/-! ## Two writings -/

/-- A path that starts in the current directory and has neither `.` nor `..` in
it, as a name for a place. -/
def Path.Plain (path : Path) : Prop :=
  ∀ component ∈ path.components, ∃ name, component = .name name

/-- None of two paths is the other or the beginning of the other, component by
component. -/
def Path.Apart (path other : Path) : Prop :=
  ¬ path.components <+: other.components ∧ ¬ other.components <+: path.components

instance (component : Path.Component) : Decidable (∃ name, component = .name name) :=
  match component with
  | .root => isFalse (by simp)
  | .current => isFalse (by simp)
  | .parent => isFalse (by simp)
  | .name name => isTrue ⟨name, rfl⟩

instance (path : Path) : Decidable path.Plain :=
  inferInstanceAs (Decidable (∀ component ∈ path.components, ∃ name, component = .name name))

instance (path other : Path) : Decidable (path.Apart other) :=
  inferInstanceAs (Decidable (¬ path.components <+: other.components ∧
    ¬ other.components <+: path.components))

theorem Path.Plain.exists_names {path : Path} (h : path.Plain) :
    ∃ names : List Name, path.components = names.map .name := by
  unfold Path.Plain at h
  generalize path.components = components at h ⊢
  induction components with
  | nil => exact ⟨[], rfl⟩
  | cons component components ih =>
      obtain ⟨⟨name, rfl⟩, hrest⟩ := List.forall_mem_cons.mp h
      obtain ⟨names, rfl⟩ := ih hrest
      exact ⟨name :: names, rfl⟩

section Apart

variable {disk : Disk} {path other : Path} {position : Position}

/-- A path misses the places of all paths that are apart from it. -/
theorem Path.Apart.misses (h : path.Apart other) (hpath : path.Plain) (hother : other.Plain)
    (hplace : disk.Destination path position) : disk.Misses other position := by
  obtain ⟨names, hnames⟩ := hpath.exists_names
  obtain ⟨names', hnames'⟩ := hother.exists_names
  obtain ⟨directory, name, htarget, rfl, -⟩ := hplace
  refine ⟨names', Path.descends_of_components hnames', fun hbegins => h.1 ?_⟩
  rw [htarget.eq_of_descends (Path.descends_of_components hnames),
    List.prefix_append_right_inj] at hbegins
  rw [hnames, hnames']
  exact hbegins.map _

theorem Path.Apart.symm (h : path.Apart other) : other.Apart path :=
  ⟨h.2, h.1⟩

end Apart

/-- **Writes to disjoint outputs commute.**  Let all paths be plain, and let those
of one writing be apart from those of the other.  Then both orders of the two
writings leave the same disk, and each of them ends in both orders as it does
alone, with the same fault if it fails. -/
theorem writeTables_comm (disk : Disk) (tables tables' : Tables) {paths paths' : OutputPaths}
    (hplain : ∀ path ∈ [paths.header, paths.source, paths'.header, paths'.source], path.Plain)
    (hapart : ∀ path ∈ [paths.header, paths.source],
      ∀ path' ∈ [paths'.header, paths'.source], path.Apart path') :
    (writeTables (writeTables disk tables paths).2 tables' paths').2 =
        (writeTables (writeTables disk tables' paths').2 tables paths).2 ∧
      (writeTables (writeTables disk tables' paths').2 tables paths).1 =
        (writeTables disk tables paths).1 ∧
      (writeTables (writeTables disk tables paths).2 tables' paths').1 =
        (writeTables disk tables' paths').1 := by
  obtain ⟨puts, hputs, hplaces⟩ := exists_putAll disk tables paths
  obtain ⟨puts', hputs', hplaces'⟩ := exists_putAll disk tables' paths'
  have hfirst : ∀ path ∈ [paths.header, paths.source], path.Plain := fun path hpath =>
    hplain path (List.mem_append_left [paths'.header, paths'.source] hpath)
  have hsecond : ∀ path' ∈ [paths'.header, paths'.source], path'.Plain := fun path' hpath' =>
    hplain path' (List.mem_append_right [paths.header, paths.source] hpath')
  have hmiss : ∀ put ∈ puts, ∀ path' ∈ [paths'.header, paths'.source],
      disk.Misses path' put.1 := by
    intro put hput path' hpath'
    obtain ⟨path, hpath, hplace⟩ := hplaces put hput
    exact (hapart path hpath path' hpath').misses (hfirst path hpath) (hsecond path' hpath') hplace
  have hmiss' : ∀ put ∈ puts', ∀ path ∈ [paths.header, paths.source],
      disk.Misses path put.1 := by
    intro put hput path hpath
    obtain ⟨path', hpath', hplace⟩ := hplaces' put hput
    exact (hapart path hpath path' hpath').symm.misses (hsecond path' hpath') (hfirst path hpath)
      hplace
  have hne : ∀ put ∈ puts, ∀ put' ∈ puts', put.1 ≠ put'.1 := by
    intro put hput put' hput'
    obtain ⟨path', hpath', directory, name, htarget, heq, -⟩ := hplaces' put' hput'
    exact heq ▸ (hmiss put hput path' hpath').ne_of_target htarget
  rw [hputs, hputs', writeTables_putAll hmiss, writeTables_putAll hmiss', hputs, hputs']
  exact ⟨(Disk.putAll_comm disk hne).symm, rfl, rfl⟩

/-- The file `t` in a directory `d`, which is there, and a new one beside it. -/
def innerPaths : OutputPaths :=
  ⟨.ofText "d/t", .ofText "d/u"⟩

/-- A third file in the directory, and one in a directory that is not there. -/
def straddlingPaths : OutputPaths :=
  ⟨.ofText "d//v", .ofText "m/w"⟩

/-- Two writings to one directory, of which one succeeds and the other cannot stage
its second file, do so in either order. -/
theorem writeTables_comm_inner :
    (∀ path ∈ [innerPaths.header, innerPaths.source, straddlingPaths.header,
      straddlingPaths.source], path.Plain) ∧
    (∀ path ∈ [innerPaths.header, innerPaths.source],
      ∀ path' ∈ [straddlingPaths.header, straddlingPaths.source], path.Apart path') ∧
    (writeTables (writeTables privateDisk ⟨"h", "c"⟩ innerPaths).2 ⟨"H", "C"⟩ straddlingPaths).2 =
      (writeTables (writeTables privateDisk ⟨"H", "C"⟩ straddlingPaths).2 ⟨"h", "c"⟩
        innerPaths).2 ∧
    (writeTables (writeTables privateDisk ⟨"H", "C"⟩ straddlingPaths).2 ⟨"h", "c"⟩
      innerPaths).1 = .ok () ∧
    (writeTables (writeTables privateDisk ⟨"h", "c"⟩ innerPaths).2 ⟨"H", "C"⟩
      straddlingPaths).1 = .error ⟨.source, .ofText "m/w", .notFound, true⟩ := by
  have hplain : ∀ path ∈ [innerPaths.header, innerPaths.source, straddlingPaths.header,
      straddlingPaths.source], path.Plain := by decide
  have hapart : ∀ path ∈ [innerPaths.header, innerPaths.source],
      ∀ path' ∈ [straddlingPaths.header, straddlingPaths.source], path.Apart path' := by decide
  obtain ⟨hsame, hfirst, hsecond⟩ :=
    writeTables_comm privateDisk ⟨"h", "c"⟩ ⟨"H", "C"⟩ hplain hapart
  exact ⟨hplain, hapart, hsame, hfirst.trans rfl, hsecond.trans rfl⟩

end AdventureTables
