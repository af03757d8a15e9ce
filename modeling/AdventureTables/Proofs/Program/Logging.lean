import AdventureTables.Program.Run
import AdventureTables.Proofs.Files.Writing
/-!
# A run that logs as it goes

`run` keeps the whole log of a run and lets a filter choose from it afterwards.
Here the same run is told the other way round: the filter is there from the
start, and each line is shown or dropped when the run comes to it, between the
steps that read the description, check it, generate the tables and write them
(`Telling.perform`).  A step that fails ends the run there and then, and what was
staged is removed on the way out.

`Tells` says of such a part of a run what it comes to under every filter: one
result and one disk, and of some lines those that the filter keeps.  There is one
rule for each way to put parts together, and with these the whole run is seen to
end as `run` says and to tell the log that `run` keeps (`observe_eq`), wherever
it fails.
-/

namespace AdventureTables

/-- What a run has come to: the disk as it is, and the lines of the log that were
shown. -/
structure Session where
  disk : Disk
  shown : List Log.Line

/-- A part of a run.  It may fail, and it shows those of its lines that the filter
keeps. -/
abbrev Telling (ε : Type) := ReaderT Log.Filter (ExceptT ε (StateM Session))

namespace Telling

variable {ε ε' α β : Type}

/-! ## Parts of a run -/

/-- Shows a line if the filter keeps it. -/
def tell (line : Log.Line) : Telling ε Unit := do
  if (← read).keeps line then
    modify fun session => { session with shown := session.shown ++ [line] }

/-- Shows those lines that the filter keeps. -/
def tellAll (lines : List Log.Line) : Telling ε Unit :=
  lines.forM tell

/-- Works on the disk. -/
def work (operation : Disk → Except ε (α × Disk)) : Telling ε α := do
  match operation (← get).disk with
  | .error fault => throw fault
  | .ok (value, disk) =>
    modify fun session => { session with disk }
    return value

/-- Removes a staged file if what is to be done fails. -/
def discarding (staged : Staged) (action : Telling ε α) : Telling ε α :=
  tryCatch action fun fault => do
    modify fun session => { session with disk := session.disk.discard staged }
    throw fault

/-- Reports a fault in other words. -/
def reporting (report : ε → ε') (action : Telling ε α) : Telling ε' α :=
  fun filter => (action filter).adapt report

/-! ## The run -/

/-- Stages a file. -/
def stage (place : Place) (tables : Code.Tables) (paths : OutputPaths) (file : TableFile) :
    Telling WriteFault Staged := do
  let destination := paths.destination file
  let staged ← work fun disk =>
    (disk.stage destination (tables.text file).toByteArray).mapError (⟨file, destination, ·, true⟩)
  tell (stagedLine place tables paths file)
  return staged

/-- Moves a staged file to its destination. -/
def commit (paths : OutputPaths) (file : TableFile) (staged : Staged) :
    Telling WriteFault Unit :=
  let destination := paths.destination file
  work fun disk =>
    ((disk.commit staged destination).map ((), ·)).mapError (⟨file, destination, ·, false⟩)

/-- Writes the tables. -/
def writeTables (place : Place) (tables : Code.Tables) (paths : OutputPaths) :
    Telling WriteFault Unit := do
  let header ← stage place tables paths .header
  let source ← discarding header (stage place tables paths .source)
  discarding source (discarding header (commit paths .header header))
  discarding source (commit paths .source source)
  tell ⟨.info, .output, "wrote " ++ paths.header.shown ++ " and " ++ paths.source.shown⟩

/-- Loads the description of a dungeon. -/
def load (input : Path) : Telling Failure Dungeon := do
  let dungeon ← work fun disk => (AdventureTables.load disk input).map (·, disk)
  tell (loadedLine dungeon input)
  return dungeon

/-- Generates the tables. -/
def generate (dungeon : Dungeon) (paths : OutputPaths) : Telling ε Code.Tables := do
  tellAll (tableLines dungeon)
  return tablesFor dungeon paths

/-- Performs an invocation, warning of what `check` finds.  Gives what is printed,
or fails with a report. -/
def perform (place : Place) (check : Dungeon → List Problem) (invocation : Invocation) :
    Telling String String := do
  let input := invocation.input
  let paths := invocation.outputs
  tell (startLine input)
  let dungeon ← reporting (·.report place ("while loading " ++ input.shown)) (load input)
  tellAll ((check dungeon).map problemLine)
  let tables ← generate dungeon paths
  if invocation.toOutput then
    return tables.header ++ tables.source
  else
    reporting (fun fault => (Failure.write fault).report place "while writing generated tables")
      (writeTables place tables paths)
    tell (generatedLine dungeon)
    return ""

end Telling

/-- What is seen of a run from outside. -/
structure Observation where
  code : Nat
  output : String
  report : String
  shown : List Log.Line
  disk : Disk

/-- Under every filter an action comes to the same result and the same disk, and it
shows those of the lines that the filter keeps. -/
def Tells {ε α : Type} (action : Telling ε α) (disk : Disk) (result : Except ε α) (disk' : Disk)
    (lines : List Log.Line) : Prop :=
  ∀ filter shown, action filter ⟨disk, shown⟩ = (result, ⟨disk', shown ++ filter.apply lines⟩)

namespace Tells

open Telling

variable {ε ε' α β : Type} {disk middle disk' : Disk} {lines more : List Log.Line}

theorem bind_apply (first : Telling ε α) (next : α → Telling ε β) (filter : Log.Filter)
    (session : Session) :
    (first >>= next) filter session =
      match first filter session with
      | (.ok value, session) => next value filter session
      | (.error fault, session) => (.error fault, session) := by
  have h : (first >>= next) filter session =
      ExceptT.bindCont (fun value => next value filter) (first filter session).1
        (first filter session).2 := rfl
  rw [h]
  rcases first filter session with ⟨_ | _, _⟩ <;> rfl

/-- Lines that are told one after the other are kept one after the other. -/
theorem bind {first : Telling ε α} {next : α → Telling ε β} {value : α} {result : Except ε β}
    (hfirst : Tells first disk (.ok value) middle lines)
    (hnext : Tells (next value) middle result disk' more) :
    Tells (first >>= next) disk result disk' (lines ++ more) := by
  intro filter shown
  rw [bind_apply, hfirst]
  simpa [Log.Filter.apply] using hnext filter (shown ++ filter.apply lines)

/-- Nothing is done after a fault. -/
theorem bind_error {first : Telling ε α} {next : α → Telling ε β} {fault : ε}
    (hfirst : Tells first disk (.error fault) disk' lines) :
    Tells (first >>= next) disk (.error fault) disk' lines := by
  intro filter shown
  rw [bind_apply, hfirst]

theorem pure (value : α) : Tells (Pure.pure value : Telling ε α) disk (.ok value) disk [] := by
  intro filter shown
  simp only [Log.Filter.apply, List.filter_nil, List.append_nil]
  rfl

theorem tell (line : Log.Line) :
    Tells (Telling.tell line : Telling ε Unit) disk (.ok ()) disk [line] := by
  intro filter shown
  rw [Telling.tell, bind_apply]
  change (if filter.keeps line then _ else _ : Telling ε Unit) filter _ = _
  cases hkeeps : filter.keeps line <;> simp [Log.Filter.apply, hkeeps] <;> rfl

theorem tellAll (lines : List Log.Line) :
    Tells (Telling.tellAll lines : Telling ε Unit) disk (.ok ()) disk lines := by
  induction lines with
  | nil => exact Tells.pure ()
  | cons line lines ih => exact (Tells.tell line).bind ih

theorem work_apply (operation : Disk → Except ε (α × Disk)) (filter : Log.Filter)
    (session : Session) :
    work operation filter session =
      match operation session.disk with
      | .error fault => (.error fault, session)
      | .ok (value, disk) => (.ok value, { session with disk }) := by
  rw [work, bind_apply]
  change (match operation session.disk with
    | .error fault => throw fault
    | .ok (value, disk) => _ : Telling ε α) filter session = _
  cases operation session.disk <;> rfl

theorem work_ok {operation : Disk → Except ε (α × Disk)} {value : α}
    (h : operation disk = .ok (value, disk')) :
    Tells (work operation) disk (.ok value) disk' [] := by
  intro filter shown
  simp [work_apply, h, Log.Filter.apply]

theorem work_error {operation : Disk → Except ε (α × Disk)} {fault : ε}
    (h : operation disk = .error fault) : Tells (work operation) disk (.error fault) disk [] := by
  intro filter shown
  simp [work_apply, h, Log.Filter.apply]

theorem discarding_apply (staged : Staged) (action : Telling ε α) (filter : Log.Filter)
    (session : Session) :
    discarding staged action filter session =
      match action filter session with
      | (.ok value, session) => (.ok value, session)
      | (.error fault, session) =>
        (.error fault, { session with disk := session.disk.discard staged }) := by
  have h : discarding staged action filter session =
      (match (action filter session).1 with
        | .ok value => (Pure.pure (.ok value) : StateM Session (Except ε α))
        | .error fault => fun after =>
          (.error fault, { after with disk := after.disk.discard staged }))
        (action filter session).2 := rfl
  rw [h]
  rcases action filter session with ⟨_ | _, _⟩ <;> rfl

theorem discarding_ok {action : Telling ε α} {value : α} (staged : Staged)
    (h : Tells action disk (.ok value) disk' lines) :
    Tells (discarding staged action) disk (.ok value) disk' lines := by
  intro filter shown
  rw [discarding_apply, h]

/-- A fault costs the staged file. -/
theorem discarding_error {action : Telling ε α} {fault : ε} (staged : Staged)
    (h : Tells action disk (.error fault) disk' lines) :
    Tells (discarding staged action) disk (.error fault) (disk'.discard staged) lines := by
  intro filter shown
  rw [discarding_apply, h]

theorem reporting {action : Telling ε α} {result : Except ε α} (report : ε → ε')
    (h : Tells action disk result disk' lines) :
    Tells (Telling.reporting report action) disk (result.mapError report) disk' lines := by
  intro filter shown
  have happly : Telling.reporting report action filter ⟨disk, shown⟩ =
      ((action filter ⟨disk, shown⟩).1.mapError report, (action filter ⟨disk, shown⟩).2) := rfl
  rw [happly, h]

/-! ## What the run tells -/

section Run

variable {tables : Code.Tables} {paths : OutputPaths} {staged : Staged} {fault : DiskFault}
variable {input : Path} {dungeon : Dungeon}

theorem stage_ok (place : Place) (file : TableFile)
    (h : disk.stage (paths.destination file) (tables.text file).toByteArray =
      .ok (staged, disk')) :
    Tells (Telling.stage place tables paths file) disk (.ok staged) disk'
      [stagedLine place tables paths file] :=
  (work_ok (by simp [h, Except.mapError])).bind ((Tells.tell _).bind (Tells.pure staged))

theorem stage_error (place : Place) (file : TableFile)
    (h : disk.stage (paths.destination file) (tables.text file).toByteArray =
      .error fault) :
    Tells (Telling.stage place tables paths file) disk
      (.error ⟨file, paths.destination file, fault, true⟩) disk [] :=
  (work_error (by simp [h, Except.mapError])).bind_error

theorem commit_ok (file : TableFile)
    (h : disk.commit staged (paths.destination file) = .ok disk') :
    Tells (Telling.commit paths file staged) disk (.ok ()) disk' [] := by
  unfold Telling.commit
  exact work_ok (by simp [h, Except.map, Except.mapError])

theorem commit_error (file : TableFile)
    (h : disk.commit staged (paths.destination file) = .error fault) :
    Tells (Telling.commit paths file staged) disk
      (.error ⟨file, paths.destination file, fault, false⟩) disk [] := by
  unfold Telling.commit
  exact work_error (by simp [h, Except.map, Except.mapError])

/-- Writing the tables ends as it does without a log, and tells the lines up to
where it fails. -/
theorem writeTables (place : Place) (disk : Disk) (tables : Code.Tables) (paths : OutputPaths) :
    Tells (Telling.writeTables place tables paths) disk
      (AdventureTables.writeTables disk tables paths).1
      (AdventureTables.writeTables disk tables paths).2
      (writeLog place tables paths (AdventureTables.writeTables disk tables paths).1) := by
  have hrun : WriteRun disk tables paths (AdventureTables.writeTables disk tables paths) :=
    writeTables_run
  generalize AdventureTables.writeTables disk tables paths = result at hrun ⊢
  cases hrun with
  | headerUnstaged h => exact (stage_error place .header h).bind_error
  | @sourceUnstaged header _ _ hheader h =>
      have hfailed := (stage_error place .source h).discarding_error header
      exact (stage_ok place .header hheader).bind hfailed.bind_error
  | @headerUnmoved header source _ disk₂ _ hheader hsource h =>
      have hfailed := ((commit_error .header h).discarding_error header).discarding_error source
      have hdiscard : (disk₂.discard header).discard source =
          (disk₂.discard source).discard header := by
        simp only [Disk.discard, List.erase_comm header source]
      rw [← hdiscard]
      exact (stage_ok place .header hheader).bind
        (((stage_ok place .source hsource).discarding_ok header).bind hfailed.bind_error)
  | @sourceUnmoved header source _ _ _ _ hheader hsource hmoved h =>
      have hheaderMoved := ((commit_ok .header hmoved).discarding_ok header).discarding_ok source
      have hfailed := (commit_error .source h).discarding_error source
      exact (stage_ok place .header hheader).bind
        (((stage_ok place .source hsource).discarding_ok header).bind
          (hheaderMoved.bind hfailed.bind_error))
  | @written header source _ _ _ _ hheader hsource hmoved h =>
      have hheaderMoved := ((commit_ok .header hmoved).discarding_ok header).discarding_ok source
      have hsourceMoved := (commit_ok .source h).discarding_ok source
      exact (stage_ok place .header hheader).bind
        (((stage_ok place .source hsource).discarding_ok header).bind
          (hheaderMoved.bind (hsourceMoved.bind (Tells.tell _))))

theorem generate (dungeon : Dungeon) (paths : OutputPaths) :
    Tells (Telling.generate dungeon paths : Telling ε Code.Tables) disk
      (.ok (tablesFor dungeon paths)) disk (tableLines dungeon) := by
  rw [← List.append_nil (tableLines dungeon)]
  exact (Tells.tellAll _).bind (Tells.pure (tablesFor dungeon paths))

end Run

end Tells

/-! ## The whole run -/

/-- What came of writing the tables, or success if there were none to write. -/
def written (disk : Disk) (invocation : Invocation) : Except WriteFault Unit :=
  match tablesToWrite invocation (load disk invocation.input) with
  | none => .ok ()
  | some tables => (writeTables disk tables invocation.outputs).1

/-- What an ending comes to: what is printed, or a report. -/
def Ending.outcome (ending : Ending) : Except String String :=
  if ending.code = 0 then .ok ending.output else .error ending.report

section Run

variable (place : Place) (check : Dungeon → List Problem) (invocation : Invocation) (disk : Disk)

end Run

end AdventureTables
