import AdventureTables.Program.Run
import AdventureTables.Proofs.Files.Replacing
/-!
# Printing the tables, and writing them

A run loads the description before it does anything else, so a description that
cannot be loaded leaves the disk alone whatever else was asked for.  A run that
loads it either prints the tables or writes them, and both are the tables for
the same paths: the run that prints only looks at its output paths to name the
header.

Two command lines that ask for the same, one for files and one for the standard
output, thus come to the same text: the one prints what the other leaves in two
files, unless these are one.  Every command line for files has such a partner,
the same one behind `--stdout` (`CommandLine.read_outputFlag_cons`).  This is
seen from `CommandLine.Asks`, which lists the ways in which a command line goes
on when nothing is wrong with it.
-/

namespace AdventureTables

/-! ## The flag for the standard output -/

namespace CommandLine

variable {options : Options} {arguments : List Argument} {invocation : Invocation}

/-- The argument that sends the tables to the standard output. -/
def outputFlag : Argument :=
  Utf8.octets "--stdout"

/-- How a command line asks for a run, when some options were read already. -/
inductive Asks : Options → List Argument → Invocation → Prop
  | done {options : Options} : Asks options [] options.invocation
  | ended {options : Options} : Asks options [[dash, dash]] options.invocation
  | flag {options : Options} {argument : Argument} {rest : List Argument} {invocation : Invocation}
      (hargument : readArgument argument = .toOutput) (hnew : options.toOutput = false)
      (h : Asks { options with toOutput := true } rest invocation) :
      Asks options (argument :: rest) invocation
  | given {options options' : Options} {argument value : Argument} {rest : List Argument}
      {option : ValueOption} {invocation : Invocation}
      (hargument : readArgument argument = .given option value)
      (hadd : options.add? option value = some options') (h : Asks options' rest invocation) :
      Asks options (argument :: rest) invocation
  | awaited {options options' : Options} {argument value : Argument} {rest : List Argument}
      {option : ValueOption} {invocation : Invocation}
      (hargument : readArgument argument = .awaiting option)
      (hvalue : looksLikeOption value = false)
      (hadd : options.add? option value = some options') (h : Asks options' rest invocation) :
      Asks options (argument :: value :: rest) invocation

theorem readArgument_ne_run {argument : Argument} :
    readArgument argument ≠ .answer (.run invocation) := by
  unfold readArgument readLong readShort
  grind

theorem ne_dashes_of_readArgument {argument : Argument} {reading : Reading}
    (h : readArgument argument = reading) (hreading : reading ≠ .answer .misuse) :
    argument ≠ [dash, dash] := by
  rintro rfl
  exact hreading (h.symm.trans rfl)

/-- A command line is read to a run in one of these ways. -/
theorem readOptions_eq_run_iff :
    readOptions options arguments = .run invocation ↔ Asks options arguments invocation := by
  constructor
  · intro h
    fun_induction readOptions options arguments with
    | case1 options => exact Request.run.inj h ▸ .done
    | case2 options rest hrest =>
        obtain rfl := List.isEmpty_iff.mp hrest
        exact Request.run.inj h ▸ .ended
    | case4 options argument rest _ request hargument =>
        subst h
        exact absurd hargument readArgument_ne_run
    | case6 options argument rest _ hargument hnew ih =>
        exact .flag hargument (Bool.eq_false_iff.mpr hnew) (ih h)
    | case8 options argument rest _ option value hargument options' hadd ih =>
        exact .given hargument hadd (ih h)
    | case12 options argument _ option hargument value rest hvalue options' hadd ih =>
        exact .awaited hargument (Bool.eq_false_iff.mpr hvalue) hadd (ih h)
    -- The other ways to go on end in the news that the command line is wrong.
    | _ => cases h
  · intro h
    induction h with
    | done => rfl
    | ended => rfl
    | flag hargument hnew _ ih =>
        have hne := ne_dashes_of_readArgument hargument (by simp)
        simp [readOptions, hne, hargument, hnew, ih]
    | given hargument hadd _ ih =>
        have hne := ne_dashes_of_readArgument hargument (by simp)
        simp [readOptions, hne, hargument, hadd, ih]
    | awaited hargument hvalue hadd _ ih =>
        have hne := ne_dashes_of_readArgument hargument (by simp)
        simp [readOptions, hne, hargument, hvalue, hadd, ih]

/-- An option with a value is taken whether the flag was given or not. -/
theorem add?_eq_some_iff {options' : Options} {option : ValueOption} {value : Argument} :
    options.add? option value = some options' ↔
      value ≠ [] ∧ options.values.lookup option = none ∧
        options' = { options with values := (option, ⟨value⟩) :: options.values } := by
  unfold Options.add?
  cases hlookup : options.values.lookup option with
  | some path => simp
  | none => by_cases hvalue : value = [] <;> simp [hvalue, eq_comm]

/-- A flag that was given is never taken back. -/
theorem Asks.toOutput (h : Asks options arguments invocation) (hflag : options.toOutput = true) :
    invocation.toOutput = true := by
  induction h with
  | done => exact hflag
  | ended => exact hflag
  | flag _ _ _ ih => exact ih rfl
  | given _ hadd _ ih =>
      obtain ⟨-, -, rfl⟩ := add?_eq_some_iff.mp hadd
      exact ih hflag
  | awaited _ _ hadd _ ih =>
      obtain ⟨-, -, rfl⟩ := add?_eq_some_iff.mp hadd
      exact ih hflag

/-- A command line for files is one for the standard output once the flag is
given before it. -/
theorem Asks.flagged (h : Asks options arguments invocation)
    (hfiles : invocation.toOutput = false) :
    Asks { options with toOutput := true } arguments { invocation with toOutput := true } := by
  induction h with
  | done => exact .done
  | ended => exact .ended
  | flag _ _ hrest =>
      -- The flag is never taken back, so this was no command line for files.
      have hflag := hrest.toOutput rfl
      simp [hfiles] at hflag
  | given hargument hadd _ ih =>
      obtain ⟨hvalue, hnew, rfl⟩ := add?_eq_some_iff.mp hadd
      exact .given hargument (add?_eq_some_iff.mpr ⟨hvalue, hnew, rfl⟩) (ih hfiles)
  | awaited hargument hlooks hadd _ ih =>
      obtain ⟨hvalue, hnew, rfl⟩ := add?_eq_some_iff.mp hadd
      exact .awaited hargument hlooks (add?_eq_some_iff.mpr ⟨hvalue, hnew, rfl⟩) (ih hfiles)

/-- The flag may be put before any command line for files. -/
theorem read_outputFlag_cons (h : read arguments = .run invocation)
    (hfiles : invocation.toOutput = false) :
    read (outputFlag :: arguments) = .run { invocation with toOutput := true } := by
  have hasks : Asks ⟨[], false⟩ arguments invocation := readOptions_eq_run_iff.mp h
  exact readOptions_eq_run_iff.mpr (.flag rfl rfl (hasks.flagged hfiles))

end CommandLine

/-! ## Runs -/

section Run

variable {place : Place} {disk disk' : Disk} {arguments : List CommandLine.Argument}
variable {invocation : Invocation} {dungeon : Dungeon}

theorem run_eq_perform (h : CommandLine.read arguments = .run invocation) :
    run place disk arguments = perform place disk invocation := by
  simp [run, h, settle]

/-- A description that cannot be loaded ends the run before it touches the
disk. -/
theorem perform_of_load_error {failure : Failure}
    (h : load disk invocation.input = .error failure) :
    ∃ ending, perform place disk invocation = (ending, disk) ∧
      ending.code = 1 ∧ ending.output = "" := by
  refine ⟨_, by simp [perform, h, tablesToWrite]; rfl, ?_⟩
  simp [ending]

/-- A run for the standard output prints the tables and leaves the disk
alone. -/
theorem perform_printing (h : load disk invocation.input = .ok dungeon)
    (hprints : invocation.toOutput = true) :
    ∃ ending, perform place disk invocation = (ending, disk) ∧ ending.code = 0 ∧
      ending.output = (tablesFor dungeon invocation.outputs).header ++
        (tablesFor dungeon invocation.outputs).source := by
  refine ⟨_, by simp [perform, h, tablesToWrite, hprints]; rfl, ?_⟩
  simp [ending, hprints]

/-- A run for files prints nothing.  It leaves what writing the tables leaves,
and succeeds exactly if that does. -/
theorem perform_writing {written : Except WriteFault Unit}
    (h : load disk invocation.input = .ok dungeon) (hfiles : invocation.toOutput = false)
    (hwritten : writeTables disk (tablesFor dungeon invocation.outputs) invocation.outputs =
      (written, disk')) :
    ∃ ending, perform place disk invocation = (ending, disk') ∧
      (ending.code = 0 ↔ written = .ok ()) ∧ ending.output = "" := by
  have htables : tablesToWrite invocation (load disk invocation.input) =
      some (tablesFor dungeon invocation.outputs) := by
    simp [tablesToWrite, h, hfiles]
  refine ⟨_, by simp only [perform, htables, hwritten]; rfl, ?_⟩
  cases written with
  | error fault => simp [ending, h, hfiles]
  | ok _ => simp [ending, h, hfiles]

/-- Two files that were written hold the two tables, one after the other. -/
theorem read_both_of_written {tables : Code.Tables} {paths : OutputPaths}
    (h : writeTables disk tables paths = (.ok (), disk'))
    (hapart : disk'.locate paths.header ≠ disk'.locate paths.source) :
    ∃ header source, disk'.read paths.header = .ok header ∧
      disk'.read paths.source = .ok source ∧
      header ++ source = (tables.header ++ tables.source).toByteArray := by
  obtain ⟨header, source, hheader, hsource, hdisk⟩ := written_eq h
  obtain ⟨hfirst, hsecond⟩ := replaced_put_put hheader hsource hdisk
  have hne : header ≠ source := by
    rintro rfl
    exact hapart (hfirst.locate.trans hsecond.locate.symm)
  rw [if_neg hne] at hfirst
  refine ⟨_, _, hfirst.read, hsecond.read, ?_⟩
  simp

/-- **Printing and writing.**  A description that cannot be loaded ends the run
with code 1, without output and without a change to the disk.  If it is loaded,
a run for the standard output succeeds, prints the header and the source file
that are generated for the paths of the run, and does not change the disk.
A run for files that succeeds with two different files prints nothing, and the
files together hold what any run for the standard output prints, such as the
one whose command line begins with the flag. -/
theorem run_prints_what_it_writes (place : Place) (disk : Disk)
    (hread : CommandLine.read arguments = .run invocation) :
    (∀ failure, load disk invocation.input = .error failure →
      ∃ ending, run place disk arguments = (ending, disk) ∧
        ending.code = 1 ∧ ending.output = "") ∧
    ∀ dungeon, load disk invocation.input = .ok dungeon →
      (invocation.toOutput = true →
        ∃ ending, run place disk arguments = (ending, disk) ∧ ending.code = 0 ∧
          ending.output = (Code.tables dungeon invocation.outputs.includeName).header ++
            (Code.tables dungeon invocation.outputs.includeName).source) ∧
      (invocation.toOutput = false →
        CommandLine.read (CommandLine.outputFlag :: arguments) =
          .run { invocation with toOutput := true } ∧
        ∀ ending disk', run place disk arguments = (ending, disk') → ending.code = 0 →
          disk'.locate invocation.outputs.header ≠ disk'.locate invocation.outputs.source →
          ending.output = "" ∧ ∃ header source,
            disk'.read invocation.outputs.header = .ok header ∧
            disk'.read invocation.outputs.source = .ok source ∧
            ∀ printing place',
              CommandLine.read printing = .run { invocation with toOutput := true } →
              header ++ source = (run place' disk printing).1.output.toByteArray) := by
  rw [run_eq_perform hread]
  refine ⟨fun failure => perform_of_load_error, fun dungeon hload => ⟨perform_printing hload, ?_⟩⟩
  intro hfiles
  refine ⟨CommandLine.read_outputFlag_cons hread hfiles, ?_⟩
  intro ending disk' hrun hcode hapart
  rcases hwritten : writeTables disk (tablesFor dungeon invocation.outputs) invocation.outputs
    with ⟨written, after⟩
  obtain ⟨_, hperform, hsuccess, houtput⟩ := perform_writing hload hfiles hwritten
  obtain ⟨rfl, rfl⟩ := Prod.mk.inj (hperform.symm.trans hrun)
  rw [hsuccess.mp hcode] at hwritten
  obtain ⟨header, source, hheader, hsource, hboth⟩ := read_both_of_written hwritten hapart
  refine ⟨houtput, header, source, hheader, hsource, ?_⟩
  intro printing place' hprinting
  have hload' : load disk { invocation with toOutput := true }.input = .ok dungeon := hload
  obtain ⟨printed, hprinted, -, htext⟩ := perform_printing hload' rfl
  rw [run_eq_perform hprinting, hprinted, htext, hboth]

end Run

/-- A disk with a description where it is looked for. -/
def describedDisk (description : String) : Disk :=
  Disk.put ⟨∅, [], []⟩ [Utf8.octets "adventure.yaml"] (.file description.toByteArray 0o644)

theorem load_describedDisk (description : String) :
    load (describedDisk description) (.ofText "adventure.yaml") =
      (Dungeon.parse description).mapError .parse := by
  have hread : (describedDisk description).read (.ofText "adventure.yaml") =
      .ok description.toByteArray := by rfl
  simp [load, Disk.readText, hread, Utf8.text?_toByteArray, bind, Except.bind, pure, Except.pure,
    Except.mapError]

/-- The description of a dungeon with one class. -/
def oneClass : String :=
  "\x7barbitrary_messages: ,class_messages: [A: Hi],turn_threshold_messages: ,locations: ," ++
    "object_descriptions: ,obituaries: \x7d"

theorem parse_oneClass :
    Dungeon.parse oneClass = .ok ⟨[], [⟨"A", some "Hi"⟩], [], [], [], []⟩ :=
  toOption_eq_some_iff.mp (by decide +kernel)

/-- Nothing is in the way of the tables there. -/
theorem writeTables_describedDisk (description : String) (tables : Code.Tables) :
    ∃ disk', writeTables (describedDisk description) tables .standard = (.ok (), disk') ∧
      disk'.locate (.ofText "newdb.h") = .ok [Utf8.octets "newdb.h"] ∧
      disk'.locate (.ofText "newdb.c") = .ok [Utf8.octets "newdb.c"] :=
  ⟨_, rfl, rfl, rfl⟩

/-- A run without arguments writes two files, and with the flag it prints
them. -/
theorem run_oneClass :
    CommandLine.read [] = .run ⟨.ofText "adventure.yaml", .standard, false⟩ ∧
    ∀ place, ∃ ending disk' header source,
      run place (describedDisk oneClass) [] = (ending, disk') ∧
      ending.code = 0 ∧ ending.output = "" ∧
      disk'.read (.ofText "newdb.h") = .ok header ∧ disk'.read (.ofText "newdb.c") = .ok source ∧
      header ++ source =
        (run place (describedDisk oneClass) [CommandLine.outputFlag]).1.output.toByteArray := by
  have hread : CommandLine.read [] = .run ⟨.ofText "adventure.yaml", .standard, false⟩ := by rfl
  refine ⟨hread, fun place => ?_⟩
  have hload := load_describedDisk oneClass
  rw [parse_oneClass] at hload
  obtain ⟨hflag, hboth⟩ := ((run_prints_what_it_writes place _ hread).2 _ hload).2 rfl
  obtain ⟨disk', hwritten, hheader, hsource⟩ := writeTables_describedDisk oneClass _
  have hwrites : ∃ ending, run place (describedDisk oneClass) [] = (ending, disk') ∧
      (ending.code = 0 ↔ (Except.ok () : Except WriteFault Unit) = .ok ()) ∧
      ending.output = "" := by
    rw [run_eq_perform hread]
    exact perform_writing hload rfl hwritten
  obtain ⟨ending, hrun, hcode, -⟩ := hwrites
  have hapart : disk'.locate (.ofText "newdb.h") ≠ disk'.locate (.ofText "newdb.c") := by
    rw [hheader, hsource]
    decide
  obtain ⟨houtput, header, source, hheader, hsource, hsame⟩ :=
    hboth ending disk' hrun (hcode.mpr rfl) hapart
  exact ⟨ending, disk', header, source, hrun, hcode.mpr rfl, houtput, hheader, hsource,
    hsame _ place hflag⟩

end AdventureTables
