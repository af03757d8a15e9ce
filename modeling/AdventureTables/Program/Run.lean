import AdventureTables.Dungeon.Problem
import AdventureTables.Program.CommandLine
import AdventureTables.Program.Failure
/-!
# A run of the program

The program reads a dungeon description, warns of problems with identifiers,
generates the tables and writes them, or prints them if asked to.  A run is a
function of the disk and the command line; it gives a new disk and an ending,
which is an exit code, what was printed and the lines of the log.  The log is
kept whole here, for nothing else depends on which of its lines are asked for.
-/

namespace AdventureTables

/-- The dungeon that a file describes. -/
def load (disk : Disk) (path : Path) : Except Failure Dungeon := do
  let text ← (disk.readText path).mapError (.read path)
  (Dungeon.parse text).mapError .parse

/-- The tables of a dungeon, for the paths they are written to. -/
def tablesFor (dungeon : Dungeon) (paths : OutputPaths) : Code.Tables :=
  Code.tables dungeon paths.includeName

/-- Reads a description and writes its tables.  Gives the problems with the
identifiers. -/
def compile (disk : Disk) (input : Path) (outputs : OutputPaths) :
    Except Failure (List Problem) × Disk :=
  match load disk input with
  | .error failure => (.error failure, disk)
  | .ok dungeon =>
    match writeTables disk (tablesFor dungeon outputs) outputs with
    | (.error fault, disk) => (.error (.write fault), disk)
    | (.ok (), disk) => (.ok dungeon.problems, disk)

/-! ## The log of a run -/

/-- The log line about the start. -/
def startLine (input : Path) : Log.Line :=
  ⟨.info, .main, "Start: loading dungeon from " ++ input.shown⟩

/-- The log line about a description that was read. -/
def loadedLine (dungeon : Dungeon) (input : Path) : Log.Line :=
  ⟨.info, .loader, "loaded " ++ toString dungeon.locations.length ++ " locations, " ++
    toString dungeon.objectDescriptions.length ++ " object descriptions and " ++
    toString dungeon.obituaries.length ++ " obituaries from " ++ input.shown⟩

/-- The log line about a problem. -/
def problemLine (problem : Problem) : Log.Line :=
  ⟨.warn, .main, problem.message⟩

/-- The log lines about the tables. -/
def tableLines (dungeon : Dungeon) : List Log.Line :=
  (Code.messages dungeon).map (fun (name, entries) =>
      line ("emitting " ++ toString entries.length ++ " entries for " ++ name)) ++
    [line ("emitting " ++ toString dungeon.locations.length ++ " locations"),
      line ("emitting " ++ toString dungeon.objectDescriptions.length ++ " object descriptions"),
      line ("emitting " ++ toString dungeon.obituaries.length ++ " obituaries")]
where
  /-- A line about the tables. -/
  line (message : String) : Log.Line := ⟨.debug, .emit, message⟩

/-- The log line about the end. -/
def generatedLine (dungeon : Dungeon) : Log.Line :=
  ⟨.info, .main, "generated " ++ toString dungeon.classCount ++ " class messages and " ++
    toString dungeon.maximumDeaths ++ " obituaries"⟩

/-! ## The run -/

/-- What a run leaves behind besides files: an exit code, what it printed, the
report of a failure and the log. -/
structure Ending where
  code : Nat
  output : String
  report : String
  log : List Log.Line
  deriving DecidableEq, Repr

/-- The tables that a run writes, by what came of loading the description. -/
def tablesToWrite (invocation : Invocation) : Except Failure Dungeon → Option Code.Tables
  | .error _ => none
  | .ok dungeon =>
    if invocation.toOutput then none else some (tablesFor dungeon invocation.outputs)

/-- The log lines of a run whose description was read, before it writes. -/
def linesBeforeWriting (dungeon : Dungeon) (input : Path) : List Log.Line :=
  startLine input :: loadedLine dungeon input ::
    (dungeon.problems.map problemLine ++ tableLines dungeon)

/-- How a run ends, by what came of loading the description and of writing the
tables, if there were tables to write. -/
def ending (place : Place) (invocation : Invocation) (loaded : Except Failure Dungeon)
    (written : Except WriteFault Unit) : Ending :=
  let input := invocation.input
  let paths := invocation.outputs
  match loaded with
  | .error failure =>
    { code := 1
      output := ""
      report := failure.report place ("while loading " ++ input.shown)
      log := [startLine input] }
  | .ok dungeon =>
    let tables := tablesFor dungeon paths
    let log := linesBeforeWriting dungeon input
    if invocation.toOutput then
      { code := 0, output := tables.header ++ tables.source, report := "", log }
    else
      let log := log ++ writeLog place tables paths written
      match written with
      | .error fault =>
        { code := 1
          output := ""
          report := (Failure.write fault).report place "while writing generated tables"
          log }
      | .ok () => { code := 0, output := "", report := "", log := log ++ [generatedLine dungeon] }

/-- A run that does as it is told: how it ends, and the disk it leaves. -/
def perform (place : Place) (disk : Disk) (invocation : Invocation) : Ending × Disk :=
  let loaded := load disk invocation.input
  match tablesToWrite invocation loaded with
  | none => (ending place invocation loaded (.ok ()), disk)
  | some tables =>
    let (written, disk) := writeTables disk tables invocation.outputs
    (ending place invocation loaded written, disk)

/-- How a run ends that has nothing to do, or the invocation that is to be
performed. -/
def settle : Request → Except Ending Invocation
  | .run invocation => .ok invocation
  | .help => .error { code := 0, output := CommandLine.helpText, report := "", log := [] }
  | .version => .error { code := 0, output := CommandLine.versionText, report := "", log := [] }
  | .misuse => .error { code := 2, output := "", report := "", log := [] }

/-- A run with a command line. -/
def run (place : Place) (disk : Disk) (arguments : List CommandLine.Argument) : Ending × Disk :=
  match settle (CommandLine.read arguments) with
  | .error ending => (ending, disk)
  | .ok invocation => perform place disk invocation

/-- The lines of the log that are shown under a setting, which is the text of a
filter.  Without a setting only errors are shown, as with an empty one. -/
def Ending.shownLog (ending : Ending) (setting : Option String) : List Log.Line :=
  (Log.Filter.ofText (setting.getD "")).apply ending.log

end AdventureTables
