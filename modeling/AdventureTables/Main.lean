import AdventureTables.Program.Run
/-!
# The program

Carries out on the files of the machine what `settle`, `tablesToWrite` and
`ending` decide.  The order of the steps of a writing is that of `writeTables`.

The environment holds the setting of the log, whose lines are all put out when
the run is over.  The permission bits of a file cannot be asked for here, so a
file that is replaced gets those of a new one.
-/

namespace AdventureTables.Main

/-- A fault of the machine's disk: by its number, if it is one that a `Disk`
has too.  Some calls give the number negated. -/
def faultOf (number : UInt32) (reason : String) : DiskFault :=
  match (min number (0 - number)).toNat with
  | 2 => .notFound
  | 16 => .busy
  | 17 => .alreadyExists
  | 20 => .notADirectory
  | 21 => .isADirectory
  | 36 => .nameTooLong
  | number => .other (reason ++ " (os error " ++ toString number ++ ")")

/-- The fault behind an error. -/
def fault : IO.Error → DiskFault
  | .alreadyExists _ number reason | .otherError number reason | .resourceBusy number reason
  | .resourceVanished number reason | .unsupportedOperation number reason
  | .hardwareFault number reason | .unsatisfiedConstraints number reason
  | .illegalOperation number reason | .protocolError number reason | .timeExpired number reason
  | .interrupted _ number reason | .noFileOrDirectory _ number reason
  | .invalidArgument _ number reason | .permissionDenied _ number reason
  | .resourceExhausted _ number reason | .inappropriateType _ number reason
  | .noSuchThing _ number reason => faultOf number reason
  | .unexpectedEof => .other "unexpected end of file"
  | .userError reason => .other reason

/-- What an action gives, or its fault. -/
def attempt {α : Type} (action : IO α) : IO (Except DiskFault α) := do
  return (← action.toBaseIO).mapError fault

/-- An action of which it does not matter whether it works. -/
def ignoringFaults (action : IO Unit) : IO Unit := do
  let _ ← attempt action

/-- The dungeon that a file describes. -/
def load (path : Path) : IO (Except Failure Dungeon) := do
  match ← attempt (IO.FS.readBinFile path.shown) with
  | .error fault => return .error (.read path fault)
  | .ok content =>
    match Utf8.text? content with
    | none => return .error (.read path .notText)
    | some text => return (Dungeon.parse text).mapError .parse

/-- The rights to a new file. -/
def newFileRights : IO.FileRight where
  user := { read := true, write := true }
  group := { read := true }
  other := { read := true }

/-- The letters and digits that random names are made of. -/
def nameLetters : Array Char :=
  "abcdefghijklmnopqrstuvwxyzABCDEFGHIJKLMNOPQRSTUVWXYZ0123456789".toList.toArray

/-- Six letters that nobody can guess. -/
def randomSuffix : IO String := do
  let octets ← IO.getRandomBytes 6
  return String.ofList (octets.toList.map fun octet =>
    nameLetters.getD (octet.toNat % nameLetters.size) 'a')

/-- Stages a file: writes it to the place where it is staged. -/
def stage (place : Place) (tables : Code.Tables) (paths : OutputPaths) (file : TableFile) :
    IO (Except WriteFault Unit) := do
  let destination := paths.destination file
  let staged := (place.stagedPath file destination).shown
  match ← attempt (IO.FS.Handle.mk staged .writeNew) with
  | .error fault => return .error ⟨file, destination, fault, true⟩
  | .ok handle =>
    match ← attempt (do
        handle.write (tables.text file).toByteArray
        handle.flush
        IO.setAccessRights staged newFileRights) with
    | .ok () => return .ok ()
    | .error fault =>
      ignoringFaults (IO.FS.removeFile staged)
      return .error ⟨file, destination, fault, true⟩

/-- Removes a staged file. -/
def discard (place : Place) (paths : OutputPaths) (file : TableFile) : IO Unit :=
  ignoringFaults (IO.FS.removeFile (place.stagedPath file (paths.destination file)).shown)

/-- Moves a staged file to its destination. -/
def commit (place : Place) (paths : OutputPaths) (file : TableFile) :
    IO (Except WriteFault Unit) := do
  let destination := paths.destination file
  let staged := (place.stagedPath file destination).shown
  match ← attempt (IO.FS.rename staged destination.shown) with
  | .ok () => return .ok ()
  | .error fault =>
    discard place paths file
    return .error ⟨file, destination, fault, false⟩

/-- Writes the tables. -/
def writeTables (place : Place) (tables : Code.Tables) (paths : OutputPaths) :
    IO (Except WriteFault Unit) := do
  match ← stage place tables paths .header with
  | .error fault => return .error fault
  | .ok () =>
    match ← stage place tables paths .source with
    | .error fault =>
      discard place paths .header
      return .error fault
    | .ok () =>
      match ← commit place paths .header with
      | .error fault =>
        discard place paths .source
        return .error fault
      | .ok () => commit place paths .source

/-- Performs an invocation. -/
def perform (invocation : Invocation) : IO Ending := do
  let (headerSuffix, sourceSuffix) := (← randomSuffix, ← randomSuffix)
  let place : Place :=
    { current := .ofText (← IO.currentDir).toString
      suffix := fun
        | .header => headerSuffix
        | .source => sourceSuffix }
  let loaded ← load invocation.input
  let written ←
    match tablesToWrite invocation loaded with
    | none => pure (.ok ())
    | some tables => writeTables place tables invocation.outputs
  return ending place invocation loaded written

end AdventureTables.Main

open AdventureTables in
/-- Runs the program: the log and the report of a failure go to the error
output. -/
def main (arguments : List String) : IO UInt32 := do
  let ending ←
    match settle (CommandLine.read (arguments.map Utf8.octets)) with
    | .error ending => pure ending
    | .ok invocation => Main.perform invocation
  for line in ending.shownLog (← IO.getEnv "RUST_LOG") do
    IO.eprintln line.text
  IO.print ending.output
  IO.eprint ending.report
  return UInt32.ofNat ending.code
