import AdventureTables.Dungeon.Document
import AdventureTables.Program.Output
import AdventureTables.Text.Quoted
/-!
# How a run fails

A description cannot be read, or does not describe a dungeon, or a table cannot
be written.  A failure is reported with what the program was doing, what went
wrong and why.
-/

namespace AdventureTables

/-- The reason for a fault of the disk, as the operating system words it. -/
def DiskFault.message : DiskFault → String
  | .notFound => "No such file or directory (os error 2)"
  | .notADirectory => "Not a directory (os error 20)"
  | .isADirectory => "Is a directory (os error 21)"
  | .nameTooLong => "File name too long (os error 36)"
  | .busy => "Device or resource busy (os error 16)"
  | .invalidPath => "file name contained an unexpected NUL byte"
  | .notText => "stream did not contain valid UTF-8"
  | .alreadyExists => "File exists (os error 17)"
  | .other reason => reason

/-- Why a dungeon is not compiled. -/
inductive Failure where
  | read (path : Path) (fault : DiskFault)
  | parse (fault : DescriptionFault)
  | write (fault : WriteFault)
  deriving Repr

/-- What went wrong. -/
def Failure.message : Failure → String
  | .read path _ => "unable to read '" ++ path.shown ++ "'"
  | .parse fault => "malformed dungeon description: " ++ fault.message
  | .write fault => "unable to write '" ++ fault.destination.shown ++ "'"

/-- Why it went wrong. -/
def Failure.reason (place : Place) : Failure → String
  | .read _ fault => fault.message
  | .parse fault => fault.message
  | .write ⟨file, destination, fault, staging⟩ =>
    if staging then
      fault.message ++ " at path " ++ Text.quotedPath (place.stagedPath file destination).octets
    else fault.message

/-- A text with its further lines indented under the first one. -/
def hanging (text : String) : String :=
  String.ofList (text.toList.flatMap fun c => if c = '\n' then "\n       ".toList else [c])

/-- The report of a failure; `doing` says what the program was doing. -/
def Failure.report (place : Place) (doing : String) (failure : Failure) : String :=
  "Error: " ++ doing ++ "\n\nCaused by:\n    0: " ++ hanging failure.message ++
    "\n    1: " ++ hanging (failure.reason place) ++ "\n"

end AdventureTables
