import AdventureTables.Code.Tables
import AdventureTables.Files.Disk
import AdventureTables.Program.Log
/-!
# Writing the tables

The two generated files are staged next to their destinations first, and moved
there only when both are staged.  So the tables of an earlier run stay as they
are unless both new files could be written; only a destination that cannot be
replaced at the last moment leaves one new file beside one old.

The header is dealt with before the source file in both steps.  What was
staged and not moved is removed.
-/

namespace AdventureTables

/-- Where the tables are written. -/
structure OutputPaths where
  header : Path
  source : Path
  deriving DecidableEq, Repr

namespace OutputPaths

/-- The name of the header where nothing else is asked for. -/
def defaultHeader : String := "newdb.h"

/-- The name of the source file where nothing else is asked for. -/
def defaultSource : String := "newdb.c"

/-- Where the tables are written if nothing else is asked for. -/
def standard : OutputPaths :=
  ⟨.ofText defaultHeader, .ofText defaultSource⟩

/-- The name by which the source file includes the header: its last name, as it
is shown, or the usual name if it has none. -/
def includeName (paths : OutputPaths) : String :=
  match paths.header.fileName? with
  | some name => Utf8.lossy name
  | none => defaultHeader

/-- Whether two pairs of paths name the same places. -/
def same (paths others : OutputPaths) : Bool :=
  paths.header.components = others.header.components &&
    paths.source.components = others.source.components

end OutputPaths

/-- One of the two files that are written. -/
inductive TableFile where
  | header
  | source
  deriving DecidableEq, Repr

/-- Where a file is written. -/
def OutputPaths.destination (paths : OutputPaths) : TableFile → Path
  | .header => paths.header
  | .source => paths.source

/-- The text of a file. -/
def Code.Tables.text (tables : Code.Tables) : TableFile → String
  | .header => tables.header
  | .source => tables.source

/-- How staged files are shown: where the program works, and what the name of
each staged file ends in. -/
structure Place where
  current : Path
  suffix : TableFile → String

/-- The path of a staged file as it is shown. -/
def Place.stagedPath (place : Place) (file : TableFile) (destination : Path) : Path :=
  place.current.staged destination (place.suffix file)

/-- A file could not be written: which one, where to, why, and whether it could
not even be staged. -/
structure WriteFault where
  file : TableFile
  destination : Path
  fault : DiskFault
  staging : Bool
  deriving DecidableEq, Repr

/-- Writes the tables. -/
def writeTables (disk : Disk) (tables : Code.Tables) (paths : OutputPaths) :
    Except WriteFault Unit × Disk :=
  match disk.stage paths.header tables.header.toByteArray with
  | .error fault => (.error ⟨.header, paths.header, fault, true⟩, disk)
  | .ok (header, disk) =>
    match disk.stage paths.source tables.source.toByteArray with
    | .error fault => (.error ⟨.source, paths.source, fault, true⟩, disk.discard header)
    | .ok (source, disk) =>
      match disk.commit header paths.header with
      | .error fault =>
        (.error ⟨.header, paths.header, fault, false⟩, (disk.discard source).discard header)
      | .ok disk =>
        match disk.commit source paths.source with
        | .error fault => (.error ⟨.source, paths.source, fault, false⟩, disk.discard source)
        | .ok disk => (.ok (), disk)

/-- The log line about a staged file. -/
def stagedLine (place : Place) (tables : Code.Tables) (paths : OutputPaths) (file : TableFile) :
    Log.Line :=
  let destination := paths.destination file
  ⟨.debug, .output, "staged " ++ toString (tables.text file).toByteArray.size ++ " bytes for " ++
    destination.shown ++ " at " ++ (place.stagedPath file destination).shown⟩

/-- The files that are staged when the writing ends. -/
def stagedFiles : Except WriteFault Unit → List TableFile
  | .error ⟨.header, _, _, true⟩ => []
  | .error ⟨.source, _, _, true⟩ => [.header]
  | _ => [.header, .source]

/-- The log lines about writing the tables, up to where it failed. -/
def writeLog (place : Place) (tables : Code.Tables) (paths : OutputPaths)
    (result : Except WriteFault Unit) : List Log.Line :=
  (stagedFiles result).map (stagedLine place tables paths) ++
    match result with
    | .ok () =>
      [⟨.info, .output, "wrote " ++ paths.header.shown ++ " and " ++ paths.source.shown⟩]
    | .error _ => []

end AdventureTables
