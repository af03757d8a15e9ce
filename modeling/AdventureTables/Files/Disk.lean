import AdventureTables.Files.Path
import Std.Data.ExtTreeMap
/-!
# Directories and files

A disk holds files and directories at positions, and a position is the list of
the names that lead to it from the root.  Two disks with the same things at
the same positions are equal.  A program works in one of the directories, from
where its paths start.

Files that are being staged lie in a directory under names nobody else has or
can guess, and are kept apart from the rest: nothing but their owner ever
reaches them, and a staged file that is removed leaves no trace.

Every operation gives its result or a fault.  One that fails changes nothing,
but for the making of directories, which stops where it cannot go on.
-/

namespace AdventureTables

-- Contents are compared as the core library does, whatever else is imported.
attribute [local instance(high)] ByteArray.instDecidableEq

/-- A place on a disk, as the names that lead there from the root. -/
abbrev Position := List Name

/-- What lies at a position, with its permission bits. -/
inductive Node where
  | file (content : ByteArray) (mode : Nat)
  | directory (mode : Nat)
  deriving DecidableEq

/-- The permission bits of a node. -/
def Node.mode : Node → Nat
  | .file _ mode => mode
  | .directory mode => mode

/-- A node with other permission bits. -/
def Node.withMode (node : Node) (mode : Nat) : Node :=
  match node with
  | .file content _ => .file content mode
  | .directory _ => .directory mode

/-- A file on its way to its destination: the directory it lies in, what it
holds and the permission bits it is to have. -/
structure Staged where
  directory : Position
  content : ByteArray
  mode : Nat
  deriving DecidableEq

/-- A disk, and the directory that paths start from. -/
structure Disk where
  nodes : Std.ExtTreeMap Position Node
  staged : List Staged
  current : Position

/-- Why an operation fails. -/
inductive DiskFault where
  | notFound
  | notADirectory
  | isADirectory
  | nameTooLong
  /-- The destination is a directory's name for itself or its parent. -/
  | busy
  /-- The path holds a zero octet. -/
  | invalidPath
  /-- The content is not text. -/
  | notText
  | alreadyExists
  /-- What only happens to disks that have owners or run full, in its own
  words. -/
  | other (reason : String)
  deriving DecidableEq, Repr

namespace Disk

/-- The permission bits of a new file. -/
def newFileMode : Nat := 0o644

/-- The permission bits of a new directory. -/
def newDirectoryMode : Nat := 0o755

/-- The longest name. -/
def maxNameLength : Nat := 255

/-- The longest path. -/
def maxPathLength : Nat := 4095

/-- What lies at a position.  The root is a directory. -/
def node? (disk : Disk) (position : Position) : Option Node :=
  if position = [] then some (.directory newDirectoryMode) else disk.nodes[position]?

/-- The disk with a node at a position. -/
def put (disk : Disk) (position : Position) (node : Node) : Disk :=
  { disk with nodes := disk.nodes.insert position node }

/-- What was put at a position lies there. -/
theorem node?_put_self (disk : Disk) {position : Position} (node : Node) (h : position ≠ []) :
    (disk.put position node).node? position = some node := by
  simp [node?, put, h]

/-- Nothing changes at other positions. -/
theorem node?_put_of_ne (disk : Disk) {position other : Position} (node : Node)
    (h : position ≠ other) : (disk.put position node).node? other = disk.node? other := by
  simp only [node?, put]
  split
  · rfl
  · simp [Std.ExtTreeMap.getElem?_insert, h]

/-- Demands a directory. -/
def enter (disk : Disk) (position : Position) : Except DiskFault Unit :=
  match disk.node? position with
  | some (.directory _) => .ok ()
  | some (.file ..) => .error .notADirectory
  | none => .error .notFound

/-- The position of a name in a directory, where something may lie or not. -/
def child (position : Position) (name : Name) : Except DiskFault Position :=
  if maxNameLength < name.length then .error .nameTooLong else .ok (position ++ [name])

/-- A step of a walk. -/
def step (disk : Disk) (position : Position) : Path.Step → Except DiskFault Position
  | .stay => do
    disk.enter position
    return position
  | .up => do
    disk.enter position
    return position.dropLast
  | .down name => do
    disk.enter position
    let position ← child position name
    match disk.node? position with
    | some _ => return position
    | none => throw .notFound

/-- Demands a path that can be walked at all. -/
def checkPath (path : Path) : Except DiskFault Unit :=
  if path.octets.contains 0 then .error .invalidPath
  else if path.octets = [] then .error .notFound
  else if maxPathLength < path.octets.length then .error .nameTooLong
  else .ok ()

/-- Where the walk of a path starts. -/
def origin (disk : Disk) (path : Path) : Position :=
  if path.isAbsolute then [] else disk.current

/-- The position that a path leads to, where something lies. -/
def locate (disk : Disk) (path : Path) : Except DiskFault Position := do
  checkPath path
  path.walk.steps.foldlM disk.step (disk.origin path)

/-- The node that a path leads to. -/
def find (disk : Disk) (path : Path) : Except DiskFault Node := do
  match disk.node? (← disk.locate path) with
  | some node => return node
  | none => throw .notFound

/-- The directory that a path leads to, less its last step. -/
def locateParent (disk : Disk) (path : Path) : Except DiskFault Position := do
  checkPath path
  let position ← path.walk.before.foldlM disk.step (disk.origin path)
  disk.enter position
  return position

/-! ## Operations -/

/-- The content of a file. -/
def read (disk : Disk) (path : Path) : Except DiskFault ByteArray := do
  match ← disk.find path with
  | .file content _ => return content
  | .directory _ => throw .isADirectory

/-- The text in a file. -/
def readText (disk : Disk) (path : Path) : Except DiskFault String := do
  match Utf8.text? (← disk.read path) with
  | some text => return text
  | none => throw .notText

/-- Writes a file in place; a new one gets the usual permission bits. -/
def write (disk : Disk) (path : Path) (content : ByteArray) : Except DiskFault Disk := do
  let directory ← disk.locateParent path
  match path.walk.last, path.walk.slashed with
  | some (.down name), false =>
    let position ← child directory name
    match disk.node? position with
    | some (.directory _) => throw .isADirectory
    | some (.file _ mode) => return disk.put position (.file content mode)
    | none => return disk.put position (.file content newFileMode)
  | _, _ => throw .isADirectory

/-- Removes a file. -/
def remove (disk : Disk) (path : Path) : Except DiskFault Disk := do
  let directory ← disk.locateParent path
  match path.walk.last with
  | some (.down name) =>
    let position ← child directory name
    match disk.node? position with
    | some (.directory _) => throw .isADirectory
    | some (.file ..) =>
      if path.walk.slashed then throw .notADirectory
      else return { disk with nodes := disk.nodes.erase position }
    | none => throw .notFound
  | _ => throw .isADirectory

/-- Sets permission bits. -/
def setMode (disk : Disk) (path : Path) (mode : Nat) : Except DiskFault Disk := do
  let position ← disk.locate path
  match disk.node? position with
  | some node => return disk.put position (node.withMode mode)
  | none => throw .notFound

/-- The permission bits of what a path leads to. -/
def mode (disk : Disk) (path : Path) : Except DiskFault Nat := do
  return (← disk.find path).mode

/-- Takes a step, making the directory it leads to if nothing lies there. -/
def makeStep (disk : Disk) (position : Position) :
    Path.Step → Except DiskFault (Disk × Position)
  | .down name => do
    disk.enter position
    let position ← child position name
    match disk.node? position with
    | some _ => return (disk, position)
    | none => return (disk.put position (.directory newDirectoryMode), position)
  | step => do return (disk, ← disk.step position step)

/-- Takes steps, making directories.  What was made before a fault stays. -/
def makeSteps (disk : Disk) (position : Position) :
    List Path.Step → Except DiskFault Position × Disk
  | [] => (.ok position, disk)
  | step :: rest =>
    match disk.makeStep position step with
    | .error fault => (.error fault, disk)
    | .ok (disk, position) => disk.makeSteps position rest

/-- The steps that lead to a new directory, and the ones that are taken without
making any: if `.` follows a name, that name and all after it. -/
def newDirectorySteps (path : Path) : List Path.Step × List Path.Step :=
  let steps := path.walk.before ++ path.walk.last.toList
  let stays := (steps.reverse.takeWhile (· = .stay)).length
  if stays = 0 then (steps, []) else steps.splitAt (steps.length - stays - 1)

/-- Makes a directory and the ones it lies in, as far as there are none.  A
directory whose name is followed by `.` has to be there already. -/
def makeDirectory (disk : Disk) (path : Path) : Except DiskFault Unit × Disk :=
  if path.octets = [] then (.ok (), disk)
  else
    match checkPath path with
    | .error fault => (.error fault, disk)
    | .ok () =>
      let (made, taken) := newDirectorySteps path
      match disk.makeSteps (disk.origin path) made with
      | (.error fault, disk) => (.error fault, disk)
      | (.ok position, disk) =>
        match taken.foldlM disk.step position with
        | .error fault => (.error fault, disk)
        | .ok position =>
          match disk.node? position with
          | some (.directory _) => (.ok (), disk)
          | _ => (.error .alreadyExists, disk)

/-! ## Staging -/

/-- The permission bits for a file that replaces what a path leads to. -/
def modeFor (disk : Disk) (path : Path) : Nat :=
  match disk.mode path with
  | .ok mode => mode
  | .error _ => newFileMode

/-- The path of the current directory from the root. -/
def currentPath (disk : Disk) : Path :=
  ⟨Path.slash :: Path.join disk.current⟩

/-- The path that a staged file is opened by.  Its name ends in six letters or
digits that are picked anew every time, of which only the number matters. -/
def stagingPath (disk : Disk) (destination : Path) : Path :=
  disk.currentPath.staged destination "XXXXXX"

/-- Stages a file in the directory of its destination.  It is opened by a path
that starts at the root, which can be too long where the path of the
destination is not. -/
def stage (disk : Disk) (destination : Path) (content : ByteArray) :
    Except DiskFault (Staged × Disk) := do
  checkPath (disk.stagingPath destination)
  let directory ← disk.locate destination.directory
  disk.enter directory
  let staged := { directory, content, mode := disk.modeFor destination }
  return (staged, { disk with staged := staged :: disk.staged })

/-- Removes a staged file. -/
def discard (disk : Disk) (staged : Staged) : Disk :=
  { disk with staged := disk.staged.erase staged }

/-- Moves a staged file to its destination, in place of a file that was there. -/
def commit (disk : Disk) (staged : Staged) (destination : Path) : Except DiskFault Disk := do
  let directory ← disk.locateParent destination
  match destination.walk.last with
  | some (.down name) =>
    let position ← child directory name
    if destination.walk.slashed then throw .notADirectory
    else
      match disk.node? position with
      | some (.directory _) => throw .isADirectory
      | _ => return (disk.discard staged).put position (.file staged.content staged.mode)
  | _ => throw .busy

/-! ## The tree -/

/-- What lies below the current directory, by the names that lead there. -/
def below (disk : Disk) : List (Position × Node) :=
  disk.nodes.toList.filterMap fun (position, node) =>
    if disk.current.isPrefixOf position && disk.current.length < position.length then
      some (position.drop disk.current.length, node)
    else none

end Disk

end AdventureTables
