import AdventureTables.Text.Utf8
/-!
# Paths

A path is a sequence of octets, not necessarily text, with names between
slashes.  Cutting it at the slashes loses nothing (`join_pieces`).  It is
looked at in two ways.

As a *name for a place* (`components`) a path is the same with slashes doubled
or added at the end, and with `.` in it anywhere but at the start.  Equality of
paths, the last name (`fileName?`) and the path without it (`parent`) are all
taken from the components.

As a *walk* (`walk`) every piece of the path is a step from one directory to
the next, and a slash at the end is a step too: it demands a directory.
-/

namespace AdventureTables

/-- A name in a directory. -/
abbrev Name := List UInt8

/-- A path. -/
structure Path where
  octets : List UInt8
  deriving DecidableEq, Repr, Inhabited

namespace Path

/-- A slash. -/
def slash : UInt8 := 0x2F

/-- The name of a directory in itself. -/
def dot : Name := [0x2E]

/-- The name of the parent of a directory. -/
def dotDot : Name := [0x2E, 0x2E]

/-- The path that a text writes. -/
def ofText (text : String) : Path :=
  ⟨Utf8.octets text⟩

/-- A path as it is shown. -/
def shown (path : Path) : String :=
  Utf8.lossy path.octets

/-- What is between the slashes of some octets, at least one piece. -/
def pieces : List UInt8 → List Name
  | [] => [[]]
  | octet :: rest =>
    if octet = slash then [] :: pieces rest
    else
      match pieces rest with
      | [] => [[octet]]
      | piece :: others => (octet :: piece) :: others

/-- The octets that some pieces make, with slashes between them. -/
def join : List Name → List UInt8
  | [] => []
  | [piece] => piece
  | piece :: others => piece ++ slash :: join others

/-- There is a piece before the first slash. -/
theorem pieces_ne_nil (octets : List UInt8) : pieces octets ≠ [] := by
  cases octets with
  | nil => simp [pieces]
  | cons octet rest =>
    unfold pieces
    split
    · simp
    · split <;> simp

/-- A slash goes between the first of several pieces and the rest. -/
theorem join_cons {piece : Name} {others : List Name} (h : others ≠ []) :
    join (piece :: others) = piece ++ slash :: join others := by
  cases others with
  | nil => exact absurd rfl h
  | cons => rfl

/-- The pieces of some octets make these octets. -/
theorem join_pieces (octets : List UInt8) : join (pieces octets) = octets := by
  induction octets with
  | nil => rfl
  | cons octet rest ih =>
    have hne := pieces_ne_nil rest
    rw [pieces]
    split
    · next h => rw [join_cons hne, ih, h]; rfl
    · cases hp : pieces rest with
      | nil => exact absurd hp hne
      | cons piece others =>
        rw [hp] at ih
        rw [← ih]
        cases others <;> rfl

/-- No piece holds a slash. -/
theorem slash_notMem_of_mem_pieces {octets : List UInt8} {piece : Name}
    (h : piece ∈ pieces octets) : slash ∉ piece := by
  induction octets generalizing piece with
  | nil => simp_all [pieces]
  | cons octet rest ih =>
    rw [pieces] at h
    split at h
    · rcases List.mem_cons.mp h with rfl | h
      · simp
      · exact ih h
    · next hne =>
      cases hp : pieces rest with
      | nil => exact absurd hp (pieces_ne_nil rest)
      | cons first others =>
        rw [hp] at h
        rcases List.mem_cons.mp h with rfl | h
        · have := ih (hp ▸ List.mem_cons_self)
          simp [this, Ne.symm hne]
        · exact ih (hp ▸ List.mem_cons_of_mem _ h)

/-- Whether a path starts at the root. -/
def isAbsolute (path : Path) : Bool :=
  path.octets.head? = some slash

/-- A part of a path, in the first way to look at it. -/
inductive Component where
  | root
  /-- The `.` at the start of a path that does not start at the root. -/
  | current
  | parent
  | name (name : Name)
  deriving DecidableEq, Repr

/-- The component that a piece is, if any; `first` if no piece is before it. -/
def component? (first : Bool) (piece : Name) : Option Component :=
  if piece = [] then none
  else if piece = dot then (if first then some .current else none)
  else if piece = dotDot then some .parent
  else some (.name piece)

/-- The components of a path. -/
def components (path : Path) : List Component :=
  let pieces := pieces path.octets
  (if path.isAbsolute then [.root] else []) ++
    (pieces.head?.bind (component? true)).toList ++ pieces.tail.filterMap (component? false)

/-- The last name of a path, unless it ends in something else. -/
def fileName? (path : Path) : Option Name :=
  match path.components.getLast? with
  | some (.name name) => some name
  | _ => none

/-- The pieces of a path, last one first, without those at its end that are no
components. -/
def trimmed : List Name → List Name
  | [] => []
  | [piece] => if (component? true piece).isSome then [piece] else []
  | piece :: others => if (component? false piece).isSome then piece :: others else trimmed others

/-- A path without its last component.  The root and the empty path have none
to leave out. -/
def parent (path : Path) : Path :=
  match trimmed (pieces path.octets).reverse with
  | [] => ⟨[]⟩
  | _ :: others =>
    match trimmed others with
    | [] => ⟨if path.isAbsolute then [slash] else []⟩
    | others => ⟨join others.reverse⟩

/-- The directory that a path lies in, by name. -/
def directory (path : Path) : Path :=
  if path.parent.octets = [] then ⟨dot⟩ else path.parent

/-- One path continued by another, unless that starts at the root. -/
def append (path other : Path) : Path :=
  if other.isAbsolute || path.octets = [] then other
  else if path.octets.getLast? = some slash then ⟨path.octets ++ other.octets⟩
  else ⟨path.octets ++ slash :: other.octets⟩

/-- Where a file is staged that goes to a destination: in the directory that the
destination lies in, under a name with an end of its own.  The path is found
from the directory that the program works in, so that it stays the same
wherever the program goes. -/
def staged (current destination : Path) (suffix : String) : Path :=
  (current.append destination.directory).append (.ofText (".dungeon_gen" ++ suffix))

/-- A step of a walk. -/
inductive Step where
  | stay
  | up
  | down (name : Name)
  deriving DecidableEq, Repr

/-- The step that a piece is. -/
def stepOf (piece : Name) : Step :=
  if piece = dot then .stay else if piece = dotDot then .up else .down piece

/-- A path as a walk: the steps but the last, the last one, and whether a slash
follows it.  A path of slashes only has no last step. -/
structure Walk where
  before : List Step
  last : Option Step
  slashed : Bool
  deriving DecidableEq, Repr

/-- The walk of a path. -/
def walk (path : Path) : Walk :=
  let steps := ((pieces path.octets).filter (· ≠ [])).map stepOf
  { before := steps.dropLast
    last := steps.getLast?
    slashed := path.octets.getLast? = some slash }

/-- All steps of a walk.  A slash at the end is a step that stays. -/
def Walk.steps (walk : Walk) : List Step :=
  walk.before ++ walk.last.toList ++ (if walk.slashed then [.stay] else [])

end Path

end AdventureTables
