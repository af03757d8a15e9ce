import AdventureTables.Text.Terminal
/-!
# The log

The program tells what it does in lines, each with a level and the part of the
program that writes it.  A line holds no terminal controls, though the names in
it may.  A filter says which lines are kept: its directives give the lowest
level for the parts whose names begin in a certain way, and the directive with
the longest beginning decides.
-/

namespace AdventureTables.Log

/-- How important a line is, the most important first. -/
inductive Level where
  | error
  | warn
  | info
  | debug
  | trace
  deriving DecidableEq, Repr

/-- The rank of a level; greater numbers are less important. -/
def Level.rank : Level → Nat
  | .error => 1
  | .warn => 2
  | .info => 3
  | .debug => 4
  | .trace => 5

/-- A level as it is written, with blanks to five characters. -/
def Level.name : Level → String
  | .error => "ERROR"
  | .warn => "WARN "
  | .info => "INFO "
  | .debug => "DEBUG"
  | .trace => "TRACE"

/-- The parts of the program that write to the log. -/
inductive Source where
  | main
  | loader
  | emit
  | output
  deriving DecidableEq, Repr

/-- The name of a part. -/
def Source.name : Source → String
  | .main => "dungeon_gen"
  | .loader => "dungeon_gen::loader"
  | .emit => "dungeon_gen::emit"
  | .output => "dungeon_gen::output"

/-- A line of the log. -/
structure Line where
  level : Level
  source : Source
  message : String
  deriving DecidableEq, Repr

/-- A message with its further lines indented. -/
def indented (message : String) : String :=
  String.ofList (message.toList.flatMap fun c => if c = '\n' then "\n    ".toList else [c])

/-- A line as it is written. -/
def Line.text (line : Line) : String :=
  "[" ++ line.level.name ++ " " ++ line.source.name ++ "] " ++ Text.visible (indented line.message)

/-- What is kept of the parts whose names begin with `beginning`: the levels up
to a rank. -/
structure Directive where
  beginning : String
  rank : Nat
  deriving DecidableEq, Repr

/-- A filter of log lines. -/
structure Filter where
  directives : List Directive
  deriving DecidableEq, Repr

/-- The rank that a word stands for, in capitals or not. -/
def rank? (word : String) : Option Nat :=
  ["off", "error", "warn", "info", "debug", "trace"].idxOf? (word.map Char.toLower)

/-- A text without the blanks around it. -/
def trimmed (text : String) : String :=
  String.ofList ((text.toList.dropWhile Char.isWhitespace).reverse.dropWhile
    Char.isWhitespace).reverse

/-- The pieces of a text between separators. -/
def pieces (separator : Char) : List Char → List (List Char)
  | [] => [[]]
  | c :: rest =>
    if c = separator then [] :: pieces separator rest
    else
      match pieces separator rest with
      | [] => [[c]]
      | piece :: others => (c :: piece) :: others

/-- The directive that a text writes: a level for everything, a part of the
program to be kept whole, or both. -/
def directive? (text : String) : Option Directive :=
  match (pieces '=' text.toList).map String.ofList with
  | [word] =>
    match rank? word with
    | some rank => some ⟨"", rank⟩
    | none => some ⟨word, Level.trace.rank⟩
  | [beginning, word] =>
    if trimmed word = "" then some ⟨beginning, Level.trace.rank⟩
    else (rank? (trimmed word)).map (⟨beginning, ·⟩)
  | _ => none

/-- The filter that a text writes.  Of two directives for one beginning the
later one counts, and without any only errors are kept.

Only levels and beginnings of names are modelled.  A pattern for messages,
which a setting may end in after a slash, is not told apart from what is before
the slash, and nothing is said about directives that are malformed. -/
def Filter.ofText (text : String) : Filter :=
  let texts := ((pieces ',' text.toList).map fun piece => trimmed (String.ofList piece)).filter
    (· ≠ "")
  let directives := texts.filterMap directive?
  ⟨if directives.isEmpty then [⟨"", Level.error.rank⟩] else directives⟩

/-- Whether a text begins with another. -/
def beginsWith (beginning text : String) : Bool :=
  beginning.toList.isPrefixOf text.toList

/-- The directive that decides on a part of the program: of those that speak of
it, the last one with the longest beginning. -/
def Filter.deciding? (filter : Filter) (source : Source) : Option Directive :=
  (filter.directives.filter fun d => beginsWith d.beginning source.name).foldl
    (fun best d =>
      match best with
      | some b => if d.beginning.length < b.beginning.length then some b else some d
      | none => some d)
    none

/-- Whether a line is kept. -/
def Filter.keeps (filter : Filter) (line : Line) : Bool :=
  match filter.deciding? line.source with
  | some directive => line.level.rank ≤ directive.rank
  | none => false

/-- The lines that are kept. -/
def Filter.apply (filter : Filter) (lines : List Line) : List Line :=
  lines.filter filter.keeps

end AdventureTables.Log
