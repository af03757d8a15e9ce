import AdventureTables.Program.Output
/-!
# The command line

The options are read from left to right.  An option's value follows it, in the
same argument or the next one; the next one is no value if it looks like an
option itself.  No option may be given twice, no value may be empty, and there
are no arguments besides options.  A request for help or for the version is
answered as soon as it is met.
-/

namespace AdventureTables

/-- What a run of the program is to do. -/
structure Invocation where
  input : Path
  outputs : OutputPaths
  /-- Whether the tables go to the standard output and not to files. -/
  toOutput : Bool
  deriving DecidableEq, Repr

/-- What a command line asks for. -/
inductive Request where
  | run (invocation : Invocation)
  | help
  | version
  | misuse
  deriving DecidableEq, Repr

namespace CommandLine

/-- The name of the description where nothing else is asked for. -/
def defaultInput : String := "adventure.yaml"

/-- The options that have a value. -/
inductive ValueOption where
  | input
  | header
  | source
  deriving DecidableEq, Repr

/-- The options that were read. -/
structure Options where
  values : List (ValueOption × Path)
  toOutput : Bool
  deriving DecidableEq, Repr

/-- An argument, by its octets. -/
abbrev Argument := List UInt8

/-- A dash. -/
def dash : UInt8 := 0x2D

/-- An equals sign. -/
def equals : UInt8 := 0x3D

/-- The value of an option, unless something else was asked for. -/
def Options.get (options : Options) (option : ValueOption) (standard : String) : Path :=
  (options.values.lookup option).getD (.ofText standard)

/-- What the options ask for. -/
def Options.invocation (options : Options) : Invocation where
  input := options.get .input defaultInput
  outputs :=
    { header := options.get .header OutputPaths.defaultHeader
      source := options.get .source OutputPaths.defaultSource }
  toOutput := options.toOutput

/-- The options with one more value, if it may be given. -/
def Options.add? (options : Options) (option : ValueOption) (value : Argument) : Option Options :=
  if value = [] || (options.values.lookup option).isSome then none
  else some { options with values := (option, ⟨value⟩) :: options.values }

/-- Whether an argument looks like an option. -/
def looksLikeOption : Argument → Bool
  | first :: _ :: _ => first = dash
  | _ => false

/-- What an argument turns out to be. -/
inductive Reading where
  | answer (request : Request)
  | toOutput
  /-- An option and its value in one argument. -/
  | given (option : ValueOption) (value : Argument)
  /-- An option whose value is the next argument. -/
  | awaiting (option : ValueOption)
  deriving Repr

/-- What comes before the first equals sign of an argument, and after it. -/
def splitAtEquals (argument : Argument) : Argument × Option Argument :=
  (argument.takeWhile (· ≠ equals),
    match argument.dropWhile (· ≠ equals) with
    | [] => none
    | _ :: value => some value)

/-- The option of a long name. -/
def longOption? (name : Argument) : Option ValueOption :=
  if name = Utf8.octets "input" then some .input
  else if name = Utf8.octets "header" then some .header
  else if name = Utf8.octets "source" then some .source
  else none

/-- An argument after its two dashes. -/
def readLong (argument : Argument) : Reading :=
  let (name, value) := splitAtEquals argument
  match longOption? name, value with
  | some option, some value => .given option value
  | some option, none => .awaiting option
  | none, some _ => .answer .misuse
  | none, none =>
    if name = Utf8.octets "stdout" then .toOutput
    else if name = Utf8.octets "help" then .answer .help
    else if name = Utf8.octets "version" then .answer .version
    else .answer .misuse

/-- An argument after its one dash. -/
def readShort : Argument → Reading
  | [] => .answer .misuse
  | letter :: rest =>
    if letter = 0x69 then
      match rest with
      | [] => .awaiting .input
      | first :: value => .given .input (if first = equals then value else rest)
    else if letter = 0x68 then .answer .help
    else if letter = 0x56 then .answer .version
    else .answer .misuse

/-- An argument. -/
def readArgument : Argument → Reading
  | first :: second :: rest =>
    if first = dash then
      if second = dash then readLong rest else readShort (second :: rest)
    else .answer .misuse
  | _ => .answer .misuse

/-- Reads the options. -/
def readOptions (options : Options) : List Argument → Request
  | [] => .run options.invocation
  | argument :: rest =>
    if argument = [dash, dash] then
      if rest.isEmpty then .run options.invocation else .misuse
    else
      match readArgument argument with
      | .answer request => request
      | .toOutput =>
        if options.toOutput then .misuse else readOptions { options with toOutput := true } rest
      | .given option value =>
        match options.add? option value with
        | none => .misuse
        | some options => readOptions options rest
      | .awaiting option =>
        match rest with
        | [] => .misuse
        | value :: rest =>
          if looksLikeOption value then .misuse
          else
            match options.add? option value with
            | none => .misuse
            | some options => readOptions options rest

/-- What a command line asks for. -/
def read (arguments : List Argument) : Request :=
  readOptions ⟨[], false⟩ arguments

/-- The answer to a request for the version. -/
def versionText : String := "dungeon_gen 0.1.0\n"

/-- The answer to a request for help. -/
def helpText : String :=
  "Compile the dungeon description into static C tables.\n" ++
  "\n" ++
  "Usage: dungeon_gen [OPTIONS]\n" ++
  "\n" ++
  "Options:\n" ++
  "  -i, --input <INPUT>    Dungeon description (YAML) to compile [default: adventure.yaml]\n" ++
  "      --header <HEADER>  Declarations file to write [default: newdb.h]\n" ++
  "      --source <SOURCE>  Definitions file to write; it includes the declarations by file" ++
  " name [default: newdb.c]\n" ++
  "      --stdout           Print both artifacts to stdout instead of writing them\n" ++
  "  -h, --help             Print help\n" ++
  "  -V, --version          Print version\n"

end CommandLine

end AdventureTables
