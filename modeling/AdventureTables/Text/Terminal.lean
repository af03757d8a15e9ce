import AdventureTables.Text.Utf8
/-!
# Text without terminal controls

Texts that come from outside may hold characters that a terminal obeys instead
of showing them.  Single control characters are the simple case.  The escape
character starts a sequence, and what follows belongs to it until the sequence
is over: a letter or two, numbers and a letter after `[`, or a whole text of its
own after `]` and a few others.  `visible` leaves all of that out.
-/

namespace AdventureTables.Text

/-- What a terminal is in the middle of. -/
inductive TerminalState where
  /-- Nothing: characters are shown. -/
  | text
  /-- A sequence of which only the escape character is known. -/
  | escape
  /-- A sequence that a letter, a digit or a sign ends. -/
  | selection
  /-- A sequence of numbers that a letter ends. -/
  | parameters
  /-- A command for the system, which a bell ends. -/
  | command
  /-- A text for a device, which the octet 9C ends. -/
  | string
  deriving DecidableEq, Repr

/-- White space that is not shown itself but shapes what is shown. -/
def isTerminalSpace (c : Char) : Bool :=
  c = '\t' || c = '\n' || c = '\x0C' || c = '\r'

/-- Whether a character is shown outside of all sequences, or is white space. -/
def isVisible (c : Char) : Bool :=
  isTerminalSpace c || (' ' ≤ c && c ≠ '\x7F')

namespace TerminalState

/-- What a character after the escape character starts, or ends at once. -/
def afterEscape (c : Char) : TerminalState :=
  if c = '[' then .parameters
  else if c = ']' then .command
  else if c = 'P' || c = 'X' || c = '^' || c = '_' then .string
  else if ' ' ≤ c && c ≤ '/' then .selection
  else if '0' ≤ c && c ≤ '~' then .text
  else .escape

/-- What a terminal is in the middle of after a character.  The escape character
starts over, and two control characters break off, wherever they stand. -/
def after (c : Char) (state : TerminalState) : TerminalState :=
  if c = '\x1B' then .escape
  else if c = '\x18' || c = '\x1A' then .text
  else
    match state with
    | .text => .text
    | .escape => if isTerminalSpace c then .text else afterEscape c
    | .selection => if isTerminalSpace c || ('0' ≤ c && c ≤ '~') then .text else .selection
    | .parameters => if isTerminalSpace c || ('@' ≤ c && c ≤ '~') then .text else .parameters
    | .command => if c = '\x07' then .text else .command
    | .string => if (Utf8.octets c.toString).contains 0x9C then .text else .string

/-- Whether a character is seen: outside of sequences if it can be, and within
the short ones if it is white space. -/
def shows (c : Char) : TerminalState → Bool
  | .text => isVisible c
  | .escape | .selection | .parameters => isTerminalSpace c
  | .command | .string => false

/-- What a terminal shows of a text. -/
def visible (state : TerminalState) : List Char → List Char
  | [] => []
  | c :: rest =>
    let later := visible (state.after c) rest
    if state.shows c then c :: later else later

end TerminalState

/-- A text without terminal controls. -/
def visible (text : String) : String :=
  String.ofList (TerminalState.visible .text text.toList)

end AdventureTables.Text
