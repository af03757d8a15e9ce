import AdventureTables.Yaml.Token.Basic
/-!
# Quoted scalars

Between single quotes only the quote itself is special and is written twice.
Between double quotes a backslash starts an escape: a character by its short
name, a character by its number in two, four or eight hexadecimal digits, or a
line break that leaves no trace.  In both, white space that contains a line
break is folded, and a document marker at the start of a line is an error.
-/

namespace AdventureTables.Yaml.Quoted

/-- Where the reader of a quoted scalar stands. -/
inductive State where
  /-- Inside a word. -/
  | word
  /-- Before the second half of a doubled single quote. -/
  | doubled
  /-- After a backslash. -/
  | escape
  /-- Before the `owed` last digits of a character's number. -/
  | code (owed value : Nat)
  /-- In white space. -/
  | gap (white : Gap)
  deriving Repr

/-- The characters with a short name. -/
def named? : Char → Option Char
  | '0' => some '\x00'
  | 'a' => some '\x07'
  | 'b' => some '\x08'
  | 't' => some '\t'
  | '\t' => some '\t'
  | 'n' => some '\n'
  | 'v' => some '\x0B'
  | 'f' => some '\x0C'
  | 'r' => some '\r'
  | 'e' => some '\x1B'
  | ' ' => some ' '
  | '"' => some '"'
  | '/' => some '/'
  | '\\' => some '\\'
  | 'N' => some '\u0085'
  | '_' => some '\u00A0'
  | 'L' => some '\u2028'
  | 'P' => some '\u2029'
  | _ => none

/-- The number of digits after `\x`, `\u` and `\U`. -/
def codeLength? : Char → Option Nat
  | 'x' => some 2
  | 'u' => some 4
  | 'U' => some 8
  | _ => none

/-- The character with a number, if there is one. -/
def character? (n : Nat) : Option Char :=
  if n < 0xD800 ∨ (0xE000 ≤ n ∧ n ≤ 0x10FFFF) then some (Char.ofNat n) else none

/-- What a reader between `quote`s makes of a character, `rest` being what
follows: the text it adds and where the reader goes. -/
def step (quote : Char) (g : Glyph) (rest : List Glyph) : State → List Char × Reading State
  | .doubled => (['\''], .onward .word)
  | .escape =>
    if isBreak g.char then ([], .onward (.gap (.breaks none [])))
    else match named? g.char, codeLength? g.char with
      | some c, _ => ([c], .onward .word)
      | none, some length => ([], .onward (.code length 0))
      | none, none => ([], .malformed)
  | .code owed value =>
    match hexValue? g.char with
    | none => ([], .malformed)
    | some digit =>
      let value := value * 16 + digit
      if 1 < owed then ([], .onward (.code (owed - 1) value))
      else match character? value with
        | some c => ([c], .onward .word)
        | none => ([], .malformed)
  | .gap white =>
    if isBlank g.char || isBreak g.char then ([], .onward (.gap (white.push g.char)))
    else
      let (text, reading) := inWord quote g rest
      (white.folded ++ text, reading)
  | .word => inWord quote g rest
where
  /-- The character of a word, or the end of it. -/
  inWord (quote : Char) (g : Glyph) (rest : List Glyph) : List Char × Reading State :=
    if isDocumentEdge (g :: rest) then ([], .malformed)
    else if g.char = quote then
      if quote = '\'' && startsWith '\'' rest then ([], .onward .doubled) else ([], .through)
    else if quote = '"' && g.char = '\\' then ([], .onward .escape)
    else if isBlank g.char || isBreak g.char then ([], .onward (.gap (Gap.start g.char)))
    else ([g.char], .onward .word)

/-- Reads on to the closing quote.  `text` is what was read so far, last
character first. -/
def readFrom (quote : Char) (state : State) (text : List Char) :
    List Glyph → Option (String × List Glyph)
  | [] => none
  | g :: rest =>
    let (more, reading) := step quote g rest state
    let text := more.reverse ++ text
    match reading with
    | .malformed => none
    | .before => some (String.ofList text.reverse, g :: rest)
    | .through => some (String.ofList text.reverse, rest)
    | .onward state => readFrom quote state text rest

/-- Reads a scalar after its opening quote. -/
def read? (quote : Char) (glyphs : List Glyph) : Option (String × List Glyph) :=
  readFrom quote .word [] glyphs

end AdventureTables.Yaml.Quoted
