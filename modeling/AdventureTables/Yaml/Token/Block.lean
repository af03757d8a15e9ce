import AdventureTables.Yaml.Token.Basic
/-!
# Block scalars

After `|` or `>` a scalar is the lines that are indented, less their
indentation.  After `|` the line breaks stay, after `>` they are folded where
neither of the two lines begins with a blank.  The header may give the
indentation, which otherwise is that of the first line that is not blank, and
what becomes of the breaks at the end: one stays, all stay (`+`) or none (`-`).
-/

namespace AdventureTables.Yaml.Block

/-- What becomes of the line breaks at the end. -/
inductive Chomping where
  | clip
  | strip
  | keep
  deriving DecidableEq, Repr

/-- The header of a block scalar. -/
structure Header where
  chomping : Chomping
  increment : Option Nat
  deriving DecidableEq, Repr

/-- The chomping that a character stands for. -/
def chomping? : Char → Option Chomping
  | '+' => some .keep
  | '-' => some .strip
  | _ => none

/-- Reads the two indicators of a header, in any order.  An indentation of
zero is an error. -/
def indicators? (glyphs : List Glyph) : Option (Header × List Glyph) := do
  let (chomping, glyphs) := sign glyphs
  let (increment, glyphs) ← digit? glyphs
  match chomping, increment with
  | none, some _ =>
    let (chomping, glyphs) := sign glyphs
    some (⟨chomping.getD .clip, increment⟩, glyphs)
  | _, _ => some (⟨chomping.getD .clip, increment⟩, glyphs)
where
  /-- A chomping indicator, if there is one. -/
  sign (glyphs : List Glyph) : Option Chomping × List Glyph :=
    match glyphs.head?.bind (chomping? ·.char) with
    | some chomping => (some chomping, glyphs.tail)
    | none => (none, glyphs)
  /-- An indentation indicator, if there is one. -/
  digit? (glyphs : List Glyph) : Option (Option Nat × List Glyph) :=
    match glyphs with
    | [] => some (none, [])
    | g :: rest =>
      if g.char = '0' then none
      else if g.char.isDigit then some (some (g.char.toNat - '0'.toNat), rest)
      else some (none, glyphs)

/-- Reads the rest of the header's line, a comment at most. -/
def headerEnd? (glyphs : List Glyph) : Option (List Glyph) :=
  let glyphs := dropBlanks glyphs
  let glyphs := if startsWith '#' glyphs then dropLine glyphs else glyphs
  match glyphs with
  | [] => some []
  | g :: rest => if isBreak g.char then some rest else none

/-- Reads the empty lines before the text.  Indentation is passed over up to
`indent`, or as far as it goes if that is not known.  Gives the breaks and the
widest indentation seen. -/
def leadingBreaks? (indent : Option Nat) (widest : Nat) (breaks : List Char) :
    List Glyph → Option (List Char × Nat × List Glyph)
  | [] => some (breaks, widest, [])
  | g :: rest =>
    let widest := max widest g.mark.column
    let inside := indent.all (g.mark.column < ·)
    if inside && g.char = ' ' then leadingBreaks? indent widest breaks rest
    else if inside && g.char = '\t' then none
    else if isBreak g.char then leadingBreaks? indent widest (breaks ++ [g.char]) rest
    else some (breaks, widest, g :: rest)

/-- A line of the scalar: its text, the break that ends it and the breaks of
the empty lines after it. -/
structure Line where
  text : List Char
  ending : List Char
  empty : List Char
  deriving DecidableEq, Repr

/-- Where the reader of the lines stands: in a line, whose text is given last
character first, or between two. -/
inductive State where
  | inside (text : List Char)
  | between (text ending empty : List Char)
  deriving Repr

/-- The line that ends in a state. -/
def State.line : State → Line
  | .inside text => ⟨text.reverse, [], []⟩
  | .between text ending empty => ⟨text.reverse, ending, empty⟩

/-- Reads the lines with their text in column `indent`.  `lines` are the ones
read so far, last one first. -/
def lines? (indent : Nat) (lines : List Line) (state : State) :
    List Glyph → Option (List Line × List Glyph)
  | [] => some ((state.line :: lines).reverse, [])
  | g :: rest =>
    match state with
    | .inside text =>
      if isBreak g.char then lines? indent lines (.between text [g.char] []) rest
      else lines? indent lines (.inside (g.char :: text)) rest
    | .between text ending empty =>
      if g.mark.column < indent && g.char = ' ' then lines? indent lines state rest
      else if g.mark.column < indent && g.char = '\t' then none
      else if isBreak g.char then
        lines? indent lines (.between text ending (empty ++ [g.char])) rest
      else if g.mark.column = indent then
        lines? indent (state.line :: lines) (.inside [g.char]) rest
      else some ((state.line :: lines).reverse, g :: rest)

/-- Whether a line begins with a blank. -/
def Line.isIndented (line : Line) : Bool :=
  line.text.head?.any isBlank

/-- The text of the lines after one that ended with `ending` and `empty`. -/
def join (folded : Bool) (chomping : Chomping) (indented : Bool) (ending empty : List Char) :
    List Line → List Char
  | [] =>
    match chomping with
    | .strip => []
    | .clip => ending
    | .keep => ending ++ empty
  | line :: rest =>
    let between :=
      if folded && ending = ['\n'] && !indented && !line.isIndented then
        if empty.isEmpty then [' '] else empty
      else ending ++ empty
    between ++ line.text ++ join folded chomping line.isIndented line.ending line.empty rest

/-- Reads a block scalar after its first indicator.  `parent` is the column of
the enclosing block collection. -/
def read? (folded : Bool) (parent : Option Nat) (glyphs : List Glyph) :
    Option (String × List Glyph) := do
  let (header, glyphs) ← indicators? glyphs
  let glyphs ← headerEnd? glyphs
  let indent := header.increment.map (parent.getD 0 + ·)
  let (breaks, widest, glyphs) ← leadingBreaks? indent 0 [] glyphs
  let indent := indent.getD (max (max widest (parent.elim 0 (· + 1))) 1)
  let (lines, glyphs) ←
    match glyphs with
    | [] => some ([], [])
    | g :: rest =>
      if g.mark.column = indent then lines? indent [] (.inside [g.char]) rest
      else some ([], g :: rest)
  some (String.ofList (join folded header.chomping false [] breaks lines), glyphs)

end AdventureTables.Yaml.Block
