/-!
# Text with places

The YAML reader works on a text in which every character knows its place, so
whatever is cut out of the text keeps its place with it and no reader counts
lines.

Line breaks are made alike on the way in: a carriage return, with or without a
line feed after it, a line feed and U+0085 all become one line feed; the line
and paragraph separators U+2028 and U+2029 break lines too but stay what they
are.

Control characters are not part of any YAML text.  A text comes in blocks, and
one that holds a control character is refused as a whole, so what precedes that
block is all there is to read (`Source.ofText`).
-/

namespace AdventureTables.Yaml

/-- A place in a text: its line, its column, and how many octets of the line are
before it, all counted from zero. -/
structure Mark where
  line : Nat
  column : Nat
  octets : Nat
  deriving DecidableEq, Repr, Inhabited

/-- The place where a line starts. -/
def Mark.lineStart (line : Nat) : Mark :=
  ⟨line, 0, 0⟩

/-- A character and its place. -/
structure Glyph where
  char : Char
  mark : Mark
  deriving DecidableEq, Repr, Inhabited

/-- A text with places, and the place after its last character. -/
structure Source where
  glyphs : List Glyph
  stop : Mark
  /-- Whether the text is over there, and does not go on with what cannot be
  read. -/
  complete : Bool
  deriving Repr

/-- Whether a character may stand in a YAML text. -/
def isAllowed (c : Char) : Bool :=
  let n := c.toNat
  n = 0x09 || n = 0x0A || n = 0x0D || (0x20 ≤ n && n ≤ 0x7E) || n = 0x85 ||
    (0xA0 ≤ n && n ≤ 0xD7FF) || (0xE000 ≤ n && n ≤ 0xFFFD) || 0x10000 ≤ n

/-- How many octets a block of a text holds at most. -/
def blockSize : Nat := 16384

/-- A text in blocks, as many whole characters in each as fit.  `block` is what
the first one holds already, last character first, and `room` the octets it has
left. -/
def blocks (room : Nat) (block : List Char) : List Char → List (List Char)
  | [] => [block.reverse]
  | c :: rest =>
    if c.utf8Size ≤ room then blocks (room - c.utf8Size) (c :: block) rest
    else block.reverse :: blocks (blockSize - c.utf8Size) [c] rest

/-- Whether a character of a source breaks a line. -/
def isBreak (c : Char) : Bool :=
  c = '\n' || c = '\u2028' || c = '\u2029'

/-- Whether a character separates words within a line. -/
def isBlank (c : Char) : Bool :=
  c = ' ' || c = '\t'

/-- A text with one character for every line break. -/
def unifyBreaks : List Char → List Char
  | [] => []
  | '\r' :: '\n' :: rest => '\n' :: unifyBreaks rest
  | '\r' :: rest => '\n' :: unifyBreaks rest
  | '\u0085' :: rest => '\n' :: unifyBreaks rest
  | c :: rest => c :: unifyBreaks rest

/-- The place after a character. -/
def Mark.after (mark : Mark) (c : Char) : Mark :=
  if isBreak c then .lineStart (mark.line + 1)
  else ⟨mark.line, mark.column + 1, mark.octets + c.utf8Size⟩

/-- A text read from a place on. -/
def Source.place (complete : Bool) (mark : Mark) : List Char → Source
  | [] => ⟨[], mark, complete⟩
  | c :: rest =>
    let source := place complete (mark.after c) rest
    { source with glyphs := ⟨c, mark⟩ :: source.glyphs }

/-- What can be read of a text, with its places. -/
def Source.ofText (text : String) : Source :=
  let blocks := blocks blockSize [] text.toList
  let readable := blocks.takeWhile (·.all isAllowed)
  place (readable.length = blocks.length) (.lineStart 0) (unifyBreaks readable.flatten)

/-- Whether the text from here on starts with a blank or a break, or is over. -/
def isSpaceOrEnd : List Glyph → Bool
  | [] => true
  | g :: _ => isBlank g.char || isBreak g.char

/-- Whether the text from here on starts with this character. -/
def startsWith (c : Char) : List Glyph → Bool
  | [] => false
  | g :: _ => g.char = c

/-- Whether a line starts here with three times this character and nothing
glued to it: `---` opens a document and `...` closes one. -/
def isDocumentMarker (c : Char) : List Glyph → Bool
  | a :: b :: d :: rest =>
    a.mark.column = 0 && a.char = c && b.char = c && d.char = c && isSpaceOrEnd rest
  | _ => false

/-- Whether a document ends here, by either marker. -/
def isDocumentEdge (glyphs : List Glyph) : Bool :=
  isDocumentMarker '-' glyphs || isDocumentMarker '.' glyphs

/-- The rest of the line is passed over, the break stays. -/
def dropLine (glyphs : List Glyph) : List Glyph :=
  glyphs.dropWhile fun g => !isBreak g.char

/-- Blanks are passed over. -/
def dropBlanks (glyphs : List Glyph) : List Glyph :=
  glyphs.dropWhile fun g => isBlank g.char

/-- The text of some glyphs. -/
def textOf (glyphs : List Glyph) : String :=
  String.ofList (glyphs.map Glyph.char)

end AdventureTables.Yaml
