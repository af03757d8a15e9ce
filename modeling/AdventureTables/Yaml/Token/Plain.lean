import AdventureTables.Yaml.Token.Basic
/-!
# Plain scalars

A scalar without quotes ends before `: `, before ` #`, before a document
marker, in a block before a line that is not indented further than the
enclosing collection, and in a flow collection before its indicators.  It may
go over lines, which are folded.
-/

namespace AdventureTables.Yaml.Plain

/-- Where a plain scalar stands: in a flow collection, or in a block whose
lines must start in column `indent` at least. -/
structure Setting where
  flow : Bool
  indent : Nat
  deriving Repr

/-- The indicators of flow collections. -/
def isFlowIndicator (c : Char) : Bool :=
  c = ',' || c = '[' || c = ']' || c = '{' || c = '}'

/-- What the reader makes of a character that is not white space. -/
def inWord (setting : Setting) (g : Glyph) (rest : List Glyph) : Reading (Option Gap) :=
  let beforeIndicator := rest.head?.any fun h => h.char = '?' || isFlowIndicator h.char
  if setting.flow && g.char = ':' && beforeIndicator then .malformed
  else if g.char = ':' && isSpaceOrEnd rest then .before
  else if setting.flow && isFlowIndicator g.char then .before
  else .onward none

/-- What the reader makes of a character.  Its state is the white space since
the last word, if any. -/
def step (setting : Setting) (g : Glyph) (rest : List Glyph) : Option Gap → Reading (Option Gap)
  | none =>
    if isBlank g.char || isBreak g.char then .onward (some (Gap.start g.char))
    else inWord setting g rest
  | some white =>
    if isBlank g.char || isBreak g.char then
      match white with
      | .breaks .. =>
        if g.char = '\t' && g.mark.column < setting.indent then .malformed
        else .onward (some (white.push g.char))
      | .blanks _ => .onward (some (white.push g.char))
    else if !setting.flow && g.mark.column < setting.indent then .before
    else if isDocumentEdge (g :: rest) || g.char = '#' then .before
    else inWord setting g rest

/-- Whether white space contains a line break. -/
def crossesLine : Option Gap → Bool
  | some (.breaks ..) => true
  | _ => false

/-- Reads on to the end of the scalar.  `text` is what was read so far, last
character first. -/
def readFrom (setting : Setting) (white : Option Gap) (text : List Char) :
    List Glyph → Option (String × Bool × List Glyph)
  | [] => some (String.ofList text.reverse, crossesLine white, [])
  | g :: rest =>
    match step setting g rest white with
    | .malformed => none
    | .before | .through => some (String.ofList text.reverse, crossesLine white, g :: rest)
    | .onward (some white) => readFrom setting (some white) text rest
    | .onward none =>
      let gap := (white.map Gap.folded).getD []
      readFrom setting none (g.char :: (gap.reverse ++ text)) rest

/-- Reads a plain scalar.  White space after it is read too, and the flag
tells whether that goes over a line. -/
def read? (setting : Setting) (glyphs : List Glyph) : Option (String × Bool × List Glyph) :=
  readFrom setting none [] glyphs

end AdventureTables.Yaml.Plain
