import AdventureTables.Yaml.Token.Block
import AdventureTables.Yaml.Token.Name
import AdventureTables.Yaml.Token.Plain
import AdventureTables.Yaml.Token.Quoted
/-!
# The tokens of a text, one after the other

Most tokens are found where they stand.  Three kinds are not: block
collections start and end where the indentation says so, and a simple key
(`key: value`, with nothing in front of the key) is recognised only at its
colon.  So the reader remembers, for every flow collection it is in and for
the block around them, the token that may turn out to be a key
(`PendingKey`), and puts the key token in front of it when the colon comes.  A
pending key is given up at the end of its line, or 1024 octets on.

A malformed text has tokens too, up to the fault.  Only those count that were
there, and decided, before the reader set out for the ones at fault: from a
pending key on nothing was decided yet (`TokenReader.settled`).  Where a text
breaks off, a token counts only if the text goes on after it.
-/

namespace AdventureTables.Yaml

/-- A token that may be a key: its position among the tokens, its place, and
whether the layout demands that it is one. -/
structure PendingKey where
  position : Nat
  mark : Mark
  required : Bool
  deriving Repr

/-- The tokens of a text, up to the first fault if it has one. -/
structure Tokens where
  list : List Token
  malformed : Bool
  deriving Repr

/-- Where the reader of tokens stands. -/
structure TokenReader where
  /-- The place after the last character of the text. -/
  stop : Mark
  /-- The text to come. -/
  rest : List Glyph
  /-- Whether the text is over after that, or breaks off. -/
  complete : Bool
  /-- The tokens read, last one first. -/
  tokens : List Token
  /-- How many they are. -/
  count : Nat
  /-- The columns of the block collections the reader is in, innermost first. -/
  columns : List Nat
  /-- What may be a key in the innermost collection. -/
  key : Option PendingKey
  /-- What may be a key in the collections around it, one for each flow
  collection the reader is in. -/
  outerKeys : List (Option PendingKey)
  /-- Whether a simple key may start here. -/
  keyAllowed : Bool
  /-- Whether the end of the text was read. -/
  done : Bool

namespace TokenReader

/-- The reader at the start of a text. -/
def start (source : Source) : TokenReader :=
  { stop := source.stop, rest := source.glyphs, complete := source.complete, tokens := [],
    count := 0, columns := [], key := none, outerKeys := [], keyAllowed := true, done := false }

/-- Whether the reader is in a flow collection. -/
def inFlow (r : TokenReader) : Bool :=
  !r.outerKeys.isEmpty

/-- The place of the reader.  The end of the text is a line of its own. -/
def mark (r : TokenReader) : Mark :=
  match r.rest with
  | g :: _ => g.mark
  | [] => if r.stop.column = 0 then r.stop else .lineStart (r.stop.line + 1)

/-- Adds a token. -/
def push (r : TokenReader) (mark : Mark) (kind : Token.Kind) : TokenReader :=
  { r with tokens := ⟨kind, mark⟩ :: r.tokens, count := r.count + 1 }

/-- Adds a token in front of the one at `position`. -/
def insert (r : TokenReader) (position : Nat) (mark : Mark) (kind : Token.Kind) : TokenReader :=
  let later := r.count - position
  { r with
    tokens := r.tokens.take later ++ ⟨kind, mark⟩ :: r.tokens.drop later
    count := r.count + 1 }

/-- Adds the token that starts here, the text after it being `rest`. -/
def take (r : TokenReader) (kind : Token.Kind) (rest : List Glyph) : TokenReader :=
  { r.push r.mark kind with rest }

/-- Whether a column lies further right than the innermost block collection. -/
def isDeeper (r : TokenReader) (column : Nat) : Bool :=
  r.columns.head?.all (· < column)

/-- Opens a block collection in a column, unless one is open there.  Its token
stands at `position` among the tokens. -/
def openBlock (r : TokenReader) (mark : Mark) (position : Nat) (kind : Token.Kind) : TokenReader :=
  if r.inFlow || !r.isDeeper mark.column then r
  else
    { r.insert position mark kind with columns := mark.column :: r.columns }

/-- The columns of the collections that go on in a line that starts in
`column`. -/
def closeColumns (column : Option Nat) : List Nat → List Nat
  | [] => []
  | inner :: columns =>
    if column.all (· < inner) then closeColumns column columns else inner :: columns

/-- Closes the block collections that end here, as the line starts in
`column`, or all of them. -/
def closeBlocks (r : TokenReader) (column : Option Nat) : TokenReader :=
  if r.inFlow then r
  else
    let columns := closeColumns column r.columns
    let closed := r.columns.length - columns.length
    { r with
      columns
      tokens := List.replicate closed ⟨.blockEnd, r.mark⟩ ++ r.tokens
      count := r.count + closed }

/-- Gives up the pending key of the innermost collection.  A required one must
not be given up. -/
def dropKey? (r : TokenReader) : Option TokenReader :=
  if r.key.any (·.required) then none else some { r with key := none }

/-- How far a simple key may reach, in octets. -/
def maxKeyLength : Nat := 1024

/-- A pending key that can still be one at this place. -/
def stillPossible? (mark : Mark) : Option PendingKey → Option (Option PendingKey)
  | none => some none
  | some key =>
    if key.mark.line < mark.line ∨ key.mark.octets + maxKeyLength < mark.octets then
      if key.required then none else some none
    else some (some key)

/-- Gives up the pending keys that this place is too far from. -/
def expireKeys? (r : TokenReader) : Option TokenReader := do
  let key ← stillPossible? r.mark r.key
  let outerKeys ← r.outerKeys.mapM (stillPossible? r.mark)
  some { r with key, outerKeys }

/-- Remembers that the token to come may be a key, if one may start here. -/
def saveKey? (r : TokenReader) : Option TokenReader :=
  if r.keyAllowed then do
    let required := !r.inFlow && r.columns.head? = some r.mark.column
    let r ← r.dropKey?
    some { r with key := some ⟨r.count, r.mark, required⟩ }
  else some r

/-- A byte order mark. -/
def byteOrderMark : Char := '\uFEFF'

/-- Passes over white space and comments.  In a block, a simple key may start
after a line break, and tabs may stand only where none may.  A byte order mark
at the start of a line means nothing, though it takes up a column. -/
def skipWhite (flow : Bool) (comment keyAllowed : Bool) : List Glyph → Bool × List Glyph
  | [] => (keyAllowed, [])
  | g :: rest =>
    if isBreak g.char then skipWhite flow false (keyAllowed || !flow) rest
    else if comment then skipWhite flow true keyAllowed rest
    else if g.char = byteOrderMark && g.mark.column = 0 then skipWhite flow false keyAllowed rest
    else if g.char = ' ' || ((flow || !keyAllowed) && g.char = '\t') then
      skipWhite flow false keyAllowed rest
    else if g.char = '#' then skipWhite flow true keyAllowed rest
    else (keyAllowed, g :: rest)

/-- A directive or a document marker: every block ends before it. -/
def takeEdge? (r : TokenReader) (kind : Token.Kind) (rest : List Glyph) : Option TokenReader := do
  let r ← (r.closeBlocks none).dropKey?
  some { r.take kind rest with keyAllowed := false }

/-- The start of a flow collection, which may be a key itself. -/
def takeOpening? (r : TokenReader) (kind : Token.Kind) (rest : List Glyph) :
    Option TokenReader := do
  let r ← r.saveKey?
  some { r.take kind rest with
    key := none, outerKeys := r.key :: r.outerKeys, keyAllowed := true }

/-- The end of a flow collection. -/
def takeClosing? (r : TokenReader) (kind : Token.Kind) (rest : List Glyph) :
    Option TokenReader := do
  let r ← r.dropKey?
  let r := { r.take kind rest with keyAllowed := false }
  match r.outerKeys with
  | [] => some r
  | key :: outerKeys => some { r with key, outerKeys }

/-- A comma. -/
def takeFlowEntry? (r : TokenReader) (rest : List Glyph) : Option TokenReader := do
  let r ← r.dropKey?
  some { r.take .flowEntry rest with keyAllowed := true }

/-- A dash.  In a block it starts an entry, maybe the first one. -/
def takeBlockEntry? (r : TokenReader) (rest : List Glyph) : Option TokenReader :=
  if !r.inFlow && !r.keyAllowed then none
  else do
    let r ← (r.openBlock r.mark r.count .blockSequenceStart).dropKey?
    some { r.take .blockEntry rest with keyAllowed := true }

/-- A question mark, which announces a key. -/
def takeKey? (r : TokenReader) (rest : List Glyph) : Option TokenReader :=
  if !r.inFlow && !r.keyAllowed then none
  else do
    let r ← (r.openBlock r.mark r.count .blockMappingStart).dropKey?
    some { r.take .key rest with keyAllowed := !r.inFlow }

/-- A colon.  If a key is pending, this is its value and the key token goes in
front of the pending one. -/
def takeValue? (r : TokenReader) (rest : List Glyph) : Option TokenReader :=
  match r.key with
  | some key =>
    let r := (r.insert key.position key.mark .key).openBlock key.mark key.position
      .blockMappingStart
    some { r.take .value rest with key := none, keyAllowed := false }
  | none =>
    if !r.inFlow && !r.keyAllowed then none
    else
      let r := r.openBlock r.mark r.count .blockMappingStart
      some { r.take .value rest with keyAllowed := !r.inFlow }

/-- An anchor or an alias. -/
def takeAnchor? (r : TokenReader) (kind : String → Token.Kind) (rest : List Glyph) :
    Option TokenReader := do
  let r ← r.saveKey?
  let (name, rest) ← Name.anchor? rest
  some { r.take (kind name) rest with keyAllowed := false }

/-- A tag. -/
def takeTag? (r : TokenReader) (rest : List Glyph) : Option TokenReader := do
  let r ← r.saveKey?
  let (tag, rest) ← Name.tag? r.inFlow rest
  some { r.take tag rest with keyAllowed := false }

/-- A block scalar. -/
def takeBlockScalar? (r : TokenReader) (folded : Bool) (rest : List Glyph) :
    Option TokenReader := do
  let r ← r.dropKey?
  let (text, rest) ← Block.read? folded r.columns.head? rest
  some { r.take (.scalar text false) rest with keyAllowed := true }

/-- A quoted scalar. -/
def takeQuoted? (r : TokenReader) (quote : Char) (rest : List Glyph) : Option TokenReader := do
  let r ← r.saveKey?
  let (text, rest) ← Quoted.read? quote rest
  some { r.take (.scalar text false) rest with keyAllowed := false }

/-- A plain scalar.  If the white space after it goes over a line, a simple key
may start there. -/
def takePlain? (r : TokenReader) : Option TokenReader := do
  let r ← r.saveKey?
  let setting := ⟨r.inFlow, r.columns.head?.elim 0 (· + 1)⟩
  let (text, crossed, rest) ← Plain.read? setting r.rest
  some { r.take (.scalar text true) rest with keyAllowed := crossed }

/-- Whether a plain scalar may start with this character. -/
def startsPlain (flow : Bool) (c : Char) (rest : List Glyph) : Bool :=
  if c = '-' then !rest.head?.any fun g => isBlank g.char
  else if c = '?' || c = ':' then !flow && !isSpaceOrEnd rest
  else !(isBlank c || isBreak c || ",[]\x7b\x7d#&*!|>'\"%@`".toList.contains c)

/-- The token that starts with a character, `rest` being the text after it. -/
def takeFrom? (r : TokenReader) (c : Char) (rest : List Glyph) : Option TokenReader :=
  let flow := r.inFlow
  if r.mark.column = 0 && c = '%' then do
    let (directive, rest) ← Name.directive? rest
    r.takeEdge? directive rest
  else if isDocumentMarker '-' r.rest then r.takeEdge? .documentStart (rest.drop 2)
  else if isDocumentMarker '.' r.rest then r.takeEdge? .documentEnd (rest.drop 2)
  else if c = '[' then r.takeOpening? .flowSequenceStart rest
  else if c = '{' then r.takeOpening? .flowMappingStart rest
  else if c = ']' then r.takeClosing? .flowSequenceEnd rest
  else if c = '}' then r.takeClosing? .flowMappingEnd rest
  else if c = ',' then r.takeFlowEntry? rest
  else if c = '-' && isSpaceOrEnd rest then r.takeBlockEntry? rest
  else if c = '?' && (flow || isSpaceOrEnd rest) then r.takeKey? rest
  else if c = ':' && (flow || isSpaceOrEnd rest) then r.takeValue? rest
  else if c = '*' then r.takeAnchor? .alias rest
  else if c = '&' then r.takeAnchor? .anchor rest
  else if c = '!' then r.takeTag? rest
  else if c = '|' && !flow then r.takeBlockScalar? false rest
  else if c = '>' && !flow then r.takeBlockScalar? true rest
  else if c = '\'' || c = '"' then r.takeQuoted? c rest
  else if startsPlain flow c rest then r.takePlain?
  else none

/-- The reader, if there are `ahead` characters to come or the text ends before.
What a text that breaks off would go on with, nobody can tell. -/
def reaching? (ahead : Nat) (r : TokenReader) : Option TokenReader :=
  if r.complete || ahead ≤ (r.rest.take ahead).length then some r else none

/-- How many characters tell which token starts: those of a document marker and
the white space after it. -/
def decisive : Nat := 4

/-- Reads one more token, after white space, with the boundaries of blocks that
come with it.  At the end of the text every block ends. -/
def next? (r : TokenReader) : Option TokenReader := do
  let (keyAllowed, rest) := skipWhite r.inFlow false r.keyAllowed r.rest
  let r ← { r with keyAllowed, rest }.expireKeys?
  let r ← r.reaching? decisive
  match r.rest with
  | [] =>
    let r ← (r.closeBlocks none).dropKey?
    some { r.push r.mark .streamEnd with done := true }
  | g :: rest =>
    let r ← (r.closeBlocks (some r.mark.column)).takeFrom? g.char rest
    r.reaching? 1

/-- The tokens that do not depend on a pending key. -/
def settled (r : TokenReader) : List Token :=
  match (r.key :: r.outerKeys).reverse.findSome? id with
  | some key => r.tokens.reverse.take key.position
  | none => r.tokens.reverse

/-- Reads to the end of the text.  A required key that is out of reach after a
token is a fault like one in the token itself.  A token takes a character at
least, so as many steps as there are characters are enough. -/
def read (r : TokenReader) : Nat → Tokens
  | 0 => ⟨r.settled, true⟩
  | steps + 1 =>
    match r.next?.bind expireKeys? with
    | none => ⟨r.settled, true⟩
    | some next => if next.done then ⟨next.tokens.reverse, false⟩ else next.read steps

end TokenReader

/-- The tokens of a text. -/
def Source.tokens (source : Source) : Tokens :=
  (TokenReader.start source).read (source.glyphs.length + 2)

end AdventureTables.Yaml
