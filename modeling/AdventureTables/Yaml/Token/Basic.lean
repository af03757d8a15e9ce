import AdventureTables.Yaml.Source
/-!
# The tokens of a YAML text

A token is an indicator of the text (`[`, `-`, `? `), a word of it (an anchor,
a tag, a scalar), or a boundary that the layout implies: the start and the end
of a block collection are seen in the indentation alone.
-/

namespace AdventureTables.Yaml

/-- What a token is. -/
inductive Token.Kind where
  | streamEnd
  | versionDirective (major minor : Nat)
  | tagDirective (handle : String) (start : List UInt8)
  | documentStart
  | documentEnd
  | blockSequenceStart
  | blockMappingStart
  | blockEnd
  | flowSequenceStart
  | flowSequenceEnd
  | flowMappingStart
  | flowMappingEnd
  | blockEntry
  | flowEntry
  | key
  | value
  | alias (name : String)
  | anchor (name : String)
  /-- A tag in two parts: the handle that stands for the first part of it, and
  the octets of the rest.  No handle is written as the empty text. -/
  | tag (handle : String) (rest : List UInt8)
  /-- A scalar, and whether it is written without quotes and not as a block. -/
  | scalar (text : String) (plain : Bool)
  deriving DecidableEq, Repr, Inhabited

/-- A token and the place where it starts. -/
structure Token where
  kind : Token.Kind
  mark : Mark
  deriving DecidableEq, Repr, Inhabited

/-- The white space between two words of a scalar that goes over lines: the
blanks of a line, or the first line break and the ones after it.  No first
break is the mark of an escaped one, which leaves nothing. -/
inductive Gap where
  | blanks (chars : List Char)
  | breaks (first : Option Char) (more : List Char)
  deriving DecidableEq, Repr

/-- What is left of white space between two words.  Blanks stay.  A single
line break becomes a space, and of several the first one goes; a separator
character is never dropped. -/
def Gap.folded : Gap → List Char
  | .blanks chars => chars
  | .breaks (some '\n') [] => [' ']
  | .breaks (some '\n') more => more
  | .breaks first more => first.toList ++ more

/-- White space one character longer. -/
def Gap.push (gap : Gap) (c : Char) : Gap :=
  match gap with
  | .blanks chars => if isBreak c then .breaks (some c) [] else .blanks (chars ++ [c])
  | .breaks first more => if isBreak c then .breaks first (more ++ [c]) else gap

/-- White space that begins with this character. -/
def Gap.start (c : Char) : Gap :=
  (Gap.blanks []).push c

/-- The value of a hexadecimal digit. -/
def hexValue? (c : Char) : Option Nat :=
  if '0' ≤ c ∧ c ≤ '9' then some (c.toNat - '0'.toNat)
  else if 'a' ≤ c ∧ c ≤ 'f' then some (c.toNat - 'a'.toNat + 10)
  else if 'A' ≤ c ∧ c ≤ 'F' then some (c.toNat - 'A'.toNat + 10)
  else none

/-- What a reader of one scalar makes of a character: the text is malformed,
the scalar ended before it or with it, or reading goes on in another state. -/
inductive Reading (σ : Type) where
  | malformed
  | before
  | through
  | onward (state : σ)

end AdventureTables.Yaml
