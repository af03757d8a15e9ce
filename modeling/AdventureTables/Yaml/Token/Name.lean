import AdventureTables.Text.Utf8
import AdventureTables.Yaml.Token.Basic
/-!
# Anchors, tags and directives

The words that begin with `&`, `*`, `!` and, at the start of a line, `%`.  A
tag is written as a shorthand (`!x`, `!!int`, `!e!x`), whose first part stands
for what a directive says, or in full between `!<` and `>`.  In all of them an
octet may be given by two hexadecimal digits after `%`.
-/

namespace AdventureTables.Yaml.Name

/-- The characters of anchors and of tag handles. -/
def isWordChar (c : Char) : Bool :=
  c.isAlphanum || c = '_' || c = '-'

/-- A word, maybe empty, and what follows it. -/
def word (glyphs : List Glyph) : String × List Glyph :=
  (textOf (glyphs.takeWhile fun g => isWordChar g.char),
    glyphs.dropWhile fun g => isWordChar g.char)

/-- The characters that may follow an anchor directly. -/
def mayFollowAnchor : List Glyph → Bool
  | [] => true
  | g :: _ => isBlank g.char || isBreak g.char || "?:,]\x7d%@`".toList.contains g.char

/-- Reads the name of an anchor after its indicator. -/
def anchor? (glyphs : List Glyph) : Option (String × List Glyph) :=
  let (name, rest) := word glyphs
  if name.isEmpty || !mayFollowAnchor rest then none else some (name, rest)

/-- The characters of a tag; flow indicators only between `!<` and `>`. -/
def isTagChar (full : Bool) (c : Char) : Bool :=
  isWordChar c || ";/?:@&=+$.%!~*'()".toList.contains c || (full && ",[]".toList.contains c)

/-- The number of octets of the character that starts with this one. -/
def width? (octet : Nat) : Option Nat :=
  if octet < 0x80 then some 1
  else if octet < 0xC0 then none
  else if octet < 0xE0 then some 2
  else if octet < 0xF0 then some 3
  else if octet < 0xF8 then some 4
  else none

/-- The number of octets still owed after one, `owed` of them being owed
before it. -/
def owedAfter? (owed octet : Nat) : Option Nat :=
  if owed = 0 then (width? octet).map (· - 1)
  else if 0x80 ≤ octet ∧ octet < 0xC0 then some (owed - 1)
  else none

/-- Reads the octets of a tag.  An escaped character has to be complete. -/
def tagOctets? (full : Bool) (owed : Nat) : List Glyph → Option (List UInt8 × List Glyph)
  | [] => if owed = 0 then some ([], []) else none
  | g :: rest =>
    if g.char = '%' then
      match rest with
      | a :: b :: rest => do
        let octet := (← hexValue? a.char) * 16 + (← hexValue? b.char)
        let (octets, rest) ← tagOctets? full (← owedAfter? owed octet) rest
        some (UInt8.ofNat octet :: octets, rest)
      | _ => none
    else if owed ≠ 0 then none
    else if isTagChar full g.char then do
      let (octets, rest) ← tagOctets? full 0 rest
      some (UInt8.ofNat g.char.toNat :: octets, rest)
    else some ([], g :: rest)

/-- The octets before the first zero, where a tag ends. -/
def untilZero (octets : List UInt8) : List UInt8 :=
  octets.takeWhile (· ≠ 0)

/-- Reads the octets of a tag, of which there must be some unless part of the
tag was read already. -/
def tagRest? (full started : Bool) (glyphs : List Glyph) : Option (List UInt8 × List Glyph) := do
  let (octets, rest) ← tagOctets? full 0 glyphs
  if octets.isEmpty && !started then none else some (octets, rest)

/-- Reads a tag in full, after `!<`. -/
def fullTag? (glyphs : List Glyph) : Option (Token.Kind × List Glyph) := do
  let (octets, rest) ← tagRest? true false glyphs
  if startsWith '>' rest then some (.tag "" (untilZero octets), rest.tail) else none

/-- Reads a shorthand tag, after its `!`.  A lone `!` has no handle. -/
def shortTag? (glyphs : List Glyph) : Option (Token.Kind × List Glyph) := do
  let (name, rest) := word glyphs
  if startsWith '!' rest then
    let (octets, rest) ← tagRest? false false rest.tail
    some (.tag ("!" ++ name ++ "!") (untilZero octets), rest)
  else
    let (octets, rest) ← tagRest? false true rest
    match untilZero (Utf8.octets name ++ octets) with
    | [] => some (.tag "" (Utf8.octets "!"), rest)
    | octets => some (.tag "!" octets, rest)

/-- Reads a tag after its `!`.  White space must follow, or in a flow
collection a comma. -/
def tag? (flow : Bool) (glyphs : List Glyph) : Option (Token.Kind × List Glyph) := do
  let (tag, rest) ← if startsWith '<' glyphs then fullTag? glyphs.tail else shortTag? glyphs
  if isSpaceOrEnd rest || (flow && startsWith ',' rest) then some (tag, rest) else none

/-- Reads a number of a version, of nine digits at most. -/
def versionNumber? (glyphs : List Glyph) : Option (Nat × List Glyph) :=
  let digits := glyphs.takeWhile fun g => g.char.isDigit
  if digits.isEmpty || 9 < digits.length then none
  else
    some (digits.foldl (fun n g => n * 10 + (g.char.toNat - '0'.toNat)) 0,
      glyphs.drop digits.length)

/-- Reads what a `%YAML` directive says. -/
def version? (glyphs : List Glyph) : Option (Token.Kind × List Glyph) := do
  let (major, rest) ← versionNumber? (dropBlanks glyphs)
  if !startsWith '.' rest then none
  else
    let (minor, rest) ← versionNumber? rest.tail
    some (.versionDirective major minor, rest)

/-- Reads what a `%TAG` directive says: a handle and the start of the tags it
stands for. -/
def tagDirective? (glyphs : List Glyph) : Option (Token.Kind × List Glyph) := do
  let glyphs := dropBlanks glyphs
  if !startsWith '!' glyphs then none
  else
    let (name, rest) := word glyphs.tail
    let (handle, rest) ←
      if startsWith '!' rest then some ("!" ++ name ++ "!", rest.tail)
      else if name.isEmpty then some ("!", rest)
      else none
    if !rest.head?.any fun g => isBlank g.char then none
    else
      let (octets, rest) ← tagRest? true false (dropBlanks rest)
      if isSpaceOrEnd rest then some (.tagDirective handle (untilZero octets), rest) else none

/-- Reads a directive after its `%`, with the end of its line. -/
def directive? (glyphs : List Glyph) : Option (Token.Kind × List Glyph) := do
  let (name, rest) := word glyphs
  if !isSpaceOrEnd rest then none
  else
    let (directive, rest) ←
      match name with
      | "YAML" => version? rest
      | "TAG" => tagDirective? rest
      | _ => none
    let rest := dropBlanks rest
    let rest := if startsWith '#' rest then dropLine rest else rest
    match rest with
    | [] => some (directive, [])
    | g :: rest => if isBreak g.char then some (directive, rest) else none

end AdventureTables.Yaml.Name
