/-!
# Octets and text

Text enters and leaves the program as octets.  A file is text only when all
of it is well-formed UTF-8 (`text?`), and a name on a path is shown even when
it is not: every maximal piece that cannot be part of a character becomes one
replacement character (`lossy`).

The reader of ill-formed octets is a machine (`Progress`, `step`) that looks
at one octet at a time and never looks back, so a piece is cut off exactly at
the first octet that no character could have there.  Well-formed octets are
shown as what they write (`lossy_octets`).
-/

namespace AdventureTables.Utf8

/-- The octets that write a text. -/
def octets (text : String) : List UInt8 :=
  text.toByteArray.data.toList

/-- The text that a file's octets write, if they are well-formed UTF-8. -/
def text? (content : ByteArray) : Option String :=
  String.fromUTF8? content

/-- A text is read back from its octets. -/
theorem text?_toByteArray (text : String) : text? text.toByteArray = some text := by
  simp [text?, String.fromUTF8?, String.fromUTF8, text.isValidUTF8]

/-- A run of octets is a character, or a stray piece that no character has. -/
inductive Piece where
  | char (c : Char)
  | stray (octets : List UInt8)
  deriving DecidableEq, Repr

/-- Where the reader stands: between characters, or inside one that began with
the octets `seen` (last first), with `owed` octets to come, the next of them
between `low` and `high`, and `value` read so far. -/
inductive Progress where
  | between
  | inside (seen : List UInt8) (owed : Nat) (low high : UInt8) (value : Nat)
  deriving Repr

/-- What the first octet of a character promises.  An octet that opens no
character is a piece of its own. -/
def opening (octet : UInt8) : List Piece × Progress :=
  let value := octet.toNat
  if octet < 0x80 then ([.char (Char.ofNat value)], .between)
  else if octet < 0xC2 then ([.stray [octet]], .between)
  else if octet < 0xE0 then ([], .inside [octet] 1 0x80 0xBF (value - 0xC0))
  else if octet = 0xE0 then ([], .inside [octet] 2 0xA0 0xBF 0)
  else if octet = 0xED then ([], .inside [octet] 2 0x80 0x9F 0xD)
  else if octet < 0xF0 then ([], .inside [octet] 2 0x80 0xBF (value - 0xE0))
  else if octet = 0xF0 then ([], .inside [octet] 3 0x90 0xBF 0)
  else if octet < 0xF4 then ([], .inside [octet] 3 0x80 0xBF (value - 0xF0))
  else if octet = 0xF4 then ([], .inside [octet] 3 0x80 0x8F 4)
  else ([.stray [octet]], .between)

/-- One octet.  Inside a character an octet out of range ends the piece read
so far and opens the next one. -/
def step : Progress → UInt8 → List Piece × Progress
  | .between, octet => opening octet
  | .inside seen owed low high value, octet =>
    if low ≤ octet ∧ octet ≤ high then
      let value := value * 64 + (octet.toNat - 0x80)
      if owed ≤ 1 then ([.char (Char.ofNat value)], .between)
      else ([], .inside (octet :: seen) (owed - 1) 0x80 0xBF value)
    else
      let (pieces, progress) := opening octet
      (.stray seen.reverse :: pieces, progress)

/-- The pieces that some octets fall into. -/
def pieces : Progress → List UInt8 → List Piece
  | .between, [] => []
  | .inside seen _ _ _ _, [] => [.stray seen.reverse]
  | progress, octet :: rest =>
    let (read, progress) := step progress octet
    read ++ pieces progress rest

/-- A piece as it is shown: a stray one as the replacement character. -/
def Piece.shown : Piece → Char
  | .char c => c
  | .stray _ => '\uFFFD'

/-- The text of some octets, with the replacement character in place of each
stray piece. -/
def lossy (name : List UInt8) : String :=
  match text? (ByteArray.mk name.toArray) with
  | some text => text
  | none => String.ofList ((pieces .between name).map Piece.shown)

/-- What is text is shown as it is. -/
theorem lossy_octets (text : String) : lossy (octets text) = text := by
  have h : ByteArray.mk (octets text).toArray = text.toByteArray := by
    simp [octets]
  simp [lossy, h, text?_toByteArray]

end AdventureTables.Utf8
