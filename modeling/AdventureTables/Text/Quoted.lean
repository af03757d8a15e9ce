import AdventureTables.Text.Shown
import AdventureTables.Text.Utf8
/-!
# Text between quotes in a diagnostic

A diagnostic that names a text (`string "a\n"`, `duplicate entry with key
"k"`) shows it between double quotes.  Backslash, double quote and the usual
control characters have a short spelling, every other character that is not
shown as it is (`isShown`) is spelled `\u` and its number in hexadecimal
between braces.  A path is shown likewise (`quotedPath`), with the octets that
are no text spelled one by one.
-/

namespace AdventureTables.Text

/-- The digit of a hexadecimal place, in lower case. -/
def hexDigit (n : Nat) : Char :=
  if n < 10 then Char.ofNat ('0'.toNat + n) else Char.ofNat ('a'.toNat + (n - 10))

/-- The fewest hexadecimal digits of a number. -/
def hexDigits (n : Nat) : List Char :=
  if n < 16 then [hexDigit n] else hexDigits (n / 16) ++ [hexDigit (n % 16)]

/-- How a character is written between quotes. -/
def spelling (c : Char) : List Char :=
  match c with
  | '\x00' => ['\\', '0']
  | '\t' => ['\\', 't']
  | '\r' => ['\\', 'r']
  | '\n' => ['\\', 'n']
  | '\\' => ['\\', '\\']
  | '"' => ['\\', '"']
  | c => if isShown c then [c] else ['\\', 'u', '\x7b'] ++ hexDigits c.toNat ++ ['\x7d']

/-- A text between quotes. -/
def quoted (text : String) : String :=
  String.ofList (['"'] ++ text.toList.flatMap spelling ++ ['"'])

/-- How a piece of a path is written between quotes.  Here a single quote is
escaped too. -/
def pathSpelling : Utf8.Piece → List Char
  | .char c => if c = '\'' then ['\\', '\''] else spelling c
  | .stray octets => octets.flatMap fun octet =>
      ['\\', 'x'] ++ [octet.toNat / 16, octet.toNat % 16].map fun n => (hexDigit n).toUpper

/-- A path, given by its octets, between quotes. -/
def quotedPath (path : List UInt8) : String :=
  String.ofList (['"'] ++ (Utf8.pieces .between path).flatMap pathSpelling ++ ['"'])

end AdventureTables.Text
