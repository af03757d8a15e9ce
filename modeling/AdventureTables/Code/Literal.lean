/-!
# String literals of C

A text becomes a literal by escaping the four characters that a literal cannot
hold, or that are easier to read escaped: line feed, tab and the two quotes.
A backslash stays as it is, so a text may spell an escape of its own, and one
that ends in a backslash swallows the closing quote.

A text that is absent becomes the null pointer.
-/

namespace AdventureTables.Code

/-- The null pointer. -/
def null : String := "NULL"

/-- How a character is written in a literal. -/
def escapeChar : Char → List Char
  | '\n' => ['\\', 'n']
  | '\t' => ['\\', 't']
  | '"' => ['\\', '"']
  | '\'' => ['\\', '\'']
  | c => [c]

/-- A text as it is written in a literal. -/
def escape (text : String) : String :=
  String.ofList (text.toList.flatMap escapeChar)

/-- A text between double quotes. -/
def quote (text : String) : String :=
  "\"" ++ text ++ "\""

/-- The literal of a text. -/
def literal (text : String) : String :=
  quote (escape text)

/-- The literal of a text, or the null pointer if there is none. -/
def literalOrNull : Option String → String
  | some text => literal text
  | none => null

end AdventureTables.Code
