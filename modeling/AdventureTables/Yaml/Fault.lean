import AdventureTables.Decimal.Layout
import AdventureTables.Text.Quoted
import AdventureTables.Yaml.Scalar
/-!
# What can be wrong with a YAML text

A fault has a cause and, where it lies in one node, the path to the node from
the root and its place in the text.  The wording of each fault is here and
nowhere else.
-/

namespace AdventureTables.Yaml

/-- A step on the way from the root of a document to a node. -/
inductive Step where
  | item (index : Nat)
  | key (text : String)
  /-- The value of a key that is not written as a scalar. -/
  | unnamed
  deriving DecidableEq, Repr

/-- What is wrong with a node. -/
inductive Cause where
  /-- A mapping has two equal keys, the first of which is this. -/
  | duplicateKey (key : Value)
  | unreadable (scalar : Unreadable)
  deriving Repr

/-- What is wrong with a text. -/
inductive Fault where
  /-- The text is not YAML. -/
  | malformed
  /-- An alias has no anchor before it. -/
  | unknownAnchor (mark : Mark)
  /-- Collections are nested too deep. -/
  | tooDeep (mark : Mark)
  /-- Aliases are followed too often. -/
  | tooManyAliases
  /-- There is more than one document. -/
  | severalDocuments
  /-- A node is at fault; the path goes from the node up. -/
  | node (path : List Step) (mark : Mark) (cause : Cause)
  deriving Repr

/-- How a number is written as a key: in full between 1e-5 and 1e16. -/
def keyLayout : Decimal.Layout where
  positional point := -5 < point && point ≤ 16
  nan := ".nan"
  infinite := ".inf"

/-- A number as a key. -/
def Number.asKey : Number → String
  | .int n => toString n
  | .float x => keyLayout.write x

/-- The kinds of scalar as a diagnostic names them. -/
def ScalarKind.description : ScalarKind → String
  | .bool => "a boolean"
  | .int => "an integer"
  | .float => "a float"
  | .null => "null"

/-- The wording for a scalar that cannot be read. -/
def Unreadable.message : Unreadable → String
  | .tooWide n =>
    let type := if n < 0 then "i128" else "u128"
    s!"invalid type: integer `{n}` as {type}, expected any YAML value"
  | .notA kind text =>
    "invalid value: string " ++ Text.quoted text ++ ", expected " ++ kind.description

/-- The wording for a key that was there before. -/
def duplicateMessage : Value → String
  | .null => "duplicate entry with null key"
  | .bool b => s!"duplicate entry with key `{b}`"
  | .number n => "duplicate entry with key " ++ n.asKey
  | .string s => "duplicate entry with key " ++ Text.quoted s
  | _ => "duplicate entry in YAML map"

/-- The wording for a node at fault. -/
def Cause.message : Cause → String
  | .duplicateKey key => duplicateMessage key
  | .unreadable scalar => scalar.message

/-- A path as it is written, given from the node up.  An index follows what it
belongs to, with a point for the root; a key follows a point, except at the
root. -/
def pathText : List Step → String
  | [] => "."
  | .item index :: parent => pathText parent ++ "[" ++ toString index ++ "]"
  | .key text :: parent => parentText parent ++ text
  | .unnamed :: parent => parentText parent ++ "?"
where
  /-- What a key is appended to. -/
  parentText : List Step → String
    | [] => ""
    | step :: parent => pathText (step :: parent) ++ "."

/-- A place as it is written, counted from one.  The very first one is left
out. -/
def Mark.text (mark : Mark) : String :=
  if mark.line = 0 ∧ mark.column = 0 then ""
  else s!" at line {mark.line + 1} column {mark.column + 1}"

/-- What comes before the wording for a node at fault: its path, but for the
root.  A key that is written as the root is leaves nothing either. -/
def pathLabel (path : List Step) : String :=
  let text := pathText path
  if text = "." then "" else text ++ ": "

/-- The wording for a fault. -/
def Fault.message : Fault → String
  | .malformed => "the text is not well-formed YAML"
  | .unknownAnchor mark => "unknown anchor" ++ mark.text
  | .tooDeep mark => "recursion limit exceeded" ++ mark.text
  | .tooManyAliases => "repetition limit exceeded"
  | .severalDocuments =>
    "deserializing from YAML containing more than one document is not supported"
  | .node path mark cause => pathLabel path ++ cause.message ++ mark.text

end AdventureTables.Yaml
