import AdventureTables.Yaml.Fault
/-!
# The value of a document

The events of a document are put together to its value.  An alias is replaced
by the node at its anchor, which is read again each time, so aliases may not
be followed without end: neither more than a hundred times as often as the
document has events, nor into collections nested deeper than 128.

Anchors are numbered by how many names there are when they are set.  A name
that is set again leaves a number unused for the next new name, which takes it
over together with the aliases that carry it.

The first fault in the order of the text is reported.  A fault of the text
itself comes after those of the nodes before it.
-/

namespace AdventureTables.Yaml

/-- A part of a document, with anchors by number. -/
inductive Part where
  | reference (anchor : Nat)
  | scalar (tag : Option Tag) (mark : Mark) (text : String) (plain : Bool)
  | sequence (tag : Option Tag) (mark : Mark)
  | mapping (tag : Option Tag) (mark : Mark)
  | close
  deriving Repr

/-- The step from a mapping to the value of the key that starts with a part. -/
def Part.step : Part → Step
  | .scalar _ _ text _ => .key text
  | _ => .unnamed

/-- The parts of a document, the part that each anchor stands for (the latest
one first), and what is wrong after the last part. -/
structure Script where
  parts : Array Part
  anchors : List (Nat × Nat)
  ending : Option Fault
  deriving Repr

/-- Anchors by name, the latest one first. -/
abbrev AnchorNames := List (String × Nat)

/-- The number of names. -/
def AnchorNames.count (names : AnchorNames) : Nat :=
  (names.map Prod.fst).eraseDups.length

/-- A script and the names of its anchors after one more part, which may have
an anchor. -/
def Script.add (script : Script) (names : AnchorNames) (anchor : Option String) (part : Part) :
    Script × AnchorNames :=
  let position := script.parts.size
  let script := { script with parts := script.parts.push part }
  match anchor with
  | none => (script, names)
  | some name =>
    let number := names.count
    ({ script with anchors := (number, position) :: script.anchors }, (name, number) :: names)

/-- The parts that some events tell, up to an alias of no anchor. -/
def Script.ofEvents (script : Script) (names : AnchorNames) : List Event → Script
  | [] => script
  | event :: rest =>
    match event with
    | .alias name mark =>
      match names.lookup name with
      | none => { script with ending := some (.unknownAnchor mark) }
      | some number =>
        let (script, names) := script.add names none (.reference number)
        script.ofEvents names rest
    | .scalar properties text plain =>
      let (script, names) :=
        script.add names properties.anchor (.scalar properties.tag properties.mark text plain)
      script.ofEvents names rest
    | .sequence properties =>
      let (script, names) :=
        script.add names properties.anchor (.sequence properties.tag properties.mark)
      script.ofEvents names rest
    | .mapping properties =>
      let (script, names) :=
        script.add names properties.anchor (.mapping properties.tag properties.mark)
      script.ofEvents names rest
    | .close =>
      let (script, names) := script.add names none .close
      script.ofEvents names rest

/-- What is wrong with a text that goes on like this after its document. -/
def Remainder.fault? : Remainder → Option Fault
  | .nothing => none
  | .another => some .severalDocuments
  | .malformed => some .malformed

/-- The script of a document. -/
def Document.script (document : Document) : Script :=
  Script.ofEvents ⟨#[], [], document.remainder.fault?⟩ [] document.events

/-- How far the reader of a script is: the next part, and how many aliases were
followed. -/
structure Progress where
  position : Nat
  aliases : Nat
  deriving Repr

/-- Reading a script. -/
abbrev Compose := StateT Progress (Except Fault)

namespace Script

/-- The greatest depth of collections. -/
def maxDepth : Nat := 128

/-- How many aliases may be followed for each part of a document. -/
def aliasesPerPart : Nat := 100

/-- The next part.  If there is none, the text is at fault here. -/
def peek (script : Script) : Compose Part := do
  match script.parts[(← get).position]? with
  | some part => return part
  | none => throw (script.ending.getD .malformed)

/-- Goes on to the next part. -/
def advance : Compose Unit :=
  modify fun p => { p with position := p.position + 1 }

/-- Reads something at the part that an anchor stands for, and comes back. -/
def follow {α : Type} (script : Script) (anchor : Nat) (read : Compose α) : Compose α := do
  let progress ← get
  let aliases := progress.aliases + 1
  if script.parts.size * aliasesPerPart < aliases then throw .tooManyAliases
  set (Progress.mk ((script.anchors.lookup anchor).getD script.parts.size) aliases)
  let result ← read
  modify fun p => { p with position := progress.position }
  return result

/-- A scalar as a value. -/
def scalarValue (path : List Step) (mark : Mark) (tag : Option Tag) (text : String)
    (plain : Bool) : Compose Value :=
  match Scalar.value tag text plain with
  | .ok value => return value
  | .error cause => throw (.node path mark (.unreadable cause))

/-- Reads the items of a sequence and its end.  Each item takes a part at
least, so as many steps as there are parts are enough. -/
def items (script : Script) (item : Step → Compose Value) : Nat → Nat → Compose (List Value)
  | 0, _ => throw .malformed
  | steps + 1, index => do
    match ← script.peek with
    | .close => advance; return []
    | _ =>
      let value ← item (.item index)
      return value :: (← items script item steps (index + 1))

/-- Reads the pairs of a mapping and its end.  `pairs` are the ones read so
far, last one first.  A key must differ from those before it. -/
def pairs (script : Script) (key : Compose Value) (value : Step → Compose Value)
    (duplicate : Value → Fault) :
    Nat → List (Value × Value) → Compose (List (Value × Value))
  | 0, _ => throw .malformed
  | steps + 1, read => do
    match ← script.peek with
    | .close => advance; return read.reverse
    | part =>
      let k ← key
      match read.find? fun pair => pair.1.same k with
      | some pair => throw (duplicate pair.1)
      | none =>
        let v ← value part.step
        pairs script key value duplicate steps ((k, v) :: read)

/-- Puts a value under its tag if that is a name of the document's own. -/
def underTag (tag : Option Tag) (value : Value) : Value :=
  match tag with
  | some (.named name) => .tagged name value
  | _ => value

/-- Reads a node at most `depth` collections deep.  `inner` reads the nodes in
it. -/
def nodeWith (script : Script) (inner : Option (List Step → Compose Value))
    (path : List Step) (part : Part) : Compose Value := do
  match part with
  | .reference _ | .close => throw .malformed
  | .scalar tag mark text plain => return underTag tag (← scalarValue path mark tag text plain)
  | .sequence tag mark =>
    match inner with
    | none => throw (.tooDeep mark)
    | some inner =>
      let items ← script.items (fun step => inner (step :: path)) (script.parts.size + 1) 0
      return underTag tag (.seq items)
  | .mapping tag mark =>
    match inner with
    | none => throw (.tooDeep mark)
    | some inner =>
      let pairs ← script.pairs (inner path) (fun step => inner (step :: path))
        (fun key => .node path mark (.duplicateKey key)) (script.parts.size + 1) []
      return underTag tag (.map pairs)

/-- Reads a node, following an alias. -/
def nodeFrom (script : Script) (inner : Option (List Step → Compose Value))
    (path : List Step) : Compose Value := do
  let part ← script.peek
  advance
  match part with
  | .reference anchor =>
    script.follow anchor do
      let part ← script.peek
      advance
      script.nodeWith inner path part
  | part => script.nodeWith inner path part

/-- Reads a node at most `depth` collections deep. -/
def node (script : Script) : Nat → List Step → Compose Value
  | 0 => script.nodeFrom none
  | depth + 1 => script.nodeFrom (some (script.node depth))

/-- Reads a script that is not empty, to its end. -/
def value (script : Script) : Except Fault Value := do
  let value ←
    if script.parts.isEmpty && script.ending.isNone then pure .null
    else (script.node maxDepth []).run' ⟨0, 0⟩
  match script.ending with
  | some fault => throw fault
  | none => return value

end Script

/-- The value of a text that holds one document, or none, which is null. -/
def read (text : String) : Except Fault Value :=
  (Source.ofText text).tokens.document.script.value

end AdventureTables.Yaml
