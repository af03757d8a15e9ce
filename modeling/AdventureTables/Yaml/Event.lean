import AdventureTables.Yaml.Token.Stream
/-!
# The events of a document

A document is a node, and a node is told as a sequence of events: a scalar, an
alias, or the start of a collection, the events of its items and its end.  A
mapping's items are its keys and values in turn.

The events are read off the tokens by a machine with a stack of what it waits
for (`Awaited`).  An event is told as soon as the tokens decide it, and the
token after it exists: if the text is malformed further on, the events before
the fault have been told all the same.
-/

namespace AdventureTables.Yaml

/-- The tag of a node.  A tag that begins with `!` is a name of the
document's own, four others make a scalar a value of one kind, and all the rest
mean no more than "text". -/
inductive Tag where
  | named (name : String)
  | bool
  | int
  | float
  | null
  | other
  deriving DecidableEq, Repr

/-- The tag that some octets write.  A name of the document's own has to be
text, or it is no tag. -/
def Tag.ofOctets? (octets : List UInt8) : Option Tag :=
  match octets with
  | 0x21 :: rest =>
    let name := if rest.isEmpty then octets else rest
    (Utf8.text? (ByteArray.mk name.toArray)).map .named
  | _ =>
    if octets = Utf8.octets "tag:yaml.org,2002:bool" then some .bool
    else if octets = Utf8.octets "tag:yaml.org,2002:int" then some .int
    else if octets = Utf8.octets "tag:yaml.org,2002:float" then some .float
    else if octets = Utf8.octets "tag:yaml.org,2002:null" then some .null
    else some .other

/-- What precedes a node: its anchor, its tag and the place where it starts. -/
structure Properties where
  anchor : Option String
  tag : Option Tag
  mark : Mark
  deriving Repr

/-- A part of a node. -/
inductive Event where
  | alias (name : String) (mark : Mark)
  | scalar (properties : Properties) (text : String) (plain : Bool)
  | sequence (properties : Properties)
  | mapping (properties : Properties)
  | close
  deriving Repr

/-- An empty scalar, where a node is left out. -/
def Event.empty (mark : Mark) : Event :=
  .scalar ⟨none, none, mark⟩ "" true

/-- What the reader of events waits for. -/
inductive Awaited where
  /-- A node, in a block or not, where a sequence may start without being
  indented or not. -/
  | node (block indentless : Bool)
  | blockSequence
  | indentlessSequence
  | blockMappingKey
  | blockMappingValue
  /-- An entry of a flow sequence, or its end; the first one has no comma. -/
  | flowSequence (first : Bool)
  /-- The key, the value and the end of a single pair in a flow sequence. -/
  | flowPairKey
  | flowPairValue
  | flowPairEnd
  | flowMapping (first : Bool)
  | flowMappingValue
  /-- The value of an entry that is a key only. -/
  | flowMappingNoValue
  deriving Repr

/-- Handles of tags and what they stand for. -/
abbrev TagHandles := List (String × List UInt8)

/-- What the reader of events does: the events it tells, what it waits for
now, and the tokens to come. -/
structure Move where
  events : List Event
  awaited : List Awaited
  tokens : List Token

/-- The octets of a tag, if its handle is known. -/
def tagOctets? (handles : TagHandles) (handle : String) (rest : List UInt8) :
    Option (List UInt8) :=
  if handle.isEmpty then some rest
  else (handles.lookup handle).map (· ++ rest)

/-- Reads the anchor and the tag in front of a node, each once, in any order.
Gives the anchor and the octets of the tag. -/
def properties (tokens : List Token) :
    Option String × Option (String × List UInt8) × List Token :=
  match tokens with
  | ⟨.anchor name, _⟩ :: ⟨.tag handle rest, _⟩ :: tokens =>
    (some name, some (handle, rest), tokens)
  | ⟨.anchor name, _⟩ :: tokens => (some name, none, tokens)
  | ⟨.tag handle rest, _⟩ :: ⟨.anchor name, _⟩ :: tokens =>
    (some name, some (handle, rest), tokens)
  | ⟨.tag handle rest, _⟩ :: tokens => (none, some (handle, rest), tokens)
  | tokens => (none, none, tokens)

/-- Reads the start of a node. -/
def node? (handles : TagHandles) (block indentless : Bool) (awaited : List Awaited)
    (tokens : List Token) : Option Move := do
  let first ← tokens.head?
  match first.kind with
  | .alias name => some ⟨[.alias name first.mark], awaited, tokens.tail⟩
  | _ =>
    let (anchor, tag, tokens) := properties tokens
    let token ← tokens.head?
    let octets ←
      match tag with
      | none => some none
      | some (handle, rest) => (tagOctets? handles handle rest).map some
    let properties : Properties := ⟨anchor, octets.bind Tag.ofOctets?, first.mark⟩
    match token.kind with
    | .scalar text plain => some ⟨[.scalar properties text plain], awaited, tokens.tail⟩
    | .flowSequenceStart =>
      some ⟨[.sequence properties], .flowSequence true :: awaited, tokens.tail⟩
    | .flowMappingStart =>
      some ⟨[.mapping properties], .flowMapping true :: awaited, tokens.tail⟩
    | kind =>
      if indentless && kind = .blockEntry then
        some ⟨[.sequence properties], .indentlessSequence :: awaited, tokens⟩
      else if block && kind = .blockSequenceStart then
        some ⟨[.sequence properties], .blockSequence :: awaited, tokens.tail⟩
      else if block && kind = .blockMappingStart then
        some ⟨[.mapping properties], .blockMappingKey :: awaited, tokens.tail⟩
      else if anchor.isSome || tag.isSome then
        some ⟨[.scalar properties "" true], awaited, tokens⟩
      else none

/-- Reads a node in a collection, or an empty one if the next token is one of
those that cannot start it. -/
def nodeUnless? (stops : List Token.Kind) (block indentless : Bool) (awaited : List Awaited)
    (tokens : List Token) : Option Move := do
  let token ← tokens.head?
  if stops.contains token.kind then some ⟨[.empty token.mark], awaited, tokens⟩
  else some ⟨[], .node block indentless :: awaited, tokens⟩

/-- Reads an entry of a flow sequence, before its end. -/
def flowSequenceEntry? (awaited : List Awaited) (tokens : List Token) : Option Move := do
  let token ← tokens.head?
  match token.kind with
  | .key =>
    some ⟨[.mapping ⟨none, none, token.mark⟩], .flowPairKey :: .flowSequence false :: awaited,
      tokens.tail⟩
  | .flowSequenceEnd => some ⟨[.close], awaited, tokens.tail⟩
  | _ => some ⟨[], .node false false :: .flowSequence false :: awaited, tokens⟩

/-- Reads an entry of a flow mapping, before its end. -/
def flowMappingEntry? (awaited : List Awaited) (tokens : List Token) : Option Move := do
  let token ← tokens.head?
  match token.kind with
  | .key =>
    nodeUnless? [.value, .flowEntry, .flowMappingEnd] false false
      (.flowMappingValue :: .flowMapping false :: awaited) tokens.tail
  | .flowMappingEnd => some ⟨[.close], awaited, tokens.tail⟩
  | _ =>
    some ⟨[], .node false false :: .flowMappingNoValue :: .flowMapping false :: awaited, tokens⟩

/-- What the reader does when it waits for something, then for `awaited`, and
`token` is the first of `tokens`. -/
def Awaited.move? (handles : TagHandles) (awaited : List Awaited) (token : Token)
    (tokens : List Token) : Awaited → Option Move
  | .node block indentless => node? handles block indentless awaited tokens
  | .blockSequence =>
    match token.kind with
    | .blockEntry =>
      nodeUnless? [.blockEntry, .blockEnd] true false (.blockSequence :: awaited) tokens.tail
    | .blockEnd => some ⟨[.close], awaited, tokens.tail⟩
    | _ => none
  | .indentlessSequence =>
    match token.kind with
    | .blockEntry => nodeUnless? [.blockEntry, .key, .value, .blockEnd] true false
        (.indentlessSequence :: awaited) tokens.tail
    | _ => some ⟨[.close], awaited, tokens⟩
  | .blockMappingKey =>
    match token.kind with
    | .key =>
      nodeUnless? [.key, .value, .blockEnd] true true (.blockMappingValue :: awaited) tokens.tail
    | .blockEnd => some ⟨[.close], awaited, tokens.tail⟩
    | _ => none
  | .blockMappingValue =>
    match token.kind with
    | .value =>
      nodeUnless? [.key, .value, .blockEnd] true true (.blockMappingKey :: awaited) tokens.tail
    | _ => some ⟨[.empty token.mark], .blockMappingKey :: awaited, tokens⟩
  | .flowSequence first =>
    match token.kind with
    | .flowSequenceEnd => some ⟨[.close], awaited, tokens.tail⟩
    | kind =>
      if first then flowSequenceEntry? awaited tokens
      else if kind = .flowEntry then flowSequenceEntry? awaited tokens.tail
      else none
  | .flowPairKey =>
    match token.kind with
    | .value | .flowEntry | .flowSequenceEnd =>
      some ⟨[.empty token.mark], .flowPairValue :: awaited, tokens.tail⟩
    | _ => some ⟨[], .node false false :: .flowPairValue :: awaited, tokens⟩
  | .flowPairValue =>
    match token.kind with
    | .value =>
      nodeUnless? [.flowEntry, .flowSequenceEnd] false false (.flowPairEnd :: awaited) tokens.tail
    | _ => some ⟨[.empty token.mark], .flowPairEnd :: awaited, tokens⟩
  | .flowPairEnd => some ⟨[.close], awaited, tokens⟩
  | .flowMapping first =>
    match token.kind with
    | .flowMappingEnd => some ⟨[.close], awaited, tokens.tail⟩
    | kind =>
      if first then flowMappingEntry? awaited tokens
      else if kind = .flowEntry then flowMappingEntry? awaited tokens.tail
      else none
  | .flowMappingValue =>
    match token.kind with
    | .value =>
      nodeUnless? [.flowEntry, .flowMappingEnd] false false awaited tokens.tail
    | _ => some ⟨[.empty token.mark], awaited, tokens⟩
  | .flowMappingNoValue => some ⟨[.empty token.mark], awaited, tokens⟩

/-- Reads events until nothing is awaited.  Gives the events and the tokens
after them, or no tokens if the text is malformed.  A token is looked at a few
times at most, so ten steps a token are enough. -/
def readEvents (handles : TagHandles) : Nat → List Awaited → List Token →
    List Event × Option (List Token)
  | _, [], [] => ([], none)
  | _, [], tokens => ([], some tokens)
  | 0, _, _ => ([], none)
  | _, _, [] => ([], none)
  | steps + 1, awaited :: others, token :: tokens =>
    match awaited.move? handles others token (token :: tokens) with
    | none => ([], none)
    | some move =>
      let (events, rest) := readEvents handles steps move.awaited move.tokens
      (move.events ++ events, rest)

/-- What a text holds after its first document. -/
inductive Remainder where
  | nothing
  | another
  | malformed
  deriving DecidableEq, Repr

/-- The events of the first document of a text and what comes after it.  A
text without a document has no events. -/
structure Document where
  events : List Event
  remainder : Remainder
  deriving Repr

/-- The handles that need no directive. -/
def standardHandles : TagHandles :=
  [("!", Utf8.octets "!"), ("!!", Utf8.octets "tag:yaml.org,2002:")]

/-- Reads the directives of a document: a version, at most once and no other
than 1.1 and 1.2, and handles, each at most once. -/
def directives? (version : Bool) (handles : TagHandles) : List Token →
    Option (TagHandles × List Token)
  | ⟨.versionDirective major minor, _⟩ :: tokens =>
    if version || major ≠ 1 || (minor ≠ 1 && minor ≠ 2) then none
    else directives? true handles tokens
  | ⟨.tagDirective handle start, _⟩ :: tokens =>
    if (handles.lookup handle).isSome then none
    else directives? version ((handle, start) :: handles) tokens
  | tokens => some (handles, tokens)

/-- Reads the node of a document and finds out what comes after it: the end of
the text, with or without a marker, or something else. -/
def Document.ofContent (handles : TagHandles) (tokens : List Token) : Document :=
  let (events, rest) := readEvents handles (10 * tokens.length + 10) [.node true false] tokens
  match rest with
  | none => ⟨events, .malformed⟩
  | some rest => ⟨events, after rest⟩
where
  /-- The end of a document, which may be marked more than once. -/
  after (tokens : List Token) : Remainder :=
    match tokens.dropWhile (·.kind = .documentEnd) with
    | ⟨.streamEnd, _⟩ :: _ => .nothing
    | _ => .another

/-- Reads a document after its `---`, which may be empty. -/
def Document.ofExplicit (handles : TagHandles) (tokens : List Token) : Document :=
  match tokens with
  | [] => ⟨[], .malformed⟩
  | token :: _ =>
    let isEdge : Bool :=
      match token.kind with
      | .versionDirective .. | .tagDirective .. | .documentStart | .documentEnd | .streamEnd => true
      | _ => false
    if isEdge then ⟨[.empty token.mark], ofContent.after tokens⟩
    else ofContent handles tokens

/-- The first document of a text. -/
def Tokens.document (tokens : Tokens) : Document :=
  match tokens.list with
  | [] => ⟨[], .malformed⟩
  | token :: rest =>
    match token.kind with
    | .streamEnd => ⟨[], .nothing⟩
    | .versionDirective .. | .tagDirective .. | .documentStart =>
      match directives? false [] (token :: rest) with
      | some (handles, ⟨.documentStart, _⟩ :: tokens) =>
        Document.ofExplicit (handles ++ standardHandles) tokens
      | _ => ⟨[], .malformed⟩
    | _ => Document.ofContent standardHandles (token :: rest)

end AdventureTables.Yaml
