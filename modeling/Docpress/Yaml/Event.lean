import Docpress.Yaml.Token
/-!
From tokens to events, which say where documents, collections and scalars begin and end. What is
missing, such as the value of a key, becomes an empty scalar.
-/

namespace Docpress.Yaml

/-- The tag of a node as the document gives it: none, the one that leaves the type open, or one by
    name. -/
inductive GivenTag where
  | absent
  | undecided
  | named (tag : Text)
deriving DecidableEq, Repr

/-- What an event is. -/
inductive EventKind where
  | streamStart
  | streamEnd
  | documentStart
  | documentEnd
  | alias (anchor : Text)
  /-- A scalar; the type of a plain one depends on its text. -/
  | scalar (anchor : Option Text) (tag : GivenTag) (s : ScalarText) (plain : Bool)
  | sequenceStart (anchor : Option Text) (tag : GivenTag)
  | sequenceEnd
  | mappingStart (anchor : Option Text) (tag : GivenTag)
  | mappingEnd
deriving DecidableEq, Repr

/-- An event, and where it starts. -/
structure Event where
  kind : EventKind
  start : Mark
deriving DecidableEq, Repr

/-- What is to be read next. -/
inductive Goal where
  | streamStart
  | implicitDocument
  | document
  | documentEnd
  | documentContent
  | blockNode
  | blockEntry
  | looseEntry
  | blockKey
  | blockValue
  | flowEntry (first : Bool)
  | pairKey
  | pairValue
  | pairEnd
  | flowKey (first : Bool)
  | flowValue
  | emptyFlowValue
deriving DecidableEq, Repr

/-- The state of reading events. -/
structure EventReader where
  tokens : List Token
  /-- What comes after the last token. -/
  fault : Option Fault
  goal : Option Goal := some .streamStart
  /-- What is to be read when a node is done. -/
  goals : List Goal := []
  /-- Where the collections that are open begin. -/
  marks : List Mark := []
  shorthands : List (Text × Text) := []

/-- A fault in the structure of a document. -/
def eventFault (context : Option String) (contextMark : Option Mark) (problem : Text)
    (mark : Mark) : Fault :=
  .placed ⟨.event, context.map String.toList, contextMark, problem, mark⟩

/-- The shorthands for tags that every document has. -/
def standardShorthands : List (Text × Text) :=
  [(['!'], ['!']), ("!!".toList, "tag:yaml.org,2002:".toList)]

namespace EventReader

/-- The next token. -/
def peek (r : EventReader) : Except Fault Token :=
  match r.tokens with
  | t :: _ => .ok t
  | [] => .error (r.fault.getD (eventFault none none [] {}))

/-- The reader after the next token. -/
def next (r : EventReader) : EventReader :=
  { r with tokens := r.tokens.drop 1 }

/-- Read something else next. -/
def goTo (r : EventReader) (goal : Goal) : EventReader :=
  { r with goal := some goal }

/-- Read something else when the node that comes next is done. -/
def push (r : EventReader) (goal : Goal) : EventReader :=
  { r with goals := goal :: r.goals }

/-- A node is done. -/
def pop (r : EventReader) : EventReader :=
  { r with goal := r.goals.head?, goals := r.goals.drop 1 }

/-- A collection is done. -/
def close (r : EventReader) : EventReader :=
  { r with marks := r.marks.drop 1 }.pop

/-- A collection begins. -/
def enter (r : EventReader) (mark : Mark) : EventReader :=
  { r with marks := mark :: r.marks }

/-- Where the collection that is open begins. -/
def opened (r : EventReader) : Option Mark :=
  r.marks.head?

/-- An empty scalar. -/
def emptyScalar (mark : Mark) : Event :=
  ⟨.scalar none .absent { chars := [] } true, mark⟩

/-- The outcome of a step: an event and what comes after it. -/
abbrev Step := Except Fault (Event × EventReader)

/-- An empty scalar, and what is to be read after it. -/
def yieldEmpty (r : EventReader) (mark : Mark) (goal : Goal) : Step :=
  .ok (emptyScalar mark, r.goTo goal)

/-! ### Nodes -/

/-- The properties of a node: its anchor, its tag and where they begin. -/
structure Properties where
  anchor : Option Text := none
  tag : Option (Option Text × Text) := none
  start : Option Mark := none
  tagMark : Option Mark := none

/-- Read the anchor and the tag of a node, in either order. -/
def readProperties (r : EventReader) : Except Fault (Properties × EventReader) := do
  let t ← r.peek
  match t.kind with
  | .anchor name =>
    let r := r.next
    let u ← r.peek
    match u.kind with
    | .tag handle suffix =>
      return (⟨some name, some (handle, suffix), some t.start, some u.start⟩, r.next)
    | _ => return (⟨some name, none, some t.start, none⟩, r)
  | .tag handle suffix =>
    let r := r.next
    let u ← r.peek
    match u.kind with
    | .anchor name =>
      return (⟨some name, some (handle, suffix), some t.start, some t.start⟩, r.next)
    | _ => return (⟨none, some (handle, suffix), some t.start, some t.start⟩, r)
  | _ => return ({}, r)

/-- The tag that the properties of a node give; a handle stands for what a shorthand says. -/
def resolveTag (r : EventReader) (p : Properties) : Except Fault GivenTag :=
  let given (tag : Text) : GivenTag := if tag == ['!'] then .undecided else .named tag
  match p.tag with
  | none => .ok .absent
  | some (none, suffix) => .ok (given suffix)
  | some (some handle, suffix) =>
    match r.shorthands.lookup handle with
    | some lead => .ok (given (lead ++ suffix))
    | none =>
      .error (eventFault (some "while parsing a node") p.start
        ("found undefined tag handle ".toList ++ Text.quoted handle) (p.tagMark.getD {}))

/-- The type of a scalar depends on its text: it is plain and has no tag, or its tag leaves the type
    open. -/
def isOpenScalar (plain : Bool) : GivenTag → Bool
  | .absent => plain
  | .undecided => true
  | .named _ => false

/-- Read a node. A block may begin only where `block` says so, and a list without further
    indentation only where `loose` says so. -/
def readNode (r : EventReader) (block loose : Bool) : Step := do
  let t ← r.peek
  if let .alias anchor := t.kind then return (⟨.alias anchor, t.start⟩, r.next.pop)
  let (p, r) ← r.readProperties
  let tag ← r.resolveTag p
  let t ← r.peek
  let start := p.start.getD t.start
  match t.kind with
  | .blockEntry =>
    if loose then return (⟨.sequenceStart p.anchor tag, start⟩, r.goTo .looseEntry)
  | .scalar s plain =>
    return (⟨.scalar p.anchor tag s (isOpenScalar plain tag), start⟩, r.next.pop)
  | .flowSequenceStart =>
    return (⟨.sequenceStart p.anchor tag, start⟩, (r.next.enter t.start).goTo (.flowEntry true))
  | .flowMappingStart =>
    return (⟨.mappingStart p.anchor tag, start⟩, (r.next.enter t.start).goTo (.flowKey true))
  | .blockSequenceStart =>
    if block then
      return (⟨.sequenceStart p.anchor tag, start⟩, (r.next.enter t.start).goTo .blockEntry)
  | .blockMappingStart =>
    if block then
      return (⟨.mappingStart p.anchor tag, start⟩, (r.next.enter t.start).goTo .blockKey)
  | _ => pure ()
  if p.anchor.isSome || p.tag.isSome then
    let isOpen := match tag with
      | .named _ => false
      | _ => true
    return (⟨.scalar p.anchor tag { chars := [] } isOpen, start⟩, r.pop)
  else
    throw (eventFault (some (if block then "while parsing a block node"
      else "while parsing a flow node")) (some start)
      ("expected the node content, but found ".toList ++ Text.quoted t.kind.name) t.start)

/-! ### Documents -/

/-- Read the directives before a document. The version must be 1, and no directive may be given
    twice. -/
def readDirectives (versioned : Bool) (shorthands : List (Text × Text)) :
    List Token → Except Fault (List (Text × Text) × List Token)
  | [] => .ok (shorthands, [])
  | t :: rest =>
    match t.kind with
    | .directive (.version major _) =>
      if versioned then
        .error (eventFault none none "found duplicate YAML directive".toList t.start)
      else if major != 1 then
        .error (eventFault none none
          "found incompatible YAML document (version 1.* is required)".toList t.start)
      else readDirectives true shorthands rest
    | .directive (.shorthand handle lead) =>
      if (shorthands.lookup handle).isSome then
        .error (eventFault none none ("duplicate tag handle ".toList ++ Text.quoted handle) t.start)
      else readDirectives versioned (shorthands ++ [(handle, lead)]) rest
    | .directive .other => readDirectives versioned shorthands rest
    | _ => .ok (shorthands, t :: rest)

/-- Begin a document that is marked, or end the stream. -/
def readDocument (r : EventReader) : Step := do
  let r := { r with tokens := r.tokens.dropWhile fun t => t.kind == TokenKind.documentEnd }
  let t ← r.peek
  if t.kind == .streamEnd then return (⟨.streamEnd, t.start⟩, { r.next with goal := none })
  let (shorthands, tokens) ← readDirectives false [] r.tokens
  let r := { r with tokens, shorthands := shorthands ++ standardShorthands }
  let u ← r.peek
  if u.kind != .documentStart then
    throw (eventFault none none
      ("expected '<document start>', but found ".toList ++ Text.quoted u.kind.name) u.start)
  return (⟨.documentStart, t.start⟩, (r.next.push .documentEnd).goTo .documentContent)

/-- Begin the first document, which need not be marked. -/
def readImplicitDocument (r : EventReader) : Step := do
  let t ← r.peek
  match t.kind with
  | .directive _ => r.readDocument
  | .documentStart => r.readDocument
  | .streamEnd => r.readDocument
  | _ =>
    let r := { r with shorthands := standardShorthands }
    return (⟨.documentStart, t.start⟩, (r.push .documentEnd).goTo .blockNode)

/-- End a document, which may be marked. -/
def readDocumentEnd (r : EventReader) : Step := do
  let t ← r.peek
  let r := if t.kind == .documentEnd then r.next else r
  return (⟨.documentEnd, t.start⟩, r.goTo .document)

/-- Read the content of a document that is marked; it may be missing. -/
def readDocumentContent (r : EventReader) : Step := do
  let t ← r.peek
  let isMissing := match t.kind with
    | .directive _ => true
    | .documentStart => true
    | .documentEnd => true
    | .streamEnd => true
    | _ => false
  if isMissing then return (emptyScalar t.start, r.pop) else r.readNode true false

/-! ### Collections -/

/-- The fault of a collection that goes on with something else than it may. -/
def unexpected (r : EventReader) (context expected : String) (t : Token) : Fault :=
  eventFault (some context) r.opened (expected.toList ++ Text.quoted t.kind.name) t.start

/-- Read an item of a block, or its end. -/
def readBlockEntry (r : EventReader) : Step := do
  let t ← r.peek
  match t.kind with
  | .blockEntry =>
    let r := r.next
    let u ← r.peek
    match u.kind with
    | .blockEntry => r.yieldEmpty t.stop .blockEntry
    | .blockEnd => r.yieldEmpty t.stop .blockEntry
    | _ => (r.push .blockEntry).readNode true false
  | .blockEnd => return (⟨.sequenceEnd, t.start⟩, r.next.close)
  | _ =>
    throw (r.unexpected "while parsing a block collection" "expected <block end>, but found " t)

/-- Read an item of a list without further indentation, or its end. -/
def readLooseEntry (r : EventReader) : Step := do
  let t ← r.peek
  match t.kind with
  | .blockEntry =>
    let r := r.next
    let u ← r.peek
    match u.kind with
    | .blockEntry => r.yieldEmpty t.stop .looseEntry
    | .key => r.yieldEmpty t.stop .looseEntry
    | .value => r.yieldEmpty t.stop .looseEntry
    | .blockEnd => r.yieldEmpty t.stop .looseEntry
    | _ => (r.push .looseEntry).readNode true false
  | _ => return (⟨.sequenceEnd, t.start⟩, r.pop)

/-- A key or a value in a block is missing before this token. -/
def endsBlockPart (kind : TokenKind) : Bool :=
  kind == .key || kind == .value || kind == .blockEnd

/-- Read a key of a block, or its end. -/
def readBlockKey (r : EventReader) : Step := do
  let t ← r.peek
  match t.kind with
  | .key =>
    let r := r.next
    let u ← r.peek
    if endsBlockPart u.kind then r.yieldEmpty t.stop .blockValue
    else (r.push .blockValue).readNode true true
  | .blockEnd => return (⟨.mappingEnd, t.start⟩, r.next.close)
  | _ => throw (r.unexpected "while parsing a block mapping" "expected <block end>, but found " t)

/-- Read the value of a key in a block; it may be missing. -/
def readBlockValue (r : EventReader) : Step := do
  let t ← r.peek
  if t.kind == .value then
    let r := r.next
    let u ← r.peek
    if endsBlockPart u.kind then r.yieldEmpty t.stop .blockKey
    else (r.push .blockKey).readNode true true
  else r.yieldEmpty t.start .blockKey

/-- Go past the comma before an item within brackets; the first item has none. -/
def readComma (r : EventReader) (first : Bool) (context expected : String) :
    Except Fault EventReader := do
  if first then return r
  let t ← r.peek
  if t.kind == .flowEntry then return r.next
  else throw (r.unexpected context expected t)

/-- Read an item within brackets, or their end. An item with a question mark is a mapping of its
    own. -/
def readFlowEntry (r : EventReader) (first : Bool) : Step := do
  let t ← r.peek
  if t.kind == .flowSequenceEnd then return (⟨.sequenceEnd, t.start⟩, r.next.close)
  let r ← r.readComma first "while parsing a flow sequence" "expected ',' or ']', but got "
  let t ← r.peek
  match t.kind with
  | .key => return (⟨.mappingStart none .absent, t.start⟩, r.goTo .pairKey)
  | .flowSequenceEnd => return (⟨.sequenceEnd, t.start⟩, r.next.close)
  | _ => (r.push (.flowEntry false)).readNode false false

/-- Something between square brackets is missing before this token. -/
def endsPairPart (kind : TokenKind) : Bool :=
  kind == .flowEntry || kind == .flowSequenceEnd

/-- Read the key of an item that is a mapping. -/
def readPairKey (r : EventReader) : Step := do
  let t ← r.peek
  let r := r.next
  let u ← r.peek
  if u.kind == .value || endsPairPart u.kind then r.yieldEmpty t.stop .pairValue
  else (r.push .pairValue).readNode false false

/-- Read the value of an item that is a mapping. -/
def readPairValue (r : EventReader) : Step := do
  let t ← r.peek
  if t.kind == .value then
    let r := r.next
    let u ← r.peek
    if endsPairPart u.kind then r.yieldEmpty t.stop .pairEnd
    else (r.push .pairEnd).readNode false false
  else r.yieldEmpty t.start .pairEnd

/-- End an item that is a mapping. -/
def readPairEnd (r : EventReader) : Step := do
  let t ← r.peek
  return (⟨.mappingEnd, t.start⟩, r.goTo (.flowEntry false))

/-- Something between braces is missing before this token. -/
def endsFlowPart (kind : TokenKind) : Bool :=
  kind == .flowEntry || kind == .flowMappingEnd

/-- Read a key between braces, or their end. A key without a question mark that waited for its colon
    in vain has no value. -/
def readFlowKey (r : EventReader) (first : Bool) : Step := do
  let t ← r.peek
  if t.kind == .flowMappingEnd then return (⟨.mappingEnd, t.start⟩, r.next.close)
  let r ← r.readComma first "while parsing a flow mapping" "expected ',' or '\x7d', but got "
  let t ← r.peek
  match t.kind with
  | .key =>
    let r := r.next
    let u ← r.peek
    if u.kind == .value || endsFlowPart u.kind then r.yieldEmpty t.stop .flowValue
    else (r.push .flowValue).readNode false false
  | .flowMappingEnd => return (⟨.mappingEnd, t.start⟩, r.next.close)
  | _ => (r.push .emptyFlowValue).readNode false false

/-- Read a value between braces. -/
def readFlowValue (r : EventReader) : Step := do
  let t ← r.peek
  if t.kind == .value then
    let r := r.next
    let u ← r.peek
    if endsFlowPart u.kind then r.yieldEmpty t.stop (.flowKey false)
    else (r.push (.flowKey false)).readNode false false
  else r.yieldEmpty t.start (.flowKey false)

/-- Give a key between braces an empty value. -/
def readEmptyFlowValue (r : EventReader) : Step := do
  let t ← r.peek
  r.yieldEmpty t.start (.flowKey false)

/-- Read the next event for a goal. -/
def read (r : EventReader) : Goal → Step
  | .streamStart => do
    let t ← r.peek
    return (⟨.streamStart, t.start⟩, r.next.goTo .implicitDocument)
  | .implicitDocument => r.readImplicitDocument
  | .document => r.readDocument
  | .documentEnd => r.readDocumentEnd
  | .documentContent => r.readDocumentContent
  | .blockNode => r.readNode true false
  | .blockEntry => r.readBlockEntry
  | .looseEntry => r.readLooseEntry
  | .blockKey => r.readBlockKey
  | .blockValue => r.readBlockValue
  | .flowEntry first => r.readFlowEntry first
  | .pairKey => r.readPairKey
  | .pairValue => r.readPairValue
  | .pairEnd => r.readPairEnd
  | .flowKey first => r.readFlowKey first
  | .flowValue => r.readFlowValue
  | .emptyFlowValue => r.readEmptyFlowValue

/-- The events from a state on, up to a fault, if there is one. -/
def events : Nat → EventReader → List Event × Option Fault
  | 0, _ => ([], none)
  | fuel + 1, r =>
    match r.goal with
    | none => ([], none)
    | some goal =>
      match r.read goal with
      | .error e => ([], some e)
      | .ok (e, r) =>
        let (more, fault) := events fuel r
        (e :: more, fault)

end EventReader

/-- The events of tokens, up to a fault, if there is one. -/
def Event.ofTokens (tokens : List Token) (fault : Option Fault) : List Event × Option Fault :=
  ({ tokens, fault : EventReader }).events (4 * tokens.length + 8)

end Docpress.Yaml
