import Docpress.Yaml.Event
import Docpress.Yaml.Resolution
/-!
From events to nodes. An alias leads to the node with its anchor, even from within that node, so
nodes refer to each other by their numbers in a table.
-/

namespace Docpress.Yaml

/-- What a node holds: a text, or other nodes. -/
inductive NodeShape where
  | scalar (s : ScalarText)
  | sequence (items : List Nat)
  | mapping (entries : List (Nat × Nat))
deriving DecidableEq, Repr

/-- A node with its tag and the place where it starts. -/
structure Node where
  tag : Text
  shape : NodeShape
  start : Mark
deriving DecidableEq, Repr

/-- The kind of a node, as reports give it. -/
def NodeShape.kind : NodeShape → Text
  | .scalar _ => "scalar".toList
  | .sequence _ => "sequence".toList
  | .mapping _ => "mapping".toList

/-- The nodes of a document by number. -/
abbrev NodeTable := List Node

/-- A fault in putting nodes together. -/
def nodeFault (context : Option Text) (contextMark : Option Mark) (problem : Text) (mark : Mark) :
    Fault :=
  .placed ⟨.node, context, contextMark, problem, mark⟩

/-- The state of composing: the nodes so far, the anchors seen, and the events to come. -/
structure Composer where
  nodes : NodeTable := []
  anchors : List (Text × Nat) := []
  events : List Event
  /-- What comes after the last event. -/
  fault : Option Fault

namespace Composer

/-- The next event. -/
def peek (c : Composer) : Except Fault Event :=
  match c.events with
  | e :: _ => .ok e
  | [] => .error (c.fault.getD (nodeFault none none [] {}))

/-- The composer after the next event. -/
def next (c : Composer) : Composer :=
  { c with events := c.events.drop 1 }

/-- Add a node, and give it its anchor. -/
def add (c : Composer) (anchor : Option Text) (node : Node) : Nat × Composer :=
  let number := c.nodes.length
  (number, { c with
    nodes := c.nodes ++ [node]
    anchors := (anchor.map (·, number)).toList ++ c.anchors })

/-- Give a node what it holds. -/
def fill (c : Composer) (number : Nat) (shape : NodeShape) : Composer :=
  { c with nodes := c.nodes.modify number fun node => { node with shape } }

/-- Where the node of an anchor starts. -/
def startOf (c : Composer) (number : Nat) : Mark :=
  (c.nodes[number]?.map (·.start)).getD {}

/-- Check that an anchor is new. -/
def checkAnchor (c : Composer) (anchor : Option Text) (mark : Mark) : Except Fault Unit :=
  match anchor with
  | none => .ok ()
  | some name =>
    match c.anchors.lookup name with
    | none => .ok ()
    | some number =>
      .error (nodeFault
        (some ("found duplicate anchor ".toList ++ Text.quoted name ++ "; first occurrence".toList))
        (some (c.startOf number)) "second occurrence".toList mark)

/-- The tag of a collection. -/
def collectionTag (name : String) : GivenTag → Text
  | .named tag => tag
  | _ => standardTag name

/-- The tag of a scalar, which may depend on its text. -/
def scalarTag (isOpen : Bool) (s : ScalarText) : GivenTag → Text
  | .named tag => tag
  | _ => if isOpen then tagOfForm s.chars else standardTag "str"

mutual

/-- Compose a node. -/
def composeNode : Nat → Composer → Except Fault (Nat × Composer)
  | 0, c => .error (c.fault.getD (nodeFault none none [] {}))
  | fuel + 1, c => do
    let e ← c.peek
    match e.kind with
    | .alias anchor =>
      match c.anchors.lookup anchor with
      | some number => return (number, c.next)
      | none =>
        throw (nodeFault none none ("found undefined alias ".toList ++ Text.quoted anchor) e.start)
    | .scalar anchor tag s isOpen =>
      c.checkAnchor anchor e.start
      return c.next.add anchor ⟨scalarTag isOpen s tag, .scalar s, e.start⟩
    | .sequenceStart anchor tag =>
      c.checkAnchor anchor e.start
      let (number, c) := c.next.add anchor ⟨collectionTag "seq" tag, .sequence [], e.start⟩
      let (items, c) ← composeItems fuel c
      return (number, c.fill number (.sequence items))
    | .mappingStart anchor tag =>
      c.checkAnchor anchor e.start
      let (number, c) := c.next.add anchor ⟨collectionTag "map" tag, .mapping [], e.start⟩
      let (entries, c) ← composeEntries fuel c
      return (number, c.fill number (.mapping entries))
    | _ => composeNode fuel c.next

/-- Compose the items of a sequence. -/
def composeItems : Nat → Composer → Except Fault (List Nat × Composer)
  | 0, c => .ok ([], c)
  | fuel + 1, c => do
    let e ← c.peek
    if e.kind == .sequenceEnd then return ([], c.next)
    let (item, c) ← composeNode fuel c
    let (items, c) ← composeItems fuel c
    return (item :: items, c)

/-- Compose the entries of a mapping. -/
def composeEntries : Nat → Composer → Except Fault (List (Nat × Nat) × Composer)
  | 0, c => .ok ([], c)
  | fuel + 1, c => do
    let e ← c.peek
    if e.kind == .mappingEnd then return ([], c.next)
    let (key, c) ← composeNode fuel c
    let (value, c) ← composeNode fuel c
    let (entries, c) ← composeEntries fuel c
    return ((key, value) :: entries, c)

end

/-- Compose the only document of a stream: its nodes and the number of the first, or nothing if the
    stream is empty. -/
def composeDocument (c : Composer) : Except Fault (Option (NodeTable × Nat)) := do
  let _ ← c.peek
  let c := c.next
  let e ← c.peek
  if e.kind == .streamEnd then return none
  let (root, c) ← c.next.composeNode (2 * c.events.length + 2)
  let _ ← c.peek
  let c := c.next
  let e ← c.peek
  if e.kind != .streamEnd then
    throw (nodeFault (some "expected a single document in the stream".toList)
      (some (c.startOf root)) "but found another document".toList e.start)
  return some (c.nodes, root)

end Composer

/-- The nodes of the only document in a stream of events. -/
def composeEvents (events : List Event) (fault : Option Fault) :
    Except Fault (Option (NodeTable × Nat)) :=
  ({ events, fault : Composer }).composeDocument

end Docpress.Yaml
