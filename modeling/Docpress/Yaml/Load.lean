import Docpress.Yaml.Merge
import Docpress.Yaml.Scalar
import Docpress.Yaml.Scanner
/-!
From nodes to values. All nodes are checked, level by level. A value may contain itself, so it is
read to a given depth, and collections below that are empty.
-/

namespace Docpress.Yaml

/-- The types that values can have. -/
inductive ValueType where
  | null
  | flag
  | whole
  | real
  | bytes
  | date
  | text
  | sequence
  | mapping
  | set
  /-- A sequence of mappings with one entry each, whose keys differ. -/
  | orderedMap
  | pairs
deriving DecidableEq, Repr

/-- The types and the names of their tags. -/
def valueTypes : List (String × ValueType) :=
  [("null", .null), ("bool", .flag), ("int", .whole), ("float", .real), ("binary", .bytes),
    ("timestamp", .date), ("omap", .orderedMap), ("pairs", .pairs), ("set", .set), ("str", .text),
    ("seq", .sequence), ("map", .mapping)]

/-- The type of a tag. -/
def ValueType.ofTag? (tag : Text) : Option ValueType :=
  (valueTypes.find? fun (name, _) => standardTag name == tag).map (·.2)

/-- Values of the type cannot be keys. -/
def ValueType.isCollection : ValueType → Bool
  | .sequence => true
  | .mapping => true
  | .set => true
  | .orderedMap => true
  | .pairs => true
  | _ => false

namespace NodeTable

/-- The fault of a node of the wrong kind. -/
def kindFault (t : NodeTable) (n : Nat) (expected : String) : Fault :=
  valueFault none none
    (("expected a " ++ expected ++ " node, but found ").toList ++ (t.shapeOf n).kind) (t.startOf n)

/-- The text of a scalar. A mapping with an equals sign as a key stands for the value of that
    key. -/
def textOf (t : NodeTable) : Nat → Nat → Except Fault ScalarText
  | 0, n => .error (t.kindFault n "scalar")
  | fuel + 1, n =>
    match t.shapeOf n with
    | .scalar s => .ok s
    | .mapping entries =>
      match entries.find? fun (key, _) => t.tagOf key == standardTag "value" with
      | some (_, value) => t.textOf fuel value
      | none => .error (t.kindFault n "scalar")
    | .sequence _ => .error (t.kindFault n "scalar")

/-- A text that should be ASCII: the fault of the first run of other characters. -/
def asciiFault? (s : Text) : Option Text :=
  let isWide (c : Char) : Bool := 127 < c.toNat
  let start := (s.takeWhile (!isWide ·)).length
  match (s.drop start).takeWhile isWide with
  | [] => none
  | [c] =>
    let code := if c.toNat < 0x100 then "\\x".toList ++ Text.hexDigits 2 c.toNat
      else if c.toNat < 0x10000 then "\\u".toList ++ Text.hexDigits 4 c.toNat
      else "\\U".toList ++ Text.hexDigits 8 c.toNat
    some ("'ascii' codec can't encode character '".toList ++ code ++ "' in position ".toList ++
      Text.ofNat start ++ ": ordinal not in range(128)".toList)
  | run =>
    let last := start + run.length - 1
    some ("'ascii' codec can't encode characters in position ".toList ++ Text.ofNat start ++
      '-' :: Text.ofNat last ++ ": ordinal not in range(128)".toList)

/-- The bytes that a text in base 64 stands for. -/
def bytesOf (t : NodeTable) (n : Nat) (s : Text) : Except Fault (List Nat) :=
  match asciiFault? s with
  | some problem =>
    .error (valueFault none none ("failed to convert base64 data into ascii: ".toList ++ problem)
      (t.startOf n))
  | none =>
    match decodeBase64 0 0 0 0 s with
    | .ok bytes => .ok bytes
    | .error e =>
      .error (valueFault none none ("failed to decode base64 data: ".toList ++ e.message)
        (t.startOf n))

/-- The value of a text of a type. -/
def readAs (t : NodeTable) (n : Nat) (type : ValueType) (s : ScalarText) : Except Fault Value :=
  let lift (v : Except ScalarFault Value) : Except Fault Value := v.mapError .scalar
  match type with
  | .null => .ok .null
  | .flag => lift ((flagValue s.chars).map .flag)
  | .whole => lift ((wholeValue s.chars).map .whole)
  | .real => lift ((realValue s.chars).map .real)
  | .bytes => (t.bytesOf n s.chars).map .bytes
  | .date => lift (dateValue s.chars)
  | _ => .ok (if s.broken then .brokenText else .text s.chars)

/-- The value of a scalar of a type. -/
def scalarValue (t : NodeTable) (n : Nat) (type : ValueType) : Except Fault Value := do
  t.readAs n type (← t.textOf (t.length + 1) n)

/-- The type of a node. A tag without one is a fault. -/
def typeOf (t : NodeTable) (n : Nat) : Except Fault ValueType :=
  match ValueType.ofTag? (t.tagOf n) with
  | some type => .ok type
  | none =>
    .error (valueFault none none
      ("could not determine a constructor for the tag ".toList ++ Text.quoted (t.tagOf n))
      (t.startOf n))

/-! ### Checking -/

/-- The state of checking: the nodes, those that were met, and the collections among them that are
    still to be checked. -/
structure Check where
  nodes : NodeTable
  met : List Nat := []
  pending : List Nat := []

/-- Meet a node: check a scalar now and a collection later. -/
def Check.meet (c : Check) (n : Nat) : Except Fault Check := do
  if c.met.contains n then return c
  let type ← c.nodes.typeOf n
  if type.isCollection then
    return { c with met := n :: c.met, pending := c.pending ++ [n] }
  else
    let _ ← c.nodes.scalarValue n type
    return { c with met := n :: c.met }

/-- Meet nodes in order. -/
def Check.meetAll (c : Check) : List Nat → Except Fault Check
  | [] => .ok c
  | n :: rest => do (← c.meet n).meetAll rest

/-- Meet the keys and the values of mapping `n`. A collection cannot be a key. -/
def Check.meetEntries (c : Check) (n : Nat) : List (Nat × Nat) → Except Fault Check
  | [] => .ok c
  | (key, value) :: rest => do
    let c ← c.meet key
    if (← c.nodes.typeOf key).isCollection then
      throw (valueFault (some "while constructing a mapping") (some (c.nodes.startOf n))
        "found unhashable key".toList (c.nodes.startOf key))
    let c ← c.meet value
    c.meetEntries n rest

/-- Meet the items of sequence `n`, each of which is a mapping with one entry. -/
def Check.meetPairs (c : Check) (n : Nat) (context : String) : List Nat → Except Fault Check
  | [] => .ok c
  | item :: rest => do
    let fault (problem : Text) : Fault :=
      valueFault (some context) (some (c.nodes.startOf n)) problem (c.nodes.startOf item)
    match c.nodes.shapeOf item with
    | .mapping [(key, value)] =>
      let c ← c.meet key
      let c ← c.meet value
      c.meetPairs n context rest
    | .mapping entries =>
      throw (fault ("expected a single mapping item, but found ".toList ++
        Text.ofNat entries.length ++ " items".toList))
    | shape =>
      throw (fault ("expected a mapping of length 1, but found ".toList ++ shape.kind))

/-- Check a collection of a type. -/
def Check.visit (c : Check) (n : Nat) (type : ValueType) : Except Fault Check :=
  let pairs (context : String) : Except Fault Check :=
    match c.nodes.shapeOf n with
    | .sequence items => c.meetPairs n context items
    | shape =>
      .error (valueFault (some context) (some (c.nodes.startOf n))
        ("expected a sequence, but found ".toList ++ shape.kind) (c.nodes.startOf n))
  match type with
  | .orderedMap => pairs "while constructing an ordered map"
  | .pairs => pairs "while constructing pairs"
  | .sequence =>
    match c.nodes.shapeOf n with
    | .sequence items => c.meetAll items
    | _ => .error (c.nodes.kindFault n "sequence")
  | _ =>
    match c.nodes.shapeOf n with
    | .mapping _ => do
      let nodes ← c.nodes.flatten n
      { c with nodes }.meetEntries n (nodes.entriesOf n)
    | _ => .error (c.nodes.kindFault n "mapping")

/-- Check the collections that are pending, with one step of fuel for each. -/
def Check.run : Nat → Check → Except Fault Check
  | 0, c => .ok c
  | fuel + 1, c =>
    match c.pending with
    | [] => .ok c
    | n :: pending => do
      let type ← c.nodes.typeOf n
      run fuel (← { c with pending }.visit n type)

/-- Check all nodes that a node leads to, and replace their merge keys. -/
def check (t : NodeTable) (root : Nat) : Except Fault NodeTable := do
  let c ← ({ nodes := t : Check }).meet root
  return (← c.run (t.length + 1)).nodes

/-! ### Reading -/

/-- The value of a checked node, to a depth. -/
def read (t : NodeTable) : Nat → Nat → Value
  | 0, n =>
    match ValueType.ofTag? (t.tagOf n) with
    | none => .null
    | some .mapping => .mapping []
    | some .set => .set []
    | some type =>
      if type.isCollection then .list [] else (t.scalarValue n type).toOption.getD .null
  | depth + 1, n =>
    match ValueType.ofTag? (t.tagOf n), t.shapeOf n with
    | none, _ => .null
    | some .mapping, _ =>
      .mapping ((t.entriesOf n).map fun (key, value) => (t.read depth key, t.read depth value))
    | some .set, _ => .set ((t.entriesOf n).map fun (key, _) => t.read depth key)
    | some type, shape =>
      match type.isCollection, shape with
      | true, .sequence items => .list (items.map (t.read depth))
      | true, _ => .list []
      | false, _ => (t.scalarValue n type).toOption.getD .null

end NodeTable

/-- The value of a document, to a depth; an empty one is null. -/
def load (depth : Nat) (s : Text) : Except Fault Value := do
  let (tokens, tokenFault) := Token.ofText s
  let (events, eventFault) := Event.ofTokens tokens tokenFault
  match ← composeEvents events eventFault with
  | none => return .null
  | some (nodes, root) => return (← nodes.check root).read depth root

end Docpress.Yaml
