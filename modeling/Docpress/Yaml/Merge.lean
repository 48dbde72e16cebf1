import Docpress.Yaml.Node
/-!
Merge keys: the entries of other mappings stand in front of a mapping's own.
-/

namespace Docpress.Yaml

/-- A fault in a value. -/
def valueFault (context : Option String) (contextMark : Option Mark) (problem : Text)
    (mark : Mark) : Fault :=
  .placed ⟨.value, context.map String.toList, contextMark, problem, mark⟩

namespace NodeTable

/-- The entries of a mapping. -/
def entriesOf (t : NodeTable) (n : Nat) : List (Nat × Nat) :=
  match t[n]? with
  | some ⟨_, .mapping entries, _⟩ => entries
  | _ => []

/-- The tag of a node. -/
def tagOf (t : NodeTable) (n : Nat) : Text :=
  (t[n]?.map (·.tag)).getD []

/-- Where a node starts. -/
def startOf (t : NodeTable) (n : Nat) : Mark :=
  (t[n]?.map (·.start)).getD {}

/-- What a node holds. -/
def shapeOf (t : NodeTable) (n : Nat) : NodeShape :=
  (t[n]?.map (·.shape)).getD (.sequence [])

/-- Give a mapping other entries. -/
def setEntries (t : NodeTable) (n : Nat) (entries : List (Nat × Nat)) : NodeTable :=
  t.modify n fun node => { node with shape := .mapping entries }

/-- Make a node a text. -/
def setText (t : NodeTable) (n : Nat) : NodeTable :=
  t.modify n fun node => { node with tag := standardTag "str" }

/-- The fault of a merge key in mapping `n` whose value, or part of it, is no mapping. -/
def mergeFault (t : NodeTable) (n part : Nat) (expected : String) : Fault :=
  valueFault (some "while constructing a mapping") (some (t.startOf n))
    (expected.toList ++ " for merging, but found ".toList ++ (t.shapeOf part).kind) (t.startOf part)

mutual

/-- Put the entries that merge keys bring in front of the others, from an index on; `merged` are
    those found so far. A key that is an equals sign becomes a text. -/
def flattenFrom : Nat → Nat → Nat → List (Nat × Nat) → NodeTable → Except Fault NodeTable
  | 0, _, _, _, t => .ok t
  | fuel + 1, n, index, merged, t =>
    let entries := t.entriesOf n
    match entries[index]? with
    | none => .ok (if merged.isEmpty then t else t.setEntries n (merged ++ entries))
    | some (key, value) =>
      let tag := t.tagOf key
      if tag == standardTag "merge" then
        let t := t.setEntries n (entries.eraseIdx index)
        match t.shapeOf value with
        | .mapping _ => do
          let t ← flattenFrom fuel value 0 [] t
          flattenFrom fuel n index (merged ++ t.entriesOf value) t
        | .sequence items => do
          let (parts, t) ← flattenParts fuel n items t
          flattenFrom fuel n index (merged ++ parts) t
        | .scalar _ => .error (t.mergeFault n value "expected a mapping or list of mappings")
      else if tag == standardTag "value" then flattenFrom fuel n (index + 1) merged (t.setText key)
      else flattenFrom fuel n (index + 1) merged t

/-- The entries of mappings that are merged into mapping `n`; those of the last come first. -/
def flattenParts : Nat → Nat → List Nat → NodeTable →
    Except Fault (List (Nat × Nat) × NodeTable)
  | 0, _, _, t => .ok ([], t)
  | _ + 1, _, [], t => .ok ([], t)
  | fuel + 1, n, part :: rest, t =>
    match t.shapeOf part with
    | .mapping _ => do
      let t ← flattenFrom fuel part 0 [] t
      let entries := t.entriesOf part
      let (more, t) ← flattenParts fuel n rest t
      return (more ++ entries, t)
    | _ => .error (t.mergeFault n part "expected a mapping")

end

/-- The number of entries of all mappings together. -/
def entryCount (t : NodeTable) : Nat :=
  t.foldl (fun count node => match node.shape with
    | .mapping entries => count + entries.length
    | .sequence items => count + items.length
    | .scalar _ => count) 0

/-- Replace the merge keys of a mapping. -/
def flatten (t : NodeTable) (n : Nat) : Except Fault NodeTable :=
  flattenFrom ((t.entryCount + 2) * (t.length + 2)) n 0 [] t

end NodeTable

end Docpress.Yaml
