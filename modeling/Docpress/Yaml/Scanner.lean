import Docpress.Yaml.BlockScalar
import Docpress.Yaml.Plain
import Docpress.Yaml.Property
import Docpress.Yaml.Quoted
/-!
From characters to tokens. Where blocks begin and end follows from indentation. A key need not be
marked: that something was a key shows only at the colon after it, so tokens wait until it is known.
-/

namespace Docpress.Yaml

/-- A token that may turn out to begin a key: its number among all tokens, whether it has to be one,
    and its place. -/
structure PossibleKey where
  number : Nat
  required : Bool
  mark : Mark
deriving DecidableEq, Repr

/-- The state of scanning. -/
structure Scanner where
  cursor : Cursor
  /-- How many brackets are open. A bracket that closes too much leads below zero. -/
  depth : Int := 0
  /-- The tokens that are known and not yet taken. -/
  waiting : List Token := []
  taken : Nat := 0
  indent : Int := -1
  /-- The indentations of the blocks around this one. -/
  outer : List Int := []
  keyAllowed : Bool := true
  /-- The possible keys, at most one for each depth of brackets. -/
  keys : List (Int × PossibleKey) := []
  finished : Bool := false

namespace Scanner

/-- Brackets are open. -/
def inFlow (s : Scanner) : Bool :=
  s.depth != 0

/-- The place. -/
def mark (s : Scanner) : Mark :=
  s.cursor.mark

/-- Add a token at the end. -/
def emit (s : Scanner) (t : Token) : Scanner :=
  { s with waiting := s.waiting ++ [t] }

/-- Add a token that takes up no characters. -/
def emitHere (s : Scanner) (kind : TokenKind) : Scanner :=
  s.emit ⟨kind, s.mark, s.mark⟩

/-- Add a token that takes up some characters from here on. -/
def emitNext (s : Scanner) (kind : TokenKind) (size : Nat) : Scanner :=
  let cursor := s.cursor.advance size
  { s with cursor }.emit ⟨kind, s.mark, cursor.mark⟩

/-- Read with the cursor. -/
def run {α : Type} (s : Scanner) (read : Reader α) : Except Fault (α × Scanner) :=
  match read s.cursor with
  | .ok (a, cursor) => .ok (a, { s with cursor })
  | .error e => .error e

/-- Add a token that is read from here. -/
def emitRead (s : Scanner) (read : Reader Token) : Except Fault Scanner :=
  (s.run read).map fun (t, s) => s.emit t

/-- The fault of something that may not stand here. -/
def refuse (s : Scanner) (what : String) : Fault :=
  .placed ⟨.token, none, none, (what ++ " are not allowed here").toList, s.mark⟩

/-! ### Possible keys -/

/-- The fault of a key without its colon. -/
def missingColon (s : Scanner) (key : PossibleKey) : Fault :=
  tokenFault "while scanning a simple key" key.mark "could not find expected ':'".toList s.mark

/-- A key can no longer be one: it does not reach beyond its line, or is too long. -/
def isStale (s : Scanner) (key : PossibleKey) : Bool :=
  key.mark.line != s.mark.line || 1024 < s.mark.index - key.mark.index

/-- Give up the possible keys that can no longer be keys. -/
def dropStale (s : Scanner) : Except Fault Scanner :=
  match s.keys.find? fun (_, key) => s.isStale key && key.required with
  | some (_, key) => .error (s.missingColon key)
  | none => .ok { s with keys := s.keys.filter fun (_, key) => !s.isStale key }

/-- Give up the possible key at this depth. -/
def dropKey (s : Scanner) : Except Fault Scanner :=
  match s.keys.lookup s.depth with
  | some key =>
    if key.required then .error (s.missingColon key)
    else .ok { s with keys := s.keys.filter (·.1 != s.depth) }
  | none => .ok s

/-- The next token may begin a key. It has to, where the block consists of keys. -/
def saveKey (s : Scanner) : Except Fault Scanner :=
  if !s.keyAllowed then .ok s
  else do
    let required := !s.inFlow && s.indent == s.mark.column
    let cleared ← s.dropKey
    return { cleared with keys := cleared.keys ++
      [(s.depth, ⟨s.taken + s.waiting.length, required, s.mark⟩)] }

/-! ### Indentation -/

/-- Close the blocks that are indented further than a column. -/
def unwindTo (column : Int) : List Int → Scanner → Scanner
  | [], s => s
  | before :: outer, s =>
    if column < s.indent then
      unwindTo column outer ({ s with indent := before, outer }.emitHere .blockEnd)
    else s

/-- Close the blocks that are indented further than a column. Within brackets there are none. -/
def unwind (s : Scanner) (column : Int) : Scanner :=
  if s.inFlow then s else unwindTo column s.outer s

/-- Begin a block at a column, unless the block that is open is indented as far. -/
def indentTo (s : Scanner) (column : Nat) : Option Scanner :=
  if s.indent < column then some { s with indent := column, outer := s.indent :: s.outer } else none

/-- Begin a block here, if the indentation says so. -/
def openBlock (s : Scanner) (kind : TokenKind) : Scanner :=
  match s.indentTo s.mark.column with
  | some s => s.emitHere kind
  | none => s

/-! ### Tokens -/

/-- The end of the document's text. -/
def fetchStreamEnd (s : Scanner) : Except Fault Scanner := do
  let s ← (s.unwind (-1)).dropKey
  return { s with keyAllowed := false, keys := [], finished := true }.emitHere .streamEnd

/-- A directive. -/
def fetchDirective (s : Scanner) : Except Fault Scanner := do
  let s ← (s.unwind (-1)).dropKey
  { s with keyAllowed := false }.emitRead directiveToken

/-- The beginning or the end of a document. -/
def fetchDocumentMarker (s : Scanner) (kind : TokenKind) : Except Fault Scanner := do
  let s ← (s.unwind (-1)).dropKey
  return { s with keyAllowed := false }.emitNext kind 3

/-- An opening bracket. -/
def fetchFlowStart (s : Scanner) (kind : TokenKind) : Except Fault Scanner := do
  let s ← s.saveKey
  return { s with depth := s.depth + 1, keyAllowed := true }.emitNext kind 1

/-- A closing bracket. -/
def fetchFlowEnd (s : Scanner) (kind : TokenKind) : Except Fault Scanner := do
  let s ← s.dropKey
  return { s with depth := s.depth - 1, keyAllowed := false }.emitNext kind 1

/-- A comma within brackets. -/
def fetchFlowEntry (s : Scanner) : Except Fault Scanner := do
  let s ← { s with keyAllowed := true }.dropKey
  return s.emitNext .flowEntry 1

/-- A hyphen before an item. -/
def fetchBlockEntry (s : Scanner) : Except Fault Scanner := do
  if !s.inFlow && !s.keyAllowed then throw (s.refuse "sequence entries")
  let s := if s.inFlow then s else s.openBlock .blockSequenceStart
  let s ← { s with keyAllowed := true }.dropKey
  return s.emitNext .blockEntry 1

/-- A question mark before a key. -/
def fetchKey (s : Scanner) : Except Fault Scanner := do
  if !s.inFlow && !s.keyAllowed then throw (s.refuse "mapping keys")
  let s := if s.inFlow then s else s.openBlock .blockMappingStart
  let s ← { s with keyAllowed := !s.inFlow }.dropKey
  return s.emitNext .key 1

/-- Put tokens before the token of a number. -/
def insertAt (s : Scanner) (number : Nat) (tokens : List Token) : Scanner :=
  let at_ := number - s.taken
  { s with waiting := s.waiting.take at_ ++ tokens ++ s.waiting.drop at_ }

/-- A colon after a possible key: what began there was a key, and perhaps the first of a block. -/
def fetchValueOf (s : Scanner) (key : PossibleKey) : Scanner :=
  let s := { s with keys := s.keys.filter (·.1 != s.depth), keyAllowed := false }
  let token : Token := ⟨.key, key.mark, key.mark⟩
  match (if s.inFlow then none else s.indentTo key.mark.column) with
  | some s => s.insertAt key.number [⟨.blockMappingStart, key.mark, key.mark⟩, token]
  | none => s.insertAt key.number [token]

/-- A colon before a value. -/
def fetchValue (s : Scanner) : Except Fault Scanner := do
  match s.keys.lookup s.depth with
  | some key => return (s.fetchValueOf key).emitNext .value 1
  | none =>
    if !s.inFlow && !s.keyAllowed then throw (s.refuse "mapping values")
    let s := if s.inFlow then s else s.openBlock .blockMappingStart
    let s ← { s with keyAllowed := !s.inFlow }.dropKey
    return s.emitNext .value 1

/-- An anchor, an alias, a tag or a quoted scalar: each may begin a key. -/
def fetchKeyable (s : Scanner) (read : Reader Token) : Except Fault Scanner := do
  let s ← s.saveKey
  { s with keyAllowed := false }.emitRead read

/-- A block scalar. -/
def fetchBlockScalar (s : Scanner) : Except Fault Scanner := do
  let s ← { s with keyAllowed := true }.dropKey
  s.emitRead (blockScalar s.indent)

/-- A plain scalar. A key may follow it if it ends a line. -/
def fetchPlain (s : Scanner) : Except Fault Scanner := do
  let s ← s.saveKey
  let ((token, lineEnd), s) ← s.run (plainScalar s.inFlow (s.indent + 1).toNat)
  return { s with keyAllowed := lineEnd }.emit token

/-- Skip spaces, comments and line ends, with one step of fuel for each line; a key may follow a
    line end outside brackets. -/
def skipLines : Nat → Scanner → Scanner
  | 0, s => s
  | fuel + 1, s =>
    let skipped : Reader Text := do
      Reader.skipWhile (· == ' ')
      Reader.skipComment
      Reader.takeBreak
    match s.run skipped with
    | .error _ => s
    | .ok ([], s) => s
    | .ok (_, s) => skipLines fuel (if s.inFlow then s else { s with keyAllowed := true })

/-- Go to where the next token begins. A byte order mark may come first. -/
def skipToToken (s : Scanner) : Scanner :=
  let s := if s.mark.index == 0 && (s.cursor.peek 0).toNat == 0xFEFF then
    { s with cursor := s.cursor.advance 1 } else s
  skipLines (s.cursor.rest.length + 1) s

/-- Find the next token, which may bring others with it. -/
def fetch (s : Scanner) : Except Fault Scanner := do
  let s ← s.skipToToken.dropStale
  let s := s.unwind s.mark.column
  let c := s.cursor.peek 0
  let next := s.cursor.peek 1
  let first := s.mark.column == 0
  if c == endChar then s.fetchStreamEnd
  else if c == '%' && first then s.fetchDirective
  else if first && s.cursor.hasMarker '-' then s.fetchDocumentMarker .documentStart
  else if first && s.cursor.hasMarker '.' then s.fetchDocumentMarker .documentEnd
  else if c == '[' then s.fetchFlowStart .flowSequenceStart
  else if c == '\x7b' then s.fetchFlowStart .flowMappingStart
  else if c == ']' then s.fetchFlowEnd .flowSequenceEnd
  else if c == '\x7d' then s.fetchFlowEnd .flowMappingEnd
  else if c == ',' then s.fetchFlowEntry
  else if c == '-' && isGapOrEnd next then s.fetchBlockEntry
  else if c == '?' && (s.inFlow || isGapOrEnd next) then s.fetchKey
  else if c == ':' && (s.inFlow || isGapOrEnd next) then s.fetchValue
  else if c == '*' || c == '&' then s.fetchKeyable anchorToken
  else if c == '!' then s.fetchKeyable tagToken
  else if (c == '|' || c == '>') && !s.inFlow then s.fetchBlockScalar
  else if c == '\'' || c == '"' then s.fetchKeyable quotedScalar
  else if canBePlain s.inFlow c next then s.fetchPlain
  else throw (.placed ⟨.token, some "while scanning for the next token".toList, none,
    "found character ".toList ++ Text.quoted [c] ++ " that cannot start any token".toList, s.mark⟩)

/-- The first waiting token may still turn out to begin a key. -/
def isUndecided (s : Scanner) : Bool :=
  s.keys.any fun (_, key) => key.number == s.taken

/-- Find tokens until the first of them is certain, with one step of fuel for each. -/
def settle : Nat → Scanner → Except Fault Scanner
  | 0, s => .ok s
  | fuel + 1, s =>
    if s.finished then .ok s
    else if s.waiting.isEmpty then do settle fuel (← s.fetch)
    else do
      let s ← s.dropStale
      if s.isUndecided then settle fuel (← s.fetch) else return s

/-- The tokens from a state on, up to a fault, if there is one. -/
def tokens : Nat → Scanner → List Token × Option Fault
  | 0, _ => ([], none)
  | fuel + 1, s =>
    match settle (s.cursor.rest.length + 2) s with
    | .error e => ([], some e)
    | .ok s =>
      match s.waiting with
      | [] => ([], none)
      | t :: waiting =>
        let (more, fault) := tokens fuel { s with waiting, taken := s.taken + 1 }
        (t :: more, fault)

end Scanner

/-- The first character that no document may hold. -/
def forbidden? (s : Text) : Option Fault :=
  (s.findIdx? (!isAllowed ·)).map fun i => .character ((s[i]?).getD endChar) i

/-- The tokens of a document, up to a fault, if there is one. -/
def Token.ofText (s : Text) : List Token × Option Fault :=
  match forbidden? s with
  | some fault => ([], some fault)
  | none =>
    let start : Scanner := { cursor := { rest := s } }
    (start.emitHere .streamStart).tokens (4 * s.length + 8)

end Docpress.Yaml
