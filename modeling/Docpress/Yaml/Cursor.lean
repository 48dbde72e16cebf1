import Docpress.Yaml.Fault
/-!
Reading a document character by character, with the place kept.
-/

namespace Docpress.Yaml

/-- What stands for the end of the document. No document holds this character. -/
def endChar : Char :=
  Char.ofNat 0

/-- The end of a line. -/
def isBreak (c : Char) : Bool :=
  c == '\n' || c == '\r' || c.toNat == 0x85 || c.toNat == 0x2028 || c.toNat == 0x2029

/-- The end of a line or of the document. -/
def isBreakOrEnd (c : Char) : Bool :=
  isBreak c || c == endChar

/-- A space, or an end. -/
def isSpaceOrEnd (c : Char) : Bool :=
  isBreakOrEnd c || c == ' '

/-- A space, a tab, or an end. -/
def isGapOrEnd (c : Char) : Bool :=
  isSpaceOrEnd c || c == '\t'

/-- A character of a name: an ASCII letter or digit, a hyphen or an underscore. -/
def isNameChar (c : Char) : Bool :=
  c.isAlphanum || c == '-' || c == '_'

/-- A character that a document may hold. -/
def isAllowed (c : Char) : Bool :=
  let n := c.toNat
  n == 9 || n == 10 || n == 13 || (0x20 ≤ n && n ≤ 0x7E) || n == 0x85 ||
    (0xA0 ≤ n && n ≤ 0xD7FF) || (0xE000 ≤ n && n ≤ 0xFFFD) || 0x10000 ≤ n

/-- The place after a character. The byte order mark takes up no column. -/
def Mark.past (m : Mark) (c : Char) : Mark :=
  if isBreak c then { index := m.index + 1, line := m.line + 1, column := 0 }
  else
    { m with index := m.index + 1, column := if c.toNat == 0xFEFF then m.column else m.column + 1 }

/-- A place in a document and what follows it. -/
structure Cursor where
  mark : Mark := {}
  rest : Text
deriving Repr

namespace Cursor

/-- The character that comes after some others. -/
def peek (c : Cursor) (after : Nat) : Char :=
  (c.rest[after]?).getD endChar

/-- Go on by some characters. -/
def advance : Nat → Cursor → Cursor
  | 0, c => c
  | n + 1, ⟨mark, rest⟩ =>
    match rest with
    | [] => ⟨mark, []⟩
    | x :: rest => advance n ⟨mark.past x, rest⟩

/-- The document marker that a line begins with here, three hyphens or three dots. -/
def hasMarker (c : Cursor) (mark : Char) : Bool :=
  c.peek 0 == mark && c.peek 1 == mark && c.peek 2 == mark && isGapOrEnd (c.peek 3)

/-- A document begins or ends here. -/
def hasSeparator (c : Cursor) : Bool :=
  c.hasMarker '-' || c.hasMarker '.'

end Cursor

/-- Reading with a cursor, which may fail. -/
abbrev Reader := StateT Cursor (Except Fault)

namespace Reader

/-- The character that comes after some others. -/
def peek (after : Nat) : Reader Char := do
  return (← get).peek after

/-- The place. -/
def mark : Reader Mark := do
  return (← get).mark

/-- Go on by some characters. -/
def skip (n : Nat) : Reader Unit :=
  modify (Cursor.advance n)

/-- Take the characters that satisfy `p`. -/
def takeWhile (p : Char → Bool) : Reader Text := do
  let run := (← get).rest.takeWhile p
  skip run.length
  return run

/-- Skip the characters that satisfy `p`. -/
def skipWhile (p : Char → Bool) : Reader Unit := do
  let _ ← takeWhile p

/-- Skip a comment. -/
def skipComment : Reader Unit := do
  if (← peek 0) == '#' then skipWhile (!isBreakOrEnd ·)

/-- Take the end of a line, if it is here: a line feed, except where a separator of lines or
    paragraphs stands for itself. -/
def takeBreak : Reader Text := do
  let c ← peek 0
  if !isBreak c then return []
  else
    skip (if c == '\r' && (← peek 1) == '\n' then 2 else 1)
    return [if c.toNat == 0x2028 || c.toNat == 0x2029 then c else '\n']

/-- Fail at this place, within something that begins at a mark. -/
def failIn {α : Type} (context : String) (start : Mark) (problem : Text) : Reader α := do
  throw (tokenFault context start problem (← mark))

/-- Fail because something else was expected than the character here. -/
def failExpecting {α : Type} (context : String) (start : Mark) (expected : String) : Reader α := do
  let c ← peek 0
  failIn context start ("expected ".toList ++ expected.toList ++ ", but found ".toList ++
    Text.quoted [c])

/-- How many steps a loop takes at most if each reads a character: one for each that is left, and
    one to see the end. -/
def fuel : Reader Nat := do
  return (← get).rest.length + 1

end Reader

end Docpress.Yaml
