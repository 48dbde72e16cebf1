import Docpress.Yaml.Cursor
import Docpress.Yaml.Token
/-!
Block scalars: indented lines taken literally, or folded into paragraphs.
-/

namespace Docpress.Yaml

open Reader

/-- What a block scalar is called in reports. -/
def blockContext : String :=
  "while scanning a block scalar"

/-- What happens to the line ends at the end of a block scalar: all are dropped, one is kept, or all
    are. -/
inductive Chomping where
  | strip
  | clip
  | keep
deriving DecidableEq, Repr

/-- The sign of a way of chomping. -/
def chomping? (c : Char) : Option Chomping :=
  if c == '+' then some .keep else if c == '-' then some .strip else none

/-- A digit that says how far the lines are indented; none is no digit. -/
def blockIndent (start : Mark) : Reader (Option Nat) := do
  let c ← peek 0
  if !c.isDigit then return none
  else if c == '0' then
    failIn blockContext start
      "expected indentation indicator in the range 1-9, but found 0".toList
  else
    skip 1
    return some (c.toNat - '0'.toNat)

/-- The sign of a way of chomping, if it is here. -/
def blockChomping : Reader (Option Chomping) := do
  let chomping := chomping? (← peek 0)
  if chomping.isSome then skip 1
  return chomping

/-- The indicators of a block scalar, in either order. -/
def blockIndicators (start : Mark) : Reader (Chomping × Option Nat) := do
  let first ← blockChomping
  let indent ← blockIndent start
  let chomping ← if first.isNone && indent.isSome then blockChomping else pure first
  if !isSpaceOrEnd (← peek 0) then
    failExpecting blockContext start "chomping or indentation indicators"
  return (chomping.getD .clip, indent)

/-- The rest of the line that begins a block scalar: a comment perhaps. -/
def blockHeaderEnd (start : Mark) : Reader Unit := do
  skipWhile (· == ' ')
  skipComment
  if !isBreakOrEnd (← peek 0) then failExpecting blockContext start "a comment or a line break"
  let _ ← takeBreak

/-- Blank lines at the beginning, and the column of the widest indentation among them. -/
def blockLead : Nat → Reader (Text × Nat)
  | 0 => return ([], 0)
  | fuel + 1 => do
    let c ← peek 0
    if c == ' ' then
      skip 1
      let column := (← mark).column
      let (breaks, widest) ← blockLead fuel
      return (breaks, max column widest)
    else if isBreak c then
      let first ← takeBreak
      let (breaks, widest) ← blockLead fuel
      return (first ++ breaks, widest)
    else return ([], 0)

/-- Skip spaces up to a column. -/
def skipIndent (indent : Nat) : Reader Unit := do
  let c ← get
  let spaces := (c.rest.take (indent - c.mark.column)).takeWhile (· == ' ')
  skip spaces.length

/-- Blank lines, and the indentation of the line after them. -/
def blockBreaks (indent : Nat) : Nat → Reader Text
  | 0 => return []
  | fuel + 1 => do
    skipIndent indent
    if isBreak (← peek 0) then
      let first ← takeBreak
      return first ++ (← blockBreaks indent fuel)
    else return []

/-- A line of the scalar goes on here. -/
def isInBlock (indent : Nat) : Reader Bool := do
  return (← mark).column == indent && (← peek 0) != endChar

/-- The lines of a block scalar after some blank lines, and at its end the last line end and the
    blank lines that follow it. A folded scalar joins two lines by a space if neither of them begins
    with a space. -/
def blockLines (folded : Bool) (indent : Nat) : Nat → Text → Reader (Text × Text × Text)
  | 0, breaks => return ([], [], breaks)
  | fuel + 1, breaks => do
    if !(← isInBlock indent) then return ([], [], breaks)
    let isSolid (c : Char) : Bool := c != ' ' && c != '\t'
    let solid := isSolid (← peek 0)
    let line ← takeWhile (!isBreakOrEnd ·)
    let lineEnd ← takeBreak
    let next ← blockBreaks indent (← Reader.fuel)
    if ← isInBlock indent then
      let joint :=
        if folded && lineEnd == ['\n'] && solid && isSolid (← peek 0) then
          (if next.isEmpty then [' '] else [])
        else lineEnd
      let (more, last) ← blockLines folded indent fuel next
      return (breaks ++ line ++ joint ++ more, last)
    else return (breaks ++ line, lineEnd, next)

/-- A block scalar within something that is indented to the column `parent`. -/
def blockScalar (parent : Int) : Reader Token := do
  let start ← mark
  let folded := (← peek 0) == '>'
  skip 1
  let (chomping, increment) ← blockIndicators start
  blockHeaderEnd start
  let least := (max (parent + 1) 1).toNat
  let (breaks, indent) ← match increment with
    | none => do
      let (breaks, widest) ← blockLead (← fuel)
      pure (breaks, max least widest)
    | some n => do
      let indent := least + n - 1
      pure (← blockBreaks indent (← fuel), indent)
  let (lines, lineEnd, trailing) ← blockLines folded indent (← fuel) breaks
  let tail := match chomping with
    | .strip => []
    | .clip => lineEnd
    | .keep => lineEnd ++ trailing
  return ⟨.scalar { chars := lines ++ tail } false, start, ← mark⟩

end Docpress.Yaml
