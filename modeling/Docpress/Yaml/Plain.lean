import Docpress.Yaml.Cursor
import Docpress.Yaml.Token
/-!
Plain scalars, which have no quotes: they end where the document would go on otherwise.
-/

namespace Docpress.Yaml

open Reader

/-- A character that has a meaning within brackets. -/
def isFlowMark (c : Char) : Bool :=
  c == ',' || c == '[' || c == ']' || c == '{' || c == '}'

/-- How many characters a plain scalar takes up without a gap. A colon ends it before a gap; within
    brackets so do the characters that have a meaning there. -/
def plainLength (flow : Bool) : Text → Nat
  | [] => 0
  | c :: s =>
    let next := s.headD endChar
    if isGapOrEnd c || (c == ':' && (isGapOrEnd next || (flow && isFlowMark next))) ||
        (flow && (isFlowMark c || c == '?')) then 0
    else plainLength flow s + 1

/-- Blank lines within a plain scalar; none if a document begins or ends after them. -/
def plainBreaks : Nat → Reader (Option Text)
  | 0 => return some []
  | fuel + 1 => do
    let c ← peek 0
    if c == ' ' then
      skip 1
      plainBreaks fuel
    else if isBreak c then
      let first ← takeBreak
      if (← get).hasSeparator then return none
      return (← plainBreaks fuel).map (first ++ ·)
    else return some []

/-- The gap after a part of a plain scalar, empty if the scalar cannot go on, and whether it ends a
    line. A line end becomes a space, and one before blank lines is dropped. -/
def plainGap : Reader (Text × Bool) := do
  let run ← takeWhile (· == ' ')
  if isBreak (← peek 0) then
    let first ← takeBreak
    if (← get).hasSeparator then return ([], true)
    match ← plainBreaks (← fuel) with
    | none => return ([], true)
    | some breaks =>
      let fold := if first != ['\n'] then first else if breaks.isEmpty then [' '] else []
      return (fold ++ breaks, true)
  else return (run, false)

/-- The rest of a plain scalar after a gap, and whether a line ends after it. -/
def plainFrom (flow : Bool) (indent : Nat) : Nat → Text → Bool → Reader (Text × Bool)
  | 0, _, lineEnd => return ([], lineEnd)
  | fuel + 1, gap, lineEnd => do
    let run := (← get).rest.take (plainLength flow (← get).rest)
    if (← peek 0) == '#' || run.isEmpty then return ([], lineEnd)
    skip run.length
    let (next, lineEnd) ← plainGap
    if next.isEmpty || (← peek 0) == '#' || (!flow && (← mark).column < indent) then
      return (gap ++ run, lineEnd)
    else
      let (more, lineEnd) ← plainFrom flow indent fuel next lineEnd
      return (gap ++ run ++ more, lineEnd)

/-- A plain scalar, and whether a line ends after it. Outside brackets a further line belongs to it
    only from the column `indent` on. -/
def plainScalar (flow : Bool) (indent : Nat) : Reader (Token × Bool) := do
  let start ← mark
  let (chars, lineEnd) ← plainFrom flow indent (← fuel) [] false
  return (⟨.scalar { chars } true, start, ← mark⟩, lineEnd)

/-- A plain scalar can begin here. -/
def canBePlain (flow : Bool) (c next : Char) : Bool :=
  !(isGapOrEnd c || "-?:,[]\x7b\x7d#&*!|>'\"%@\x60".toList.contains c) ||
    (!isGapOrEnd next && (c == '-' || (!flow && (c == '?' || c == ':'))))

end Docpress.Yaml
