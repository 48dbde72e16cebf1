import Docpress.Yaml.Cursor
import Docpress.Yaml.Token
/-!
Quoted scalars. Line ends within one are folded, and double quotes allow escapes.
-/

namespace Docpress.Yaml

open Reader

/-- What a quoted scalar is called in reports. -/
def quotedContext : String :=
  "while scanning a quoted scalar"

/-- What a scalar in double quotes is called in reports. -/
def doubleQuotedContext : String :=
  "while scanning a double-quoted scalar"

/-- The code points that the escapes of one letter stand for. -/
def escapeCode? (c : Char) : Option Nat :=
  match c with
  | '0' => some 0
  | 'a' => some 7
  | 'b' => some 8
  | 't' => some 9
  | '\t' => some 9
  | 'n' => some 10
  | 'v' => some 11
  | 'f' => some 12
  | 'r' => some 13
  | 'e' => some 0x1B
  | ' ' => some 0x20
  | '"' => some 0x22
  | '\\' => some 0x5C
  | '/' => some 0x2F
  | 'N' => some 0x85
  | '_' => some 0xA0
  | 'L' => some 0x2028
  | 'P' => some 0x2029
  | _ => none

/-- How many hexadecimal digits follow the letter of an escape. -/
def escapeDigits? (c : Char) : Option Nat :=
  match c with
  | 'x' => some 2
  | 'u' => some 4
  | 'U' => some 8
  | _ => none

/-- Blank lines within a quoted scalar. A line must not begin or end a document. -/
def quotedBreaks (start : Mark) : Nat → Reader Text
  | 0 => return []
  | fuel + 1 => do
    if (← get).hasSeparator then
      failIn quotedContext start "found unexpected document separator".toList
    skipWhile fun c => c == ' ' || c == '\t'
    if isBreak (← peek 0) then
      let first ← takeBreak
      return first ++ (← quotedBreaks start fuel)
    else return []

/-- White space within a quoted scalar: kept as it is, but a line end becomes a space, and one
    before blank lines is dropped. -/
def quotedGap (start : Mark) : Reader Text := do
  let run ← takeWhile fun c => c == ' ' || c == '\t'
  let c ← peek 0
  if c == endChar then failIn quotedContext start "found unexpected end of stream".toList
  else if isBreak c then
    let first ← takeBreak
    let breaks ← quotedBreaks start (← fuel)
    if first != ['\n'] then return first ++ breaks
    else if breaks.isEmpty then return [' ']
    else return breaks
  else return run

/-- The code point of an escape in hexadecimal digits. -/
def hexEscape (start : Mark) (count : Nat) : Reader Nat := do
  let c ← get
  match (List.range count).find? fun k => (Text.hexDigit? (c.peek k)).isNone with
  | some k =>
    failIn doubleQuotedContext start ("expected escape sequence of ".toList ++ Text.ofNat count ++
      " hexadecimal numbers, but found ".toList ++ Text.quoted [c.peek k])
  | none =>
    let code := Text.hexValue ((List.range count).map c.peek)
    if 0x7FFFFFFF < code then throw (.scalar .hugeCharacter)
    else if 0x10FFFF < code then throw (.scalar .noCharacter)
    else
      skip count
      return code

/-- An escape after its backslash: a character, or a line end that is dropped. -/
def escape (start : Mark) : Reader (List Nat) := do
  let c ← peek 0
  match escapeCode? c, escapeDigits? c with
  | some code, _ =>
    skip 1
    return [code]
  | none, some count =>
    skip 1
    return [← hexEscape start count]
  | none, none =>
    if isBreak c then
      let _ ← takeBreak
      return (← quotedBreaks start (← fuel)).map Char.toNat
    else
      failIn doubleQuotedContext start ("found unknown escape character ".toList ++ Text.quoted [c])

/-- A character that ends a run of plain characters within quotes. -/
def stopsQuoted (c : Char) : Bool :=
  c == '\'' || c == '"' || c == '\\' || isGapOrEnd c

/-- The characters of a quoted scalar up to white space or the closing quote. -/
def quotedRun (double : Bool) (start : Mark) : Nat → Reader (List Nat)
  | 0 => return []
  | fuel + 1 => do
    let run := (← takeWhile (!stopsQuoted ·)).map Char.toNat
    let c ← peek 0
    if !double && c == '\'' && (← peek 1) == '\'' then
      skip 2
      return run ++ c.toNat :: (← quotedRun double start fuel)
    else if (double && c == '\'') || (!double && (c == '"' || c == '\\')) then
      skip 1
      return run ++ c.toNat :: (← quotedRun double start fuel)
    else if double && c == '\\' then
      skip 1
      let escaped ← escape start
      return run ++ escaped ++ (← quotedRun double start fuel)
    else return run

/-- The rest of a quoted scalar up to the closing quote. -/
def quotedRest (quote : Char) (start : Mark) : Nat → Reader (List Nat)
  | 0 => return []
  | fuel + 1 => do
    if (← peek 0) == quote then return []
    else
      let gap ← quotedGap start
      let run ← quotedRun (quote == '"') start (← Reader.fuel)
      return gap.map Char.toNat ++ run ++ (← quotedRest quote start fuel)

/-- A quoted scalar. -/
def quotedScalar : Reader Token := do
  let start ← mark
  let quote ← peek 0
  skip 1
  let first ← quotedRun (quote == '"') start (← fuel)
  let rest ← quotedRest quote start (← fuel)
  skip 1
  return ⟨.scalar (.ofCodes (first ++ rest)) false, start, ← mark⟩

end Docpress.Yaml
