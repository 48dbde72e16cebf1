import Docpress.Text.Utf8
import Docpress.TextFile
import Docpress.Yaml.Cursor
import Docpress.Yaml.Token
/-!
Anchors, aliases, tags and directives.
-/

namespace Docpress.Yaml

open Reader

/-- What an anchor, an alias or a directive lacks. -/
def nameExpected : String :=
  "alphabetic or numeric character"

/-- A character that may follow the name of an anchor. -/
def endsAnchor (c : Char) : Bool :=
  isGapOrEnd c || "?:,]\x7d%@\x60".toList.contains c

/-- An anchor or an alias. -/
def anchorToken : Reader Token := do
  let start ← mark
  let isAlias := (← peek 0) == '*'
  let context := if isAlias then "while scanning an alias" else "while scanning an anchor"
  skip 1
  let name ← takeWhile isNameChar
  if name.isEmpty || !endsAnchor (← peek 0) then failExpecting context start nameExpected
  return ⟨if isAlias then .alias name else .anchor name, start, ← mark⟩

/-- A character of a tag or of what a shorthand stands for. -/
def isUriChar (c : Char) : Bool :=
  c.isAlphanum || "-;/?:@&=+$,_.!~*'()[]%".toList.contains c

/-- A run of percent escapes, as bytes. -/
def uriBytes (context : String) (start : Mark) : Nat → Reader (List Nat)
  | 0 => return []
  | fuel + 1 => do
    if (← peek 0) != '%' then return []
    skip 1
    let c ← get
    match [0, 1].find? fun k => (Text.hexDigit? (c.peek k)).isNone with
    | some k =>
      let expected := "expected URI escape sequence of 2 hexadecimal numbers, but found "
      failIn context start (expected.toList ++ Text.quoted [c.peek k])
    | none =>
      skip 2
      return Text.hexValue [c.peek 0, c.peek 1] :: (← uriBytes context start fuel)

/-- A run of percent escapes, as text. -/
def uriEscapes (context : String) (start : Mark) : Reader Text := do
  let here ← mark
  let bytes ← uriBytes context start (← fuel)
  match Utf8.decode bytes with
  | .ok s => return s
  | .error e => throw (tokenFault context start e.message here)

/-- The characters of a tag, with escapes decoded. -/
def uriChars (context : String) (start : Mark) : Nat → Reader Text
  | 0 => return []
  | fuel + 1 => do
    let run ← takeWhile fun c => isUriChar c && c != '%'
    if (← peek 0) == '%' then
      let escaped ← uriEscapes context start
      return run ++ escaped ++ (← uriChars context start fuel)
    else return run

/-- A tag after its handle. It must not be empty. -/
def uri (scanning parsing : String) (start : Mark) : Reader Text := do
  let here ← mark
  let chars ← uriChars scanning start (← fuel)
  if (← mark).index == here.index then failExpecting parsing start "URI"
  return chars

/-- The handle of a tag: an exclamation mark, or a name between two of them. -/
def tagHandle (context : String) (start : Mark) : Reader Text := do
  if (← peek 0) != '!' then failExpecting context start "'!'"
  if (← peek 1) == ' ' then
    skip 1
    return ['!']
  else
    skip 1
    let name ← takeWhile isNameChar
    if (← peek 0) != '!' then failExpecting context start "'!'"
    skip 1
    return '!' :: name ++ ['!']

/-- There is a second exclamation mark in the tag that begins here. -/
def hasHandle (c : Cursor) : Bool :=
  ((c.rest.drop 1).takeWhile (!isSpaceOrEnd ·)).contains '!'

/-- A tag: one written out in full, the one that leaves the type open, or a handle and a suffix. -/
def tagToken : Reader Token := do
  let start ← mark
  let scanning := "while scanning a tag"
  let parsing := "while parsing a tag"
  let next ← peek 1
  let kind ← if next == '<' then do
      skip 2
      let suffix ← uri scanning parsing start
      if (← peek 0) != '>' then failExpecting parsing start "'>'"
      skip 1
      pure (TokenKind.tag none suffix)
    else if isGapOrEnd next then do
      skip 1
      pure (.tag none ['!'])
    else do
      let handle ← if hasHandle (← get) then tagHandle scanning start else do
        skip 1
        pure ['!']
      pure (.tag (some handle) (← uri scanning parsing start))
  if !isSpaceOrEnd (← peek 0) then failExpecting scanning start "' '"
  return ⟨kind, start, ← mark⟩

/-! ### Directives -/

/-- What a directive is called in reports. -/
def directiveContext : String :=
  "while scanning a directive"

/-- A number of a version. -/
def versionNumber (start : Mark) : Reader Nat := do
  let digits ← takeWhile Char.isDigit
  if digits.isEmpty then failExpecting directiveContext start "a digit"
  if longestDecimal < digits.length then throw (.scalar (.longNumber digits.length))
  return Text.digitsValue digits

/-- The version that a directive gives. -/
def versionDirective (start : Mark) : Reader Directive := do
  skipWhile (· == ' ')
  let major ← versionNumber start
  if (← peek 0) != '.' then failExpecting directiveContext start "a digit or '.'"
  skip 1
  let minor ← versionNumber start
  if !isSpaceOrEnd (← peek 0) then failExpecting directiveContext start "a digit or ' '"
  return .version major minor

/-- The shorthand for tags that a directive gives. -/
def shorthandDirective (start : Mark) : Reader Directive := do
  skipWhile (· == ' ')
  let handle ← tagHandle directiveContext start
  if (← peek 0) != ' ' then failExpecting directiveContext start "' '"
  skipWhile (· == ' ')
  let lead ← uri directiveContext "while parsing a directive" start
  if !isSpaceOrEnd (← peek 0) then failExpecting directiveContext start "' '"
  return .shorthand handle lead

/-- A directive with the rest of its line. -/
def directiveToken : Reader Token := do
  let start ← mark
  skip 1
  let name ← takeWhile isNameChar
  if name.isEmpty || !isSpaceOrEnd (← peek 0) then
    failExpecting directiveContext start nameExpected
  let directive ← if name == "YAML".toList then versionDirective start
    else if name == "TAG".toList then shorthandDirective start
    else do
      skipWhile (!isBreakOrEnd ·)
      pure .other
  let stop ← mark
  skipWhile (· == ' ')
  skipComment
  if !isBreakOrEnd (← peek 0) then failExpecting directiveContext start "a comment or a line break"
  let _ ← takeBreak
  return ⟨.directive directive, start, stop⟩

end Docpress.Yaml
