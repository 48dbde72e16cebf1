import Docpress.Console.Emoji
import Docpress.Console.Literal
import Docpress.Console.Style
import Docpress.Text.Word
/-!
Console markup: tags in square brackets give a style to the text between them, and a backslash
before a tag makes it text. Written without styles, the tags are dropped; what is left to decide is
whether each closing tag has something to close.
-/

namespace Docpress.Console

/-- Why a text is no markup. -/
inductive MarkupError where
  /-- A tag closes a style that is not open. -/
  | notOpen (name : Text)
  /-- A tag closes the last style, and none is open. -/
  | nothingOpen
  /-- The handler of a tag is called with something else than literals. -/
  | handler (parameters : Text)
  | colour
deriving DecidableEq, Repr

/-- A piece of markup. -/
inductive Piece where
  | text (s : Text)
  | opening (name : Text) (parameters : Text)
  /-- A closing tag, with an empty name for the last style. -/
  | closing (name : Text)
deriving DecidableEq, Repr

/-- The character may begin a tag. -/
def beginsTag (c : Char) : Bool :=
  ('a' ≤ c && c ≤ 'z') || c == '#' || c == '/' || c == '@'

/-- What is in the brackets of a tag at the beginning of a text. -/
def tagAt? : Text → Option Text
  | '[' :: s =>
    let inner := s.takeWhile fun c => c != '[' && c != ']'
    let closed := (s.drop inner.length).head? == some ']'
    if inner.head?.any beginsTag && closed then some inner else none
  | _ => none

/-- The backslashes before a tag and what is in its brackets, where a text begins with these. -/
def escapedTagAt? (s : Text) : Option (Nat × Text) :=
  let slashes := (s.takeWhile (· == '\\')).length
  (tagAt? (s.drop slashes)).map fun inner => (slashes, inner)

/-- The tag in brackets: the name goes up to the first equals sign. -/
def Piece.ofTag (inner : Text) : Piece :=
  let name := inner.takeWhile (· != '=')
  match name with
  | '/' :: name => .closing (Text.trimBlank name)
  | name => .opening name (inner.drop (name.length + 1))

/-- The pieces of a tag with backslashes before it. Two of them stand for one, and one that is left
    over makes the tag text. -/
def Piece.ofEscaped (slashes : Nat) (inner : Text) : List Piece :=
  [.text (List.replicate (slashes / 2) '\\'),
    if slashes % 2 == 1 then .text ('[' :: inner ++ [']']) else .ofTag inner]

/-- The pieces of a text. The counter holds the characters of a tag that are still to be passed
    over, and `held` the text since the last tag from its end. -/
def piecesFrom : Nat → Text → Text → List Piece
  | _, held, [] => [.text held.reverse]
  | skip + 1, held, _ :: s => piecesFrom skip held s
  | 0, held, c :: s =>
    match escapedTagAt? (c :: s) with
    | some (slashes, inner) =>
      .text held.reverse :: Piece.ofEscaped slashes inner ++
        piecesFrom (slashes + inner.length + 1) [] s
    | none => piecesFrom 0 (c :: held) s

/-- The pieces of a text. -/
def pieces (s : Text) : List Piece :=
  piecesFrom 0 [] s

/-- The control characters that are not shown: bell, backspace, vertical tab, form feed and carriage
    return. -/
def isHidden (c : Char) : Bool :=
  [7, 8, 11, 12, 13].contains c.toNat

/-- A piece of text as it is shown. -/
def showText (s : Text) : Text :=
  (expandCodes (Text.replaceAll "\\[".toList ['['] s)).filter (!isHidden ·)

/-- A tag that is open: the normal form of its name, and its parameters. -/
structure OpenTag where
  name : Text
  parameters : Text
deriving DecidableEq, Repr

/-- The last open tag of a name, and the tags without it. -/
def closeNamed? (name : Text) : List OpenTag → Option (OpenTag × List OpenTag)
  | [] => none
  | tag :: rest =>
    if tag.name == name then some (tag, rest)
    else (closeNamed? name rest).map fun (found, rest) => (found, tag :: rest)

/-- What a handler is called with: the parameters from the bracket after its name, if that closes
    at their end, nothing for a name alone, and otherwise all of them. -/
def handlerArguments (parameters : Text) : Text :=
  let call := parameters.dropWhile fun c => isWord c || c == '.'
  if call.isEmpty then "()".toList
  else if call.head? == some '(' && call.getLast? == some ')' && !call.contains '\n' then call
  else parameters

/-- Check a tag when it is closed. -/
def OpenTag.check (tag : OpenTag) : Except MarkupError Unit :=
  let parameters := Text.trimBlank tag.parameters
  if tag.name.head? != some '@' || tag.parameters.isEmpty ||
      Literal.isLiteral (handlerArguments parameters) then .ok ()
  else .error (.handler parameters)

/-- The normal form of a tag's name. -/
def normalName (name : Text) : Except MarkupError Text :=
  (Style.normalText name).mapError fun _ => .colour

/-- Show pieces, with the open tags from the last to the first. -/
def showPieces : List OpenTag → List Piece → Except MarkupError Text
  | _, [] => .ok []
  | tags, .text s :: rest => do
    let more ← showPieces tags rest
    return showText s ++ more
  | tags, .opening name parameters :: rest => do
    let name ← normalName name
    showPieces (⟨name, parameters⟩ :: tags) rest
  | tags, .closing [] :: rest =>
    match tags with
    | [] => .error .nothingOpen
    | tag :: tags => do
      tag.check
      showPieces tags rest
  | tags, .closing (c :: name) :: rest => do
    let name ← normalName (c :: name)
    match closeNamed? name tags with
    | none => .error (.notOpen name)
    | some (tag, tags) => do
      tag.check
      showPieces tags rest

/-- How far apart the places are that a tab leads to. -/
def tabSize : Nat :=
  8

/-- A text with its tabs replaced, from a column on. -/
def expandTabs : Nat → Text → Text
  | _, [] => []
  | column, c :: s =>
    if c == '\t' then
      let width := tabSize - column % tabSize
      List.replicate width ' ' ++ expandTabs (column + width) s
    else c :: expandTabs (if c == '\n' then 0 else column + 1) s

/-- Markup as lines on the console. -/
def printed (s : Text) : Except MarkupError Text := do
  let shown ← showPieces [] (pieces s)
  return expandTabs 0 shown ++ ['\n']

end Docpress.Console
