import Docpress.Text.Basic
/-!
The names that select a Markdown parser or a code highlighter.
-/

namespace Docpress

/-- The Markdown parsers there are. -/
inductive ParserName where
  | marked
deriving DecidableEq, Repr

/-- The code highlighters there are. -/
inductive HighlighterName where
  | highlightJs
  | pygmentize
deriving DecidableEq, Repr

/-- A parser's canonical name. -/
def ParserName.canonical : ParserName → Text
  | .marked => "marked".toList

/-- A highlighter's canonical name. -/
def HighlighterName.canonical : HighlighterName → Text
  | .highlightJs => "highlight.js".toList
  | .pygmentize => "pygmentize".toList

/-- The highlighter of a canonical name. -/
def HighlighterName.ofCanonical? (name : Text) : Option HighlighterName :=
  [.highlightJs, .pygmentize].find? (·.canonical == name)

/-- The names of parsers in the order of their declaration; all but the last are old names. -/
def parserNames : List (Text × ParserName) :=
  [("evilstreak".toList, .marked), ("gfm".toList, .marked), ("marked".toList, .marked)]

/-- The names of highlighters in the order of their declaration. -/
def highlighterNames : List (Text × HighlighterName) :=
  [("hljs".toList, .highlightJs), ("highlight.js".toList, .highlightJs),
    ("highlightjs".toList, .highlightJs), ("pygmentize-bundled".toList, .pygmentize),
    ("pygmentize".toList, .pygmentize)]

/-- The highlighter that stands for plain "on". -/
def defaultHighlighter : HighlighterName :=
  .highlightJs

/-- The parser that a name selects. -/
def resolveParser (name : Text) : Option ParserName :=
  parserNames.lookup name

/-- The setting of code highlighting: off, on, or a highlighter by name. -/
inductive HighlightSetting where
  | flag (on : Bool)
  | named (name : Text)
deriving DecidableEq, Repr

/-- The setting asks for no highlighting. -/
def HighlightSetting.isOff : HighlightSetting → Bool
  | .flag on => !on
  | .named name => name.isEmpty

/-- The highlighter that a setting selects. -/
def resolveHighlighter : HighlightSetting → Option HighlighterName
  | .flag true => some defaultHighlighter
  | .flag false => none
  | .named name => highlighterNames.lookup name

end Docpress
