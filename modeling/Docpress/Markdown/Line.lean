import Docpress.Text.Blank
/-!
The lines of a document and their indentation. Within a quote or a list item a line is read from
where its container's marker ends, so each line keeps its own measures.
-/

namespace Docpress.Markdown

/-- A line as its innermost container sees it. -/
structure Line where
  /-- The characters from the container's edge to the line's end. -/
  text : Text
  /-- How many of them lie before the content: indentation, and markers of list items. -/
  lead : Nat
  /-- The column of the content; below zero on a line that only continues a paragraph. -/
  column : Int
  /-- The column of the edge, from which tab stops are counted. -/
  base : Nat
  /-- A line end follows. -/
  ended : Bool
deriving DecidableEq, Repr

/-- The line without what lies before its content. -/
def Line.content (l : Line) : Text :=
  l.text.drop l.lead

/-- The line has no content. -/
def Line.isEmpty (l : Line) : Bool :=
  l.text.length ≤ l.lead

/-- The column after a character of indentation that stands at column `n` from the edge. -/
def nextColumn (base n : Nat) (c : Char) : Nat :=
  if c == '\t' then n + (4 - (base + n) % 4) else n + 1

/-- The column after the indentation at the start of a text. -/
def indentColumn (base n : Nat) (s : Text) : Nat :=
  (s.takeWhile isIndent).foldl (nextColumn base) n

/-- A line of the document itself. -/
def Line.ofText (s : Text) (ended : Bool) : Line :=
  { text := s, lead := (s.takeWhile isIndent).length, column := indentColumn 0 0 s, base := 0,
    ended }

/-- The lines among the pieces between line ends. What follows the last line end is a line only if
    it has content. -/
def linesOfPieces : List Text → List Line
  | [] => []
  | [s] => if s.all isIndent then [] else [.ofText s false]
  | s :: rest => .ofText s true :: linesOfPieces rest

/-- Line ends of every kind become line feeds, and a null character the replacement character. -/
def normalize : Text → Text
  | [] => []
  | '\r' :: '\n' :: s => '\n' :: normalize s
  | c :: s =>
    (if c == '\r' then '\n' else if c == Char.ofNat 0 then Char.ofNat 0xFFFD else c) :: normalize s

/-- The lines of a document. -/
def linesOf (source : Text) : List Line :=
  linesOfPieces (Text.splitBy (· == '\n') (normalize source))

/-- Take away `width` columns from the start of a line: indentation, and list markers as far as
    `lead` characters. A tab that reaches further leaves spaces. -/
def dropColumns (base width : Nat) : (lead column : Nat) → Text → Text
  | _, column, [] => List.replicate (column - width) ' '
  | lead, column, c :: s =>
    if width ≤ column then List.replicate (column - width) ' ' ++ c :: s
    else if isIndent c then dropColumns base width (lead - 1) (nextColumn base column c) s
    else if 0 < lead then dropColumns base width (lead - 1) (column + 1) s
    else c :: s

/-- The line without its first `width` columns, with its line end if it has one. -/
def Line.dedent (width : Nat) (l : Line) : Text :=
  dropColumns l.base width l.lead 0 l.text ++ if l.ended then ['\n'] else []

/-- Lines without their first `width` columns, one after another, the last line end included. -/
def dedentAll (width : Nat) (lines : List Line) : Text :=
  lines.flatMap (Line.dedent width)

/-- A text without a line end at its end. -/
def dropLastEnd (s : Text) : Text :=
  if s.getLast? == some '\n' then s.dropLast else s

/-- The text without Markdown's white space at its ends. -/
def trimSpace (s : Text) : Text :=
  Text.trim isSpaceSeparator s

end Docpress.Markdown
