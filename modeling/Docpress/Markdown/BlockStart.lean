import Docpress.Markdown.Event
import Docpress.Markdown.Line
import Docpress.Html.Tag
/-!
How blocks begin, and which of them end a paragraph or another block that could still go on.
-/

namespace Docpress.Markdown

/-- Where a block stands: the column that its lines must reach, and that of the list around it. -/
structure Scope where
  indent : Nat := 0
  listIndent : Option Nat := none
deriving DecidableEq, Repr

/-- The line is indented so far that it is code. -/
def Line.isCode (scope : Scope) (l : Line) : Bool :=
  (scope.indent : Int) + 4 ≤ l.column

/-- The line does not reach the column of its scope. -/
def Line.isOutdented (scope : Scope) (l : Line) : Bool :=
  l.column < scope.indent

/-- The opening line of a fence: its mark, the length of its run and the info text. -/
structure Fence where
  mark : Char
  length : Nat
  info : Text
deriving DecidableEq, Repr

/-- The fence that a line opens. -/
def fence? (scope : Scope) (l : Line) : Option Fence :=
  if l.isCode scope then none
  else match l.content with
    | [] => none
    | mark :: _ =>
      let length := (l.content.takeWhile (· == mark)).length
      let info := l.content.drop length
      if (mark == '~' || (mark == '\x60' && !info.any (· == '\x60'))) && 3 ≤ length then
        some ⟨mark, length, info⟩
      else none

/-- The line opens a quote. -/
def startsQuote (scope : Scope) (l : Line) : Bool :=
  !l.isCode scope && l.content.head? == some '>'

/-- The line is a thematic break: at least three marks of one kind, with indentation between. -/
def isRule (scope : Scope) (l : Line) : Bool :=
  match l.content with
  | mark :: _ =>
    !l.isCode scope && (mark == '*' || mark == '-' || mark == '_') &&
      l.content.all (fun c => c == mark || isIndent c) && 3 ≤ l.content.count mark
  | [] => false

/-- The marker of a list item: the number of an ordered one, the mark, and the marker's width. -/
structure Marker where
  number : Option Nat
  mark : Char
  width : Nat
deriving DecidableEq, Repr

/-- A marker must be followed by indentation or the line's end. -/
def endsMarker (s : Text) : Bool :=
  s.head?.all isIndent

/-- The marker that a line's content begins with. -/
def marker? (content : Text) : Option Marker :=
  match content with
  | [] => none
  | c :: rest =>
    if c == '*' || c == '-' || c == '+' then
      if endsMarker rest then some ⟨none, c, 1⟩ else none
    else
      let digits := content.takeWhile Char.isDigit
      match content.drop digits.length with
      | mark :: rest =>
        if !digits.isEmpty && digits.length ≤ 9 && (mark == '.' || mark == ')') &&
            endsMarker rest then
          some ⟨some (Text.digitsValue digits), mark, digits.length + 1⟩
        else none
      | [] => none

/-- The marker of the list that a line begins. A list that ends a paragraph must begin at one and
    with an item that is not empty. -/
def listStart? (scope : Scope) (inParagraph : Bool) (l : Line) : Option Marker :=
  let outside := match scope.listIndent with
    | some n => (n : Int) + 4 ≤ l.column && l.isOutdented scope
    | none => false
  if l.isCode scope || outside then none
  else match marker? l.content with
    | some m =>
      if inParagraph && !l.isOutdented scope &&
          (m.number.any (· != 1) || (l.content.drop m.width).all isIndent) then none
      else some m
    | none => none

/-- The level and the content of the heading that a line is. -/
def heading? (scope : Scope) (l : Line) : Option (Nat × Text) :=
  let level := (l.content.takeWhile (· == '#')).length
  let rest := l.content.drop level
  if l.isCode scope || level == 0 || 6 < level || !rest.head?.all isIndent then none
  else
    let trimmed := Text.trimEnd isIndent rest
    let unmarked := Text.trimEnd (· == '#') trimmed
    some (level, trimSpace (if unmarked.getLast?.any isIndent then unmarked else trimmed))

/-- The way in which a line begins a block of HTML. -/
def htmlStart? (scope : Scope) (l : Line) : Option Html.BlockStart :=
  if l.isCode scope then none else Html.blockStart? l.content

/-! ### Tables -/

/-- The alignment that a cell of the second row gives, if the cell is well formed. -/
def alignment? (cell : Text) : Option (Option Alignment) :=
  let inner := if cell.head? == some ':' then cell.drop 1 else cell
  let dashes := if inner.getLast? == some ':' then inner.dropLast else inner
  if dashes.isEmpty || dashes.any (· != '-') then none
  else some (match cell.head? == some ':', cell.getLast? == some ':' with
    | true, true => some .center
    | true, false => some .left
    | false, true => some .right
    | false, false => none)

/-- The alignments of the cells of the second row; only the first and the last cell may be empty,
    and then they do not count. -/
def alignments? : (first : Bool) → List Text → Option (List (Option Alignment))
  | _, [] => some []
  | first, cell :: rest =>
    let cell := trimSpace cell
    if cell.isEmpty then (if first || rest.isEmpty then alignments? false rest else none)
    else match alignment? cell, alignments? false rest with
      | some a, some as => some (a :: as)
      | _, _ => none

/-- Split a row at its bars. A bar after a backslash does not count, and the backslash is dropped;
    `current` holds the cell so far, in reverse. -/
def splitRow : (escaped : Bool) → (current : Text) → Text → List Text
  | _, current, [] => [current.reverse]
  | escaped, current, c :: s =>
    if c == '|' then
      if escaped then splitRow false ('|' :: current.drop 1) s
      else current.reverse :: splitRow false [] s
    else splitRow (c == '\\') (c :: current) s

/-- The cells of a row: an empty one before the first bar or after the last does not count. -/
def rowCells (row : Text) : List Text :=
  let cells := splitRow false [] row
  let cells := if cells.head? == some [] then cells.drop 1 else cells
  let cells := if cells.getLast? == some [] then cells.dropLast else cells
  cells.map trimSpace

/-- The second row of a table may look like this: bars, dashes, colons and indentation, and not
    the beginning of a list item. -/
def isDelimiterRow (s : Text) : Bool :=
  let isMark (c : Char) : Bool := c == '|' || c == '-' || c == ':'
  match s with
  | a :: b :: rest =>
    isMark a && (isMark b || (isIndent b && a != '-')) && rest.all fun c => isMark c || isIndent c
  | _ => false

/-- The cells of the head and the alignments of the table that lines begin. -/
def tableStart? (scope : Scope) : List Line → Option (List Text × List (Option Alignment))
  | head :: second :: _ =>
    if second.isOutdented scope || second.isCode scope || !isDelimiterRow second.content then none
    else match alignments? true (Text.splitBy (· == '|') second.content) with
      | none => none
      | some aligns =>
        let row := trimSpace head.content
        let cells := rowCells row
        if row.any (· == '|') && !head.isCode scope && !cells.isEmpty &&
            cells.length == aligns.length then some (cells, aligns)
        else none
  | _ => none

/-! ### Interruption -/

/-- What a line might put an end to. -/
inductive Interrupted where
  | paragraph
  | definition
  | quote
  | list
deriving DecidableEq, Repr

/-- The first of the lines begins a block that ends one that could still go on. -/
def interrupts (scope : Scope) (kind : Interrupted) : List Line → Bool
  | [] => false
  | l :: rest =>
    let always := (fence? scope l).isSome || startsQuote scope l || isRule scope l
    match kind with
    | .list => always
    | .quote => always || others false l
    | .definition => always || others false l || (tableStart? scope (l :: rest)).isSome
    | .paragraph => always || others true l || (tableStart? scope (l :: rest)).isSome
where
  /-- A list, a block of HTML or a heading begins here. -/
  others (inParagraph : Bool) (l : Line) : Bool :=
    (listStart? scope inParagraph l).isSome || (htmlStart? scope l).any (·.interrupts) ||
      (heading? scope l).isSome

end Docpress.Markdown
