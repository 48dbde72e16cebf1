import Docpress.Markdown.Definition
/-!
The blocks of a document. Lines are read from the top; each block takes some of them, and quotes
and lists read the lines that they hold as documents of their own, down to a fixed depth.
-/

namespace Docpress.Markdown

/-- What has been read: events, the references that are defined, the number of lines, and whether
    no two blocks had an empty line between them. -/
structure Blocks where
  events : List (Event Text) := []
  references : References := []
  used : Nat := 0
  tight : Bool := true

/-- How to read the blocks of a scope from lines. -/
abbrev ReadBlocks := Scope → List Line → Blocks

/-! ### Blocks without inner blocks -/

/-- Code by indentation: lines as far as they are indented or empty, without empty ones at the
    end. -/
def readCode (scope : Scope) (lines : List Line) : Blocks :=
  let block := lines.takeWhile fun l => l.isEmpty || l.isCode scope
  let block := (block.reverse.dropWhile (·.isEmpty)).reverse
  { events := [.code (dropLastEnd (dedentAll (scope.indent + 4) block) ++ ['\n'])],
    used := block.length }

/-- The lines of a fence after its opening one, and whether a closing line follows them. -/
def fenceLines (scope : Scope) (fence : Fence) : List Line → List Line × Bool
  | [] => ([], false)
  | l :: rest =>
    if !l.isEmpty && l.isOutdented scope then ([], false)
    else
      let run := (l.content.takeWhile (· == fence.mark)).length
      if !l.isCode scope && fence.length ≤ run && (l.content.drop run).all isIndent then ([], true)
      else
        let (lines, closed) := fenceLines scope fence rest
        (l :: lines, closed)

/-- A fenced block. Its lines lose the indentation of the opening one. -/
def readFence (scope : Scope) (fence : Fence) (l : Line) (rest : List Line) : Blocks :=
  let (lines, closed) := fenceLines scope fence rest
  { events := [.fence fence.info (dedentAll l.column.toNat lines)],
    used := 1 + lines.length + if closed then 1 else 0 }

/-- The number of lines of a block of HTML after its first one. -/
def htmlLength (scope : Scope) (kind : Html.BlockStart) : List Line → Nat
  | [] => 0
  | l :: rest =>
    if !l.isEmpty && l.isOutdented scope then 0
    else if Html.endsBlock kind l.content then (if l.content.isEmpty then 0 else 1)
    else 1 + htmlLength scope kind rest

/-- A block of HTML. -/
def readHtml (scope : Scope) (kind : Html.BlockStart) (l : Line) (rest : List Line) : Blocks :=
  let more := if Html.endsBlock kind l.content then 0 else htmlLength scope kind rest
  { events := [.html (dedentAll scope.indent (l :: rest.take more))], used := 1 + more }

/-- The text of the lines of a paragraph or of a heading over several lines. -/
def paragraphText (scope : Scope) (lines : List Line) : Text :=
  trimSpace (dropLastEnd (dedentAll scope.indent lines))

/-- The level that a line gives to the lines above it when it underlines them as a heading. -/
def underline? (scope : Scope) (l : Line) : Option Nat :=
  match l.content with
  | c :: _ =>
    if !l.isOutdented scope && (c == '-' || c == '=') &&
        (l.content.dropWhile (· == c)).all isIndent then some (if c == '=' then 1 else 2)
    else none
  | [] => none

/-- The number of lines of a heading over several lines that follow its first one, without the
    underline, and the heading's level. -/
def underlined? (scope : Scope) : List Line → Option (Nat × Nat)
  | [] => none
  | l :: rest =>
    let more := (underlined? scope rest).map fun (n, level) => (n + 1, level)
    if l.isEmpty then none
    else if l.isCode scope then more
    else match underline? scope l with
      | some level => some (0, level)
      | none => if l.column < 0 || !interrupts scope .paragraph (l :: rest) then more else none

/-- A heading of a level with its running text. -/
def headingBlock (level : Nat) (content : Text) : List (Event Text) :=
  Event.leaf (.heading level none) content

/-- A paragraph. -/
def readParagraph (scope : Scope) (l : Line) (rest : List Line) : Blocks :=
  let lines := l :: continuation scope .paragraph rest
  { events := Event.leaf (.paragraph false) (paragraphText scope lines), used := lines.length }

/-- How many cells may be filled in where rows are too short. -/
def maxFilledCells : Nat := 0x10000

/-- The rows of a table's body, as far as they go; `filled` cells have been filled in before. -/
def bodyRows (scope : Scope) (columns : Nat) : (filled : Int) → List Line → List (List Text)
  | _, [] => []
  | filled, l :: rest =>
    let row := trimSpace l.content
    let cells := rowCells row
    let filled := filled + columns - cells.length
    if l.isOutdented scope || interrupts scope .quote (l :: rest) || row.isEmpty ||
        l.isCode scope || (maxFilledCells : Int) < filled then []
    else cells :: bodyRows scope columns filled rest

/-- A row of a table: each column has a cell, and cells beyond the columns are dropped. -/
def rowEvents (header : Bool) (aligns : List (Option Alignment)) (cells : List Text) :
    List (Event Text) :=
  Event.wrap .row ((aligns.zip (cells ++ List.replicate aligns.length [])).flatMap
    fun (align, cell) => Event.leaf (.cell header align) cell)

/-- A table. -/
def readTable (scope : Scope) (cells : List Text) (aligns : List (Option Alignment))
    (rest : List Line) : Blocks :=
  let rows := bodyRows scope aligns.length 0 rest
  let head := Event.wrap .head (rowEvents true aligns cells)
  let body := if rows.isEmpty then []
    else Event.wrap .body (rows.flatMap (rowEvents false aligns))
  { events := Event.wrap .table (head ++ body), used := 2 + rows.length }

/-! ### Quotes -/

/-- A line of a quote without its marker and one space after it. -/
def unquote (l : Line) : Line :=
  let after := l.content.drop 1
  let column := l.column + 1
  let stop := (l.base : Int) + column
  match after with
  | ' ' :: text => ofEdge text (column + 1) 1 0
  | '\t' :: text =>
    if stop % 4 == 3 then ofEdge text (column + 1) 1 0 else ofEdge after column 1 1
  | _ => ofEdge after column 0 0
where
  /-- The line from its new edge on, which stands at a column; `space` if a space after the marker
      counts, and `shift` if it is part of a tab. -/
  ofEdge (text : Text) (column : Int) (space shift : Nat) : Line :=
    let indent := text.takeWhile isIndent
    let stop := indent.foldl (nextColumn (l.base + shift)) column.toNat
    { text, lead := indent.length, column := (stop : Int) - column,
      base := (l.column + 1).toNat + space, ended := l.ended }

/-- The lines of a quote after its first one, as the quote sees them. A line without a marker
    belongs to it only as the continuation of a paragraph. -/
def quotedLines (scope : Scope) : (lastEmpty : Bool) → List Line → List Line
  | _, [] => []
  | lastEmpty, l :: rest =>
    if l.isEmpty then []
    else if l.content.head? == some '>' && !l.isOutdented scope then
      let inner := unquote l
      inner :: quotedLines scope inner.isEmpty rest
    else if lastEmpty || interrupts scope .quote (l :: rest) then []
    else { l with column := -1 } :: quotedLines scope false rest

/-- A quote. -/
def readQuote (inner : ReadBlocks) (scope : Scope) (l : Line) (rest : List Line) : Blocks :=
  let first := unquote l
  let content := inner { scope with indent := 0 } (first :: quotedLines scope first.isEmpty rest)
  { content with events := Event.wrap .quote content.events }

/-! ### Lists -/

/-- A list item's first line as the item sees it, and the column that its other lines must
    reach. -/
def itemLine (l : Line) (m : Marker) : Line × Nat :=
  let start := l.column.toNat + m.width
  let after := l.content.drop m.width
  let indent := after.takeWhile isIndent
  let column := indentColumn l.base start after
  let width := if indent.length == after.length then 1
    else if 4 < column - start then 1 else column - start
  ({ l with lead := l.lead + m.width + indent.length, column := column }, start + width)

/-- An item of a list, from its first line. An empty item whose next line is empty too ends
    there. -/
def readItem (inner : ReadBlocks) (scope : Scope) (m : Marker) (l : Line) (rest : List Line) :
    Blocks :=
  let (first, indent) := itemLine l m
  if first.isEmpty && rest.head?.all (·.isEmpty) then { used := 1 + min 1 rest.length }
  else inner { indent, listIndent := some scope.indent } (first :: rest)

/-- The line goes on a list whose items have the given marker. -/
def nextMarker? (scope : Scope) (m : Marker) : List Line → Option Marker
  | [] => none
  | l :: rest =>
    if l.isOutdented scope || l.isCode scope || interrupts scope .list (l :: rest) then none
    else match marker? l.content with
      | some next =>
        if next.mark == m.mark && next.number.isSome == m.number.isSome then some next else none
      | none => none

/-- The items of a list. `afterEmpty` if the item before ended with an empty line. -/
def readItems (inner : ReadBlocks) (scope : Scope) :
    (fuel : Nat) → (afterEmpty : Bool) → Marker → List Line → Blocks
  | 0, _, _, _ => {}
  | _, _, _, [] => {}
  | fuel + 1, afterEmpty, m, l :: rest =>
    let item := readItem inner scope m l rest
    let events := Event.wrap (.item false) item.events
    let tight := item.tight && !afterEmpty
    let lines := l :: rest
    let endsEmpty := 1 < item.used && (lines[item.used - 1]?).any (·.isEmpty)
    let lines := lines.drop item.used
    match nextMarker? scope m lines with
    | none => { events, references := item.references, used := item.used, tight }
    | some next =>
      let more := readItems inner scope fuel endsEmpty next lines
      { events := events ++ more.events, references := item.references ++ more.references,
        used := item.used + more.used, tight := tight && more.tight }

/-- A list. -/
def readList (inner : ReadBlocks) (scope : Scope) (m : Marker) (lines : List Line) : Blocks :=
  let items := readItems inner scope lines.length false m lines
  let events := if items.tight then tighten 0 items.events else items.events
  { items with events := Event.wrap (.list m.number false) events }

/-! ### Documents -/

/-- One block from the first of the lines, which is not empty. The ways to begin a block are tried
    in a fixed order, and the last of them is a paragraph. -/
def readBlock (quoted listed : ReadBlocks) (scope : Scope) (l : Line) (rest : List Line) :
    Blocks :=
  match tableStart? scope (l :: rest) with
  | some (cells, aligns) => readTable scope cells aligns (rest.drop 1)
  | none =>
  if l.isCode scope then readCode scope (l :: rest)
  else match fence? scope l with
  | some fence => readFence scope fence l rest
  | none =>
  if startsQuote scope l then readQuote quoted scope l rest
  else if isRule scope l then { events := [.rule], used := 1 }
  else match listStart? scope false l with
  | some m => readList listed scope m (l :: rest)
  | none =>
  match definitionStart? scope (l :: rest) with
  | some (reference, used) => { references := [reference], used }
  | none =>
  match htmlStart? scope l with
  | some kind => readHtml scope kind l rest
  | none =>
  match heading? scope l with
  | some (level, content) => { events := headingBlock level content, used := 1 }
  | none =>
  match underlined? scope rest with
  | some (more, level) =>
    { events := headingBlock level (paragraphText scope (l :: rest.take more)), used := more + 2 }
  | none => readParagraph scope l rest

/-- Read blocks until the lines end or one does not reach the scope's column. `sawEmpty` if an empty
    line has followed a block; each block takes one unit of fuel. -/
def readBlocks (quoted listed : ReadBlocks) (scope : Scope) :
    (fuel : Nat) → (sawEmpty : Bool) → List Line → Blocks
  | 0, _, _ => {}
  | fuel + 1, sawEmpty, lines =>
    let empty := (lines.takeWhile (·.isEmpty)).length
    match lines.drop empty with
    | [] => { used := empty }
    | l :: rest =>
      if l.isOutdented scope then { used := empty }
      else
        let block := readBlock quoted listed scope l rest
        let lines := l :: rest
        let after := lines.drop block.used
        let sawNow := sawEmpty || (0 < block.used && (lines[block.used - 1]?).any (·.isEmpty)) ||
          after.head?.any (·.isEmpty)
        let more := readBlocks quoted listed scope fuel sawNow after
        { events := block.events ++ more.events
          references := block.references ++ more.references
          used := empty + block.used + more.used
          tight := if more.events.isEmpty && more.references.isEmpty then !sawEmpty
            else more.tight }

/-- Below the deepest level nothing is read: the lines are passed over. -/
def passBlocks (scope : Scope) (lines : List Line) : Blocks :=
  let empty := (lines.takeWhile (·.isEmpty)).length
  match lines.drop empty with
  | [] => { used := empty }
  | l :: _ => if l.isOutdented scope then { used := empty } else { used := lines.length }

/-- Read blocks with room for `room` further levels; a quote takes one of them and a list two. -/
def blocksWithin : (room : Nat) → ReadBlocks
  | 0, scope, lines => passBlocks scope lines
  | 1, scope, lines => readBlocks passBlocks passBlocks scope lines.length false lines
  | room + 2, scope, lines =>
    readBlocks (blocksWithin (room + 1)) (blocksWithin room) scope lines.length false lines

/-- The number of levels that are read. -/
def maxDepth : Nat := 20

/-- The blocks of a document. -/
def blocksOf (source : Text) : Blocks :=
  blocksWithin maxDepth {} (linesOf source)

end Docpress.Markdown
