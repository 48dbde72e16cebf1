import Docpress.Markdown.BlockStart
import Docpress.Markdown.Link
import Docpress.Url.Normal
/-!
Link reference definitions: a label, a destination and perhaps a title, which may stretch over the
lines of one paragraph.
-/

namespace Docpress.Markdown

/-- The lines that would continue a paragraph. -/
def continuation (scope : Scope) (kind : Interrupted) : List Line → List Line
  | [] => []
  | l :: rest =>
    if l.isEmpty then []
    else if l.isCode scope || l.column < 0 || !interrupts scope kind (l :: rest) then
      l :: continuation scope kind rest
    else []

/-- A label up to its closing bracket, as it is written, and what follows the bracket. -/
def definitionLabel? : Text → Option (Text × Text)
  | [] => none
  | ']' :: s => some ([], s)
  | '[' :: _ => none
  | '\\' :: c :: s => (definitionLabel? s).map fun (label, rest) => ('\\' :: c :: label, rest)
  | c :: s => (definitionLabel? s).map fun (label, rest) => (c :: label, rest)

/-- What follows the indentation at the start of a text, if it is a line end or nothing. -/
def lineRest? (s : Text) : Option Text :=
  let rest := s.dropWhile isIndent
  if rest.head?.all (· == '\n') then some rest else none

/-- The title after a destination, and what follows its line. A title that anything follows on its
    line is none, and then its line must not hold the destination; but an empty one makes the
    whole definition void. -/
def definitionTitle? (s : Text) : Option (Text × Text) :=
  let t := s.dropWhile isLinkSpace
  match (if t.length < s.length then title? t else none) with
  | some (title, rest) =>
    match lineRest? rest with
    | some rest => some (title, rest)
    | none => if title.isEmpty then none else (lineRest? s).map fun rest => ([], rest)
  | none => (lineRest? s).map fun rest => ([], rest)

/-- The definition at the start of a text after its opening bracket: the label, the target, and
    what follows. -/
def definition? (s : Text) : Option (Text × LinkTarget × Text) := do
  let (label, s) ← definitionLabel? s
  let s ← Text.dropLead? [':'] s
  let (written, s) ← destination? (s.dropWhile isLinkSpace)
  let url := Url.target written
  if !Url.isAllowed url then none
  else
    let (title, rest) ← definitionTitle? s
    let name := normalLabel label
    if name.isEmpty then none else some (name, { url, title }, rest)

/-- The definition that lines begin, and the number of lines it takes. -/
def definitionStart? (scope : Scope) : List Line → Option ((Text × LinkTarget) × Nat)
  | [] => none
  | l :: rest =>
    match l.content with
    | '[' :: s =>
      if l.isCode scope then none
      else
        let more := (continuation scope .definition rest).flatMap fun l => l.content ++ ['\n']
        let whole := s ++ '\n' :: more
        (definition? whole).map fun (name, target, rest) =>
          ((name, target), 1 + (whole.take (whole.length - rest.length)).count '\n')
    | _ => none

end Docpress.Markdown
