import Docpress.Markdown.Link
/-!
The pieces of running text: what a paragraph, a heading or a table cell holds. Emphasis and links
are pairs of an opening and a closing piece.
-/

namespace Docpress.Markdown

/-- The kinds of emphasis. -/
inductive Emphasis where
  | plain
  | strong
  | strike
deriving DecidableEq, Repr

/-- A piece of running text. -/
inductive Span where
  | text (s : Text)
  /-- Characters that were written as an escape or a reference, which no bare address begins
      after. -/
  | literal (s : Text)
  | code (s : Text)
  /-- Raw HTML. -/
  | html (s : Text)
  /-- A line end within a paragraph. -/
  | softBreak
  /-- A line end that is to be kept. -/
  | hardBreak
  | openEmphasis (kind : Emphasis)
  | closeEmphasis (kind : Emphasis)
  | openLink (target : LinkTarget)
  | closeLink
  /-- An image with its alternative text; `innerAlt` is the part of it that counts when the image
      stands in the alternative text of another one. -/
  | image (target : LinkTarget) (alt innerAlt : Text)
deriving DecidableEq, Repr

/-- What a piece adds to the alternative text of an image around it. -/
def Span.alt : Span → Text
  | .text s => s
  | .literal s => s
  | .code s => s
  | .html s => s
  | .softBreak => ['\n']
  | .hardBreak => ['\n']
  | .image _ _ innerAlt => innerAlt
  | _ => []

/-- What a piece adds to the alternative text of an image that is itself in another one's:
    literal characters are left out. -/
def Span.innerAlt : Span → Text
  | .literal _ => []
  | s => s.alt

/-- The text that a heading's piece adds to the title from which its slug is made. -/
def Span.title : Span → Text
  | .text s => s
  | .literal s => s
  | .code s => s
  | _ => []

/-- The piece shows a text that is broken. -/
def Span.isBroken : Span → Bool
  | .openLink target => target.broken
  | .image target _ _ => target.broken
  | _ => false

/-- Join neighbouring texts. -/
def joinTexts : List Span → List Span
  | [] => []
  | .text s :: rest =>
    match joinTexts rest with
    | .text t :: rest => .text (s ++ t) :: rest
    | rest => .text s :: rest
  | s :: rest => s :: joinTexts rest

end Docpress.Markdown
