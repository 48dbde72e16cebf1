import Docpress.Text.Basic
/-!
A document as a sequence of events: where its blocks begin and end, and what lies between. The
content of paragraphs, headings and cells is a parameter: text at first, and pieces of running text
once references are known.
-/

namespace Docpress.Markdown

/-- How a column of a table is aligned. -/
inductive Alignment where
  | left
  | center
  | right
deriving DecidableEq, Repr

/-- A block that holds other blocks or running text. -/
inductive Element where
  | quote
  /-- A list: ordered ones have the number of their first item. `tasks` if an item is a task. -/
  | list (first : Option Nat) (tasks : Bool)
  | item (task : Bool)
  /-- A paragraph; a tight one is written without its tags. -/
  | paragraph (tight : Bool)
  | heading (level : Nat) (id : Option Text)
  | table
  | head
  | body
  | row
  | cell (header : Bool) (alignment : Option Alignment)
deriving DecidableEq, Repr

/-- What happens next in a document whose running text has type `α`. -/
inductive Event (α : Type) where
  | start (element : Element)
  | stop (element : Element)
  | inline (content : α)
  /-- A thematic break. -/
  | rule
  /-- Indented code. -/
  | code (content : Text)
  | fence (info content : Text)
  /-- A block of raw HTML. -/
  | html (content : Text)
deriving DecidableEq, Repr

/-- Apply `f` to the running text of an event. -/
def Event.map {α β : Type} (f : α → β) : Event α → Event β
  | .start e => .start e
  | .stop e => .stop e
  | .inline content => .inline (f content)
  | .rule => .rule
  | .code content => .code content
  | .fence info content => .fence info content
  | .html content => .html content

/-- An element that holds running text only, with that text. -/
def Event.leaf {α : Type} (element : Element) (content : α) : List (Event α) :=
  [.start element, .inline content, .stop element]

/-- An element around events. -/
def Event.wrap {α : Type} (element : Element) (events : List (Event α)) : List (Event α) :=
  .start element :: events ++ [.stop element]

/-- Make the paragraphs tight that lie directly in an item of a list, given the events between the
    list's start and its end; `depth` counts the elements that are open. -/
def tighten {α : Type} : (depth : Nat) → List (Event α) → List (Event α)
  | _, [] => []
  | depth, .start e :: rest =>
    (match e with
      | .paragraph tight => .start (.paragraph (tight || depth == 1))
      | e => .start e) :: tighten (depth + 1) rest
  | depth, .stop e :: rest =>
    (match e with
      | .paragraph tight => .stop (.paragraph (tight || depth == 2))
      | e => .stop e) :: tighten (depth - 1) rest
  | depth, event :: rest => event :: tighten depth rest

end Docpress.Markdown
