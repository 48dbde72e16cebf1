import Docpress.Markdown.Block
import Docpress.Markdown.Inline
import Docpress.Slug
/-!
A document as events with its running text read: references resolved, task items marked, bare
addresses made links and, if wanted, headings given identifiers.
-/

namespace Docpress.Markdown

/-! ### Bare addresses -/

/-- The link that a bare address becomes, if its target is allowed. -/
def addressLink? (scheme : BareLink.Scheme) (written : Text) : Option (List Span) :=
  let lead := "mailto:".toList
  let implied := scheme == .mailto && (BareLink.dropLeadFolded? lead written).isNone
  let url := if implied then lead ++ written else written
  let shown := Url.display url
  let shown := if implied then (Text.dropLead? lead shown).getD shown else shown
  if Url.isAllowed (Url.target url) then
    some [.openLink ⟨Url.target url, [], Url.isBroken url⟩, .text shown, .closeLink]
  else none

/-- Split a text at the addresses found in it; `done` characters have been passed. An address whose
    target is not allowed stays text. -/
def splitAddresses (done : Nat) (s : Text) : List BareLink.Found → List Span
  | [] => if done < s.length then [.text (s.drop done)] else []
  | f :: rest =>
    match addressLink? f.scheme ((s.take f.stop).drop f.start) with
    | some link =>
      (if done < f.start then [.text ((s.take f.start).drop done)] else []) ++ link ++
        splitAddresses f.stop s rest
    | none => splitAddresses done s rest

/-- Make the addresses of a text links; one at its start is left if a literal character precedes
    it. -/
def linkAddresses (before : Option Span) (s : Text) : List Span :=
  match BareLink.findAll s with
  | [] => [.text s]
  | f :: rest =>
    let guarded := match before with
      | some (.literal _) => f.start == 0
      | _ => false
    splitAddresses 0 s (if guarded then rest else f :: rest)

/-- Whether pieces to the right are the end of a link, and how many raw links end there. -/
structure LinkState where
  inLink : Bool := false
  raw : Nat := 0

/-- Make bare addresses links, except in links. The pieces are gone through from the last one. -/
def linkSpans : (before : Option Span) → List Span → List Span × LinkState
  | _, [] => ([], {})
  | before, span :: rest =>
    let (out, state) := linkSpans (some span) rest
    if state.inLink then
      match span with
      | .openLink _ => (span :: out, { state with inLink := false })
      | _ => (span :: out, state)
    else match span with
      | .closeLink => (span :: out, { state with inLink := true })
      | .html tag =>
        let raw := if Html.opensLink tag then state.raw - 1 else state.raw
        (span :: out, { state with raw := if Html.closesLink tag then raw + 1 else raw })
      | .text s => (if state.raw == 0 then linkAddresses before s ++ out else span :: out, state)
      | _ => (span :: out, state)

/-- Make the bare addresses of running text links, given the text that it was read from. -/
def withAddresses (source : Text) (spans : List Span) : List Span :=
  if BareLink.mayHold source then (linkSpans none spans).1 else spans

/-! ### Task items -/

/-- White space after the box of a task. -/
def isTaskSpace (c : Char) : Bool :=
  c == ' ' || (9 ≤ c.toNat && c.toNat ≤ 13)

/-- Running text is a task: it begins with a box. -/
def isTask : Text → Bool
  | '[' :: mark :: ']' :: space :: _ =>
    (mark == ' ' || mark == 'x' || mark == 'X') && isTaskSpace space
  | _ => false

/-- The box of a task as HTML. A box that no plain space follows is dropped. -/
def taskBox : Text → Text
  | _ :: mark :: _ :: ' ' :: _ =>
    if mark == ' ' then
      "<input class=\"task-list-item-checkbox\" disabled=\"disabled\" type=\"checkbox\">".toList
    else ("<input class=\"task-list-item-checkbox\" checked=\"checked\" disabled=\"disabled\" " ++
      "type=\"checkbox\">").toList
  | _ => []

/-- Drop characters from a piece that is text of some kind. -/
def Span.drop (n : Nat) : Span → Span
  | .text s => .text (s.drop n)
  | .literal s => .literal (s.drop n)
  | .code s => .code (s.drop n)
  | .html s => .html (s.drop n)
  | span => span

/-- The pieces of a task: its box is raw HTML, and its first piece loses the three characters that
    wrote the box. -/
def taskSpans (source : Text) : List Span → List Span
  | [] => [.html (taskBox source)]
  | span :: rest => .html (taskBox source) :: span.drop 3 :: rest

/-- The pieces of running text with its bare addresses as links. -/
def readText (refs : References) (source : Text) : List Span :=
  withAddresses source (inlineSpans refs source)

/-- The pieces of a task's running text. -/
def readTask (refs : References) (source : Text) : List Span :=
  withAddresses (source.drop 3) (taskSpans source (inlineSpans refs source))

/-- Read the running text of all events. A list item whose first block is a paragraph that begins
    with a box is a task. -/
def readTexts (refs : References) : List (Event Text) → List (Event (List Span))
  | [] => []
  | .start (.item task) :: .start (.paragraph tight) :: .inline source :: rest =>
    if isTask source then
      .start (.item true) :: .start (.paragraph tight) :: .inline (readTask refs source) ::
        readTexts refs rest
    else
      .start (.item task) :: .start (.paragraph tight) :: .inline (readText refs source) ::
        readTexts refs rest
  | event :: rest => event.map (readText refs) :: readTexts refs rest

/-- Go through events from the last one and mark the lists that hold a task; for each list that is
    open the stack tells whether a task was seen in it. -/
def markTaskLists {α : Type} : List (Event α) → List (Event α) × List Bool
  | [] => ([], [])
  | event :: rest =>
    let (out, seen) := markTaskLists rest
    match event with
    | .stop (.list _ _) => (event :: out, false :: seen)
    | .start (.list first tasks) =>
      (.start (.list first (tasks || seen.headD false)) :: out, seen.drop 1)
    | .start (.item true) => (event :: out, true :: seen.drop 1)
    | _ => (event :: out, seen)

/-! ### Identifiers -/

/-- The title of a heading for its slug. -/
def titleOf (spans : List Span) : Text :=
  spans.flatMap Span.title

/-- Give each heading an identifier that none before it has. -/
def identifyHeadings : (taken : List Text) → List (Event (List Span)) →
    List (Event (List Span))
  | _, [] => []
  | taken, .start (.heading level _) :: .inline spans :: rest =>
    let slug := Slug.firstFree taken (Slug.ofTitle (titleOf spans))
    .start (.heading level (some slug)) :: .inline spans :: identifyHeadings (slug :: taken) rest
  | taken, event :: rest => event :: identifyHeadings taken rest

/-- The events of a document. -/
def document (source : Text) : List (Event (List Span)) :=
  let blocks := blocksOf source
  (markTaskLists (readTexts blocks.references blocks.events)).1

/-! ### Broken texts -/

/-- The event shows a text that is broken. -/
def Event.isBroken : Event (List Span) → Bool
  | .inline spans => spans.any Span.isBroken
  | _ => false

/-- The document shows a text with half of a surrogate pair, so that its HTML is no Unicode. -/
def isBroken (source : Text) : Bool :=
  (document source).any Event.isBroken

end Docpress.Markdown
