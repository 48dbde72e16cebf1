import Docpress.Config.Options
import Docpress.Highlight.Backend
import Docpress.Html.Escape
import Docpress.InlineTag
import Docpress.Markdown.Html
import Docpress.Url.Scheme
/-!
Rendering documentation: Markdown with inline tags and bare URLs protected from it.
-/

namespace Docpress

open Markdown Highlight

/-- A renderer: the options it was made from, and its highlighter, if there is one. -/
structure Renderer where
  config : MarkdownConfig
  parser : ParserName
  highlighter : Option HighlighterName
deriving DecidableEq, Repr

/-- The renderer for some options, unless their parser is not known; and what is reported about
    them. A highlighter that is not known is reported and left out. -/
def Renderer.ofConfig (config : MarkdownConfig) : Option Renderer × List LogEntry :=
  match resolveParser config.parser with
  | none =>
    (none, [⟨.error, "Unrecognized Markdown parser \"".toList ++ config.parser ++
      "\". Markdown support is disabled.".toList⟩])
  | some parser =>
    match config.highlight, resolveHighlighter config.highlight with
    | .named name, none =>
      (some ⟨config, parser, none⟩, if name.isEmpty then [] else
        [⟨.error, "Unrecognized code block highlighter \"".toList ++ name ++
          "\". Highlighting disabled.".toList⟩])
    | _, highlighter => (some ⟨config, parser, highlighter⟩, [])

/-- There is a renderer as soon as the parser is known, and its highlighter is the one that the
    setting selects. -/
theorem Renderer.fst_ofConfig (config : MarkdownConfig) :
    (Renderer.ofConfig config).1 = (resolveParser config.parser).map fun parser =>
      ⟨config, parser, resolveHighlighter config.highlight⟩ := by
  unfold Renderer.ofConfig
  cases resolveParser config.parser with
  | none => rfl
  | some parser =>
    simp only [Option.map_some]
    split
    · rename_i h
      rw [h]
    · rfl

/-- The steps before Markdown. -/
def protect (source : Text) : Text :=
  Url.hideSlashes (InlineTag.escapeUnderscores source)

/-- The steps after Markdown. -/
def restore (html : Text) : Text :=
  InlineTag.decodeQuotes (Url.showSlashes (Html.decodeApostrophes (Text.trimBlankEnd html)))

/-- The events of a Markdown text under some options. -/
def MarkdownConfig.document (config : MarkdownConfig) (text : Text) : List (Event (List Span)) :=
  let events := Markdown.document text
  if config.idInHeadings then identifyHeadings [] events else events

/-- The outcome of rendering one source: the HTML or the failure of a highlighter, the
    highlighter's state, the reports and the commands that were run. -/
structure Rendering where
  html : Except Failure Text
  state : LoadState
  logs : List LogEntry
  commands : List Command

/-- The backend of the renderer's highlighter, if there is one. -/
def Renderer.backend (r : Renderer) (i : Installation) : Option Backend :=
  r.highlighter.map (Backend.ofName i)

/-- Render Markdown as it is, with nothing protected and the fences given to a backend. -/
def Renderer.engineWith (r : Renderer) (backend : Option Backend) (state : LoadState)
    (text : Text) : Rendering :=
  let events := r.config.document text
  match backend with
  | none =>
    { html := .ok (writeDocument r.config.hardwrap [] events), state, logs := [], commands := [] }
  | some backend =>
    let replies := highlightAll backend state (fences events)
    { html := replies.result.map fun replies => writeDocument r.config.hardwrap replies events
      state := replies.state, logs := replies.logs, commands := replies.commands }

/-- Render Markdown as it is with what is installed. -/
def Renderer.engine (r : Renderer) (i : Installation) (state : LoadState) (text : Text) :
    Rendering :=
  r.engineWith (r.backend i) state text

/-- Render a source with a backend. -/
def Renderer.renderWith (r : Renderer) (backend : Option Backend) (state : LoadState)
    (source : Text) : Rendering :=
  let rendering := r.engineWith backend state (protect source)
  { rendering with html := rendering.html.map restore }

/-- Render a source with what is installed. -/
def Renderer.render (r : Renderer) (i : Installation) (state : LoadState) (source : Text) :
    Rendering :=
  r.renderWith (r.backend i) state source

/-- Render sources one after another with the same highlighter. A source whose rendering fails does
    not stop those after it. -/
def Renderer.renderAll (r : Renderer) (backend : Option Backend) :
    LoadState → List Text → List Rendering
  | _, [] => []
  | state, source :: rest =>
    let rendering := r.renderWith backend state source
    rendering :: r.renderAll backend rendering.state rest

/-- Render a source if it is not blank, and pass it through if there is no renderer. -/
def renderMarkdown (r : Option Renderer) (i : Installation) (state : LoadState) (source : Text) :
    Rendering :=
  match r with
  | none => { html := .ok source, state, logs := [], commands := [] }
  | some r =>
    if source.all isBlank then { html := .ok [], state, logs := [], commands := [] }
    else r.render i state source

/-- The HTML of a source is no Unicode, because something in it is shown with half of a surrogate
    pair. Such HTML can be neither printed nor stored. -/
def isUnencodable (r : Option Renderer) (source : Text) : Bool :=
  r.isSome && Markdown.isBroken (protect source)

/-- What a file holds after HTML was to be stored in it. It is emptied first, and stays empty if the
    HTML is no Unicode. -/
def storedHtml (unencodable : Bool) (html : Text) : Text :=
  if unencodable then [] else html ++ ['\n']

end Docpress
