import Docpress.Markdown.Document
import Docpress.Html.Escape
/-!
A document as HTML. What a highlighter has made of the fences is given as a list of replies in the
order of the fences; an empty reply leaves the code as it is.
-/

namespace Docpress.Markdown

/-! ### Running text -/

/-- An attribute of a tag. -/
def attr (name : String) (value : Text) : Text :=
  ' ' :: name.toList ++ "=\"".toList ++ Html.escape value ++ ['"']

/-- The attribute for a title, if there is one. -/
def titleAttribute (title : Text) : Text :=
  if title.isEmpty then [] else attr "title" title

/-- The name of the tag of an emphasis. -/
def Emphasis.tag : Emphasis → Text
  | .plain => "em".toList
  | .strong => "strong".toList
  | .strike => "s".toList

/-- A line break that is shown. -/
def lineBreak : Text :=
  "<br />\n".toList

/-- A piece as HTML. With `breaks`, line ends within a paragraph are shown. -/
def Span.write (breaks : Bool) : Span → Text
  | .text s => Html.escape s
  | .literal s => Html.escape s
  | .code s => "<code>".toList ++ Html.escape s ++ "</code>".toList
  | .html s => s
  | .softBreak => if breaks then lineBreak else ['\n']
  | .hardBreak => lineBreak
  | .openEmphasis kind => '<' :: kind.tag ++ ['>']
  | .closeEmphasis kind => '<' :: '/' :: kind.tag ++ ['>']
  | .openLink target =>
    "<a".toList ++ attr "href" target.url ++ titleAttribute target.title ++ ['>']
  | .closeLink => "</a>".toList
  | .image target alt _ =>
    "<img".toList ++ attr "src" target.url ++ attr "alt" alt ++
      titleAttribute target.title ++ " />".toList

/-! ### Code -/

/-- The class of the tag around a block of code. -/
def sourceTag : Text :=
  "<pre class=\"source\">".toList

/-- Give the first plain `pre` tag of a text the class of source code. -/
def markSource (html : Text) : Text :=
  Text.replaceFirst "<pre>".toList sourceTag html

/-- The language of a fence: the first word of its info text, which may be empty. -/
def fenceLanguage (info : Text) : Text :=
  (Text.words isBlank (unescape info)).headD []

/-- A fence as HTML with a highlighter's reply, before its tag is marked. A reply that is a `pre`
    element itself is taken whole. -/
def fenceHtml (info content reply : Text) : Text :=
  let code := if reply.isEmpty then Html.escape content else reply
  if Text.startsWith code "<pre".toList then code ++ ['\n']
  else
    let language := fenceLanguage info
    let classes := if language.isEmpty then []
      else attr "class" ("language-".toList ++ language)
    "<pre><code".toList ++ classes ++ '>' :: code ++ "</code></pre>\n".toList

/-- Indented code as HTML, before its tag is marked. -/
def codeHtml (content : Text) : Text :=
  "<pre><code>".toList ++ Html.escape content ++ "</code></pre>\n".toList

/-- The language and the content of each fence of a document, in order. -/
def fences : List (Event (List Span)) → List (Text × Text)
  | [] => []
  | .fence info content :: rest => (fenceLanguage info, content) :: fences rest
  | _ :: rest => fences rest

/-! ### Blocks -/

/-- The name of an element's tag. -/
def Element.tag : Element → Text
  | .quote => "blockquote".toList
  | .list none _ => "ul".toList
  | .list (some _) _ => "ol".toList
  | .item _ => "li".toList
  | .paragraph _ => ['p']
  | .heading level _ => 'h' :: Text.ofNat level
  | .table => "table".toList
  | .head => "thead".toList
  | .body => "tbody".toList
  | .row => "tr".toList
  | .cell header _ => if header then "th".toList else "td".toList

/-- The value of an alignment in a style. -/
def Alignment.css : Alignment → Text
  | .left => "left".toList
  | .center => "center".toList
  | .right => "right".toList

/-- The attributes of an element's tag. -/
def Element.attributes : Element → Text
  | .list first tasks =>
    (match first with
      | some n => if n == 1 then [] else attr "start" (Text.ofNat n)
      | none => []) ++ if tasks then attr "class" "contains-task-list".toList else []
  | .item true => attr "class" "task-list-item".toList
  | .heading _ (some id) => attr "id" id
  | .cell _ (some align) => attr "style" ("text-align:".toList ++ align.css)
  | _ => []

/-- The element is written without tags. -/
def Element.isHidden : Element → Bool
  | .paragraph tight => tight
  | _ => false

/-- The event is the start or the end of an element without tags. -/
def Event.isHidden {α : Type} : Event α → Bool
  | .start e => e.isHidden
  | .stop e => e.isHidden
  | _ => false

/-- A line end follows the opening tag of an element, unless running text follows it, or a hidden
    element, or its own closing tag. -/
def endsLine {α : Type} (e : Element) : List (Event α) → Bool
  | .inline _ :: _ => false
  | .start next :: _ => !next.isHidden
  | .stop next :: _ => !next.isHidden && next.tag != e.tag
  | _ => true

/-- The events as HTML. `hidden` if the event before belongs to a hidden element: then what begins
    a new line does so. -/
def writeEvents (breaks : Bool) :
    (hidden : Bool) → (replies : List Text) → List (Event (List Span)) → Text
  | _, _, [] => []
  | hidden, replies, event :: rest =>
    let newLine := if hidden then ['\n'] else []
    match event with
    | .start e =>
      let lineEnd := if endsLine e rest then ['\n'] else []
      (if e.isHidden then [] else newLine ++ '<' :: e.tag ++ e.attributes ++ '>' :: lineEnd)
        ++ writeEvents breaks e.isHidden replies rest
    | .stop e =>
      (if e.isHidden then [] else '<' :: '/' :: e.tag ++ ['>', '\n'])
        ++ writeEvents breaks e.isHidden replies rest
    | .inline spans => spans.flatMap (Span.write breaks) ++ writeEvents breaks false replies rest
    | .rule => newLine ++ "<hr />\n".toList ++ writeEvents breaks false replies rest
    | .code content => markSource (codeHtml content) ++ writeEvents breaks false replies rest
    | .html content => content ++ writeEvents breaks false replies rest
    | .fence info content =>
      markSource (fenceHtml info content (replies.headD [])) ++
        writeEvents breaks false (replies.drop 1) rest

/-- A document as HTML. -/
def writeDocument (breaks : Bool) (replies : List Text) (events : List (Event (List Span))) :
    Text :=
  writeEvents breaks false replies events

end Docpress.Markdown
