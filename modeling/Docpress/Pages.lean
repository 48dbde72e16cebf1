import Docpress.Config.Project
import Docpress.Renderer
import Docpress.TextFile
/-!
Rendering the documents of a project: every Markdown file below the source directory becomes a page
at the same place below the output directory.
-/

namespace Docpress

open Highlight

/-- The suffixes of Markdown files, in lower case. -/
def markdownSuffixes : List Text :=
  [".md".toList, ".markdown".toList]

/-- The path is that of a Markdown file. -/
def isMarkdown (p : Path) : Bool :=
  markdownSuffixes.contains (lower p.suffix)

/-- The Markdown files below a directory, in the order of their names. -/
def collectSources (t : FileTree) (dir : Path) : List Path × List LogEntry :=
  match t.locate dir with
  | .error _ =>
    ([], [⟨.warning, "Source directory ".toList ++ dir.toText ++
      " does not exist; nothing to render.".toList⟩])
  | .ok place =>
    let files := (t.filesBelow place).map fun names => dir.join { names }
    let sources := (files.filter isMarkdown).mergeSort fun p q => !Path.namesPrecede q.names p.names
    (sources, [])

/-- A source and the page that was written for it. -/
structure Page where
  source : Path
  output : Path
deriving DecidableEq, Repr

/-- Why pages cannot be written. -/
inductive PageError where
  | file (e : FileError)
  | encoding (e : Utf8.DecodingError)
  | highlight (e : Failure)
  /-- The page would have no name. -/
  | noName (path : Path)
  /-- The HTML of the page is no Unicode. The page's file has been emptied then. -/
  | unencodable (page : Page)
deriving DecidableEq, Repr

/-- The wording of an error. -/
def PageError.message : PageError → Text
  | .file e => e.message
  | .encoding e => e.message
  | .highlight e => e.message
  | .noName path => "PosixPath(".toList ++ Text.quoted path.toText ++ ") has an empty name".toList
  | .unencodable _ => "surrogates not allowed".toList

/-- Where the page of a source goes: at the same place below the output directory, or directly in
    it if the source is not below the source directory. -/
def Config.outputOf (config : Config) (source : Path) : Except PageError Path :=
  let relative := (source.relativeTo? config.sourceDir).getD (Path.ofText source.name)
  let target := config.outputDir.join relative
  match target.withSuffix? ".html".toList with
  | some output => .ok output
  | none => .error (.noName target)

/-- The outcome of writing pages: those that were written, or what ended it, and the files, the
    highlighter's state and the reports then. -/
structure Build where
  result : Except PageError (List Page)
  tree : FileTree
  state : LoadState := {}
  logs : List LogEntry := []

/-- Nothing more is done. -/
def Build.stop (t : FileTree) (state : LoadState) (e : PageError) : Build :=
  { result := .error e, tree := t, state }

/-- Write the page of a source whose text is known. The directories that it needs are made before
    the text is rendered, and its file is emptied before it turns out that the HTML cannot be
    stored. -/
def writePage (t : FileTree) (config : Config) (r : Option Renderer) (i : Installation)
    (state : LoadState) (source : Path) (text : Text) : Build :=
  match config.outputOf source with
  | .error e => .stop t state e
  | .ok output =>
    match t.ensureDirectories output.parent with
    | .error e => .stop t state (.file e)
    | .ok t =>
      let rendering := renderMarkdown r i state text
      let result : Except PageError FileTree := do
        let html ← rendering.html.mapError PageError.highlight
        (t.writeText output (storedHtml (isUnencodable r text) html)).mapError PageError.file
      match result with
      | .error e =>
        { result := .error e, tree := t, state := rendering.state, logs := rendering.logs }
      | .ok t =>
        let page : Page := ⟨source, output⟩
        { result := if isUnencodable r text then .error (.unencodable page) else .ok [page],
          tree := t, state := rendering.state, logs := rendering.logs }

/-- The report of a source that cannot be read. -/
def unreadReport (source : Path) (e : FileError) : LogEntry :=
  ⟨.warning, "Failed to read ".toList ++ source.toText ++ ": ".toList ++ e.message⟩

/-- Read a source and write its page. A source that is not there is reported and left out. -/
def renderPage (t : FileTree) (config : Config) (r : Option Renderer) (i : Installation)
    (state : LoadState) (source : Path) : Build :=
  match t.readText source with
  | .ok text => writePage t config r i state source text
  | .error (.encoding e) => .stop t state (.encoding e)
  | .error (.file e) =>
    if e.fault == .zeroByte then .stop t state (.file e)
    else { result := .ok [], tree := t, state, logs := [unreadReport source e] }

/-- Write the pages of sources, one after another, with one highlighter for all. -/
def renderPages (config : Config) (r : Option Renderer) (i : Installation) :
    FileTree → LoadState → List Path → Build
  | t, state, [] => { result := .ok [], tree := t, state }
  | t, state, source :: rest =>
    let build := renderPage t config r i state source
    match build.result with
    | .error _ => build
    | .ok pages =>
      let more := renderPages config r i build.tree build.state rest
      { more with result := more.result.map (pages ++ ·), logs := build.logs ++ more.logs }

/-- Write the pages of the given sources, or of all below the source directory. -/
def writePages (t : FileTree) (config : Config) (sources : Option (List Path)) (i : Installation) :
    Build :=
  let (r, logs) := Renderer.ofConfig config.markdown
  let (sources, found) := match sources with
    | some sources => (sources, [])
    | none => collectSources t config.sourceDir
  let build := renderPages config r i t {} sources
  { build with logs := logs ++ found ++ build.logs }

end Docpress
