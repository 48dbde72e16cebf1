import Docpress.Command.Arguments
import Docpress.Config.Load
import Docpress.Console.Markup
import Docpress.Console.Table
import Docpress.Html.Escape
import Docpress.Pages
/-!
Running a command: what it prints, what it does to the files, and how it ends. What has been printed
and written before an error stays.
-/

namespace Docpress.Command

open Highlight Console

/-- What a command works with: the files, the text on standard input, what is installed, and what
    has been printed and reported. -/
structure Session where
  tree : FileTree
  input : Text := []
  installed : Installation
  printed : Text := []
  logs : List LogEntry := []

/-- An error that no command expects. -/
inductive Crash where
  | load (e : LoadError)
  | read (e : ReadError)
  | file (e : FileError)
  | highlight (e : Failure)
  | pages (e : PageError)
  | markup (e : MarkupError)
  /-- The HTML that was to be printed or stored is no Unicode. -/
  | unencodable
deriving DecidableEq, Repr

/-- A misuse of the program, which is explained to its user. -/
inductive Misuse where
  | arguments (f : ArgumentFault) (close : List Text)
  /-- There is no configuration where the argument says. -/
  | noConfig (path : Text)
  | badConfig (e : LoadError)
  /-- There is no source where the argument says. -/
  | noSource (path : Text)
deriving DecidableEq, Repr

/-- The wording of a misuse. -/
def Misuse.message : Misuse → Text
  | .arguments f close => f.message close
  | .noConfig path => "Invalid value: Config file not found: ".toList ++ path
  | .badConfig e => "Invalid value: ".toList ++ e.message
  | .noSource path => "Invalid value: Source file not found: ".toList ++ path

/-- What ends a command early. -/
inductive Stop where
  | misuse (m : Misuse)
  | crash (c : Crash)
deriving DecidableEq, Repr

/-- A part of a command. -/
abbrev Task := ExceptT Stop (StateM Session)

/-- End the command with a misuse. -/
def refuse {α : Type} (m : Misuse) : Task α :=
  throw (.misuse m)

/-- End the command with a crash. -/
def crash {α : Type} (c : Crash) : Task α :=
  throw (.crash c)

/-- A result, or a crash. -/
def orCrash {ε α : Type} (toCrash : ε → Crash) : Except ε α → Task α
  | .ok a => pure a
  | .error e => crash (toCrash e)

/-! ### Printing -/

/-- The character that begins a control sequence of a terminal. -/
def escapeChar : Char :=
  Char.ofNat 27

/-- The character may stand among the parameters of a control sequence. -/
def isParameter (c : Char) : Bool :=
  c == ';' || c == '?' || c.isDigit

/-- How many characters a control sequence at the beginning of a text has. -/
def sequenceLength? : Text → Option Nat
  | c :: '[' :: s =>
    let parameters := s.takeWhile isParameter
    if c == escapeChar && (s.drop parameters.length).head?.any Char.isAlpha then
      some (parameters.length + 3)
    else none
  | _ => none

/-- A text without control sequences. -/
def dropSequences (s : Text) : Text :=
  Text.substitute (fun here => (sequenceLength? here).map fun n => ([], n - 1)) s

/-- Print a text as it is. -/
def print (s : Text) : Task Unit :=
  modify fun session => { session with printed := session.printed ++ s }

/-- Print a text for reading on, without control sequences. -/
def printPlain (s : Text) : Task Unit :=
  print (dropSequences s)

/-- Print a line of markup. -/
def printMarkup (s : Text) : Task Unit := do
  print (← orCrash .markup (printed s))

/-- Add reports to the log. -/
def report (logs : List LogEntry) : Task Unit :=
  modify fun session => { session with logs := session.logs ++ logs }

/-- Go on with other files. -/
def setTree (t : FileTree) : Task Unit :=
  modify fun session => { session with tree := t }

/-! ### Reading -/

/-- The fault of a scalar is one of its value, and not one of the reader. -/
def isValueFault : Yaml.ScalarFault → Bool
  | .noNumber _ _ => true
  | .longNumber _ => true
  | .noReal _ => true
  | .badDate _ => true
  | .noCharacter => true
  | .emptyNumber => false
  | .noFlag _ => false
  | .noDate => false
  | .hugeCharacter => false

/-- How an error in loading the configuration of an argument ends a command: values that cannot be
    used are a misuse, and so is a file that is not there. -/
def configStop (path : Text) (e : LoadError) : Stop :=
  match e with
  | .missing _ => .misuse (.noConfig path)
  | .file fileError =>
    match fileError.fault with
    | .missing => .misuse (.noConfig path)
    | .zeroByte => .misuse (.badConfig e)
    | _ => .crash (.load e)
  | .encoding _ => .misuse (.badConfig e)
  | .document _ (.scalar f) => if isValueFault f then .misuse (.badConfig e) else .crash (.load e)
  | .document _ _ => .crash (.load e)
  | .notMapping _ => .misuse (.badConfig e)
  | .options (.issues _) => .misuse (.badConfig e)
  | .options _ => .crash (.load e)

/-- Load the configuration that an argument names. -/
def readConfig (path : Text) : Task Config := do
  match loadConfig (← get).tree (Path.ofText path) with
  | .ok config => return config
  | .error e => throw (configStop path e)

/-- The argument that stands for standard input. -/
def standardInput : Text :=
  ['-']

/-- Read the source that an argument names. -/
def readSource (source : Text) : Task Text := do
  let session ← get
  if source == standardInput then return Text.unifyLineEnds session.input
  match session.tree.readText (Path.ofText source) with
  | .ok text => return text
  | .error (.file e) =>
    if e.fault == .missing then refuse (.noSource source) else crash (.read (.file e))
  | .error e => crash (.read e)

/-! ### The commands -/

/-- The message that a parser is not known. -/
def disabledMessage (parser : Text) : Text :=
  "[bold yellow]Markdown disabled[/]: unknown parser '".toList ++ parser ++
    "'; passing text through unchanged.".toList

/-- The message that a source was rendered. -/
def renderedMessage (source : Text) (output : Path) : Text :=
  "[bold green]Rendered[/]: ".toList ++ source ++ " -> ".toList ++ output.toText

/-- The message that there was nothing to render. -/
def nothingMessage (sourceDir : Path) : Text :=
  "[bold yellow]Nothing to render[/]: no Markdown found in ".toList ++ sourceDir.toText

/-- The message that pages were rendered. -/
def pagesMessage (count : Nat) (outputDir : Path) : Text :=
  "[bold green]Pages[/]: rendered ".toList ++ Text.ofNat count ++ " document(s) into ".toList ++
    outputDir.toText

/-- The renderer for some options. A parser that is not known is reported on the console, too. -/
def makeRenderer (config : MarkdownConfig) : Task (Option Renderer) := do
  let (renderer, logs) := Renderer.ofConfig config
  report logs
  if renderer.isNone then printMarkup (disabledMessage config.parser)
  return renderer

/-- Render one text with a fresh highlighter. -/
def renderText (renderer : Option Renderer) (text : Text) : Task Text := do
  let rendering := renderMarkdown renderer (← get).installed {} text
  report rendering.logs
  orCrash .highlight rendering.html

/-- Write a file, with the directories above it. -/
def writeOutput (output : Path) (s : Text) : Task Unit := do
  setTree (← orCrash .file ((← get).tree.ensureDirectories output.parent))
  setTree (← orCrash .file ((← get).tree.writeText output s))

/-- Print HTML, or store it in a file. -/
def deliverHtml (unencodable : Bool) (output : Option Path) (html : Text) : Task Unit :=
  match output with
  | none => if unencodable then crash .unencodable else printPlain (html ++ ['\n'])
  | some output => do
    writeOutput output (storedHtml unencodable html)
    if unencodable then crash .unencodable

/-- Render a source to a file, or to the console. -/
def renderSource (source config : Text) (output : Option Path) : Task Unit := do
  let config ← readConfig config
  let text ← readSource source
  let renderer ← makeRenderer config.markdown
  let html ← renderText renderer text
  deliverHtml (isUnencodable renderer text) output html
  match output with
  | none => return
  | some output => printMarkup (renderedMessage source output)

/-- Render all documents of a project. -/
def buildProject (config : Text) : Task Unit := do
  let config ← readConfig config
  let session ← get
  let build := writePages session.tree config none session.installed
  setTree build.tree
  report build.logs
  let pages ← orCrash .pages build.result
  if pages.isEmpty then printMarkup (nothingMessage config.sourceDir)
  else printMarkup (pagesMessage pages.length config.outputDir)

/-- The names of parsers and highlighters, with what each selects. -/
def backendTable : Table where
  title := "Markdown backends".toList
  header := ["Kind".toList, "Name".toList, "Resolves to".toList]
  rows :=
    parserNames.map (fun (name, parser) => ["parser".toList, name, parser.canonical]) ++
      highlighterNames.map fun (name, highlighter) =>
        ["highlighter".toList, name, highlighter.canonical]

/-- Show the names of parsers and highlighters. -/
def listNames : Task Unit :=
  print backendTable.render

/-- Escape a source as code. -/
def escapeSource (source : Text) : Task Unit := do
  printPlain (Html.escapeCode (← readSource source))

/-- What the program is for. -/
def helpText : Text :=
  ("Usage: docpress [OPTIONS] COMMAND [ARGS]...\n\n" ++
    "  Render documentation Markdown with inline tags preserved.\n\n" ++
    "Commands:\n" ++
    "  render   Render a single Markdown file to HTML.\n" ++
    "  build    Render every Markdown document under the configured source directory.\n" ++
    "  parsers  List parser and highlighter names with the implementation each selects.\n" ++
    "  escape   Escape a code sample for verbatim inclusion in an HTML code block.\n").toList

/-- Do what an invocation asks for. -/
def Invocation.task : Invocation → Task Unit
  | .render source config output => renderSource source config output
  | .build config => buildProject config
  | .parsers => listNames
  | .escape source => escapeSource source
  | .help => printPlain helpText
  | .completion => pure ()

/-- How an error in the arguments ends a command. -/
def argumentStop : ArgumentError → Stop
  | .fault f close => .misuse (.arguments f close)
  | .zeroByte path => .crash (.file ⟨.zeroByte, path⟩)

/-- The outcome of a command: what ended it early, if anything did, and what it printed, reported
    and left in the files. -/
structure Outcome where
  stop : Option Stop
  printed : Text
  logs : List LogEntry
  tree : FileTree

/-- The number that the program ends with. -/
def Outcome.exitCode (o : Outcome) : Nat :=
  match o.stop with
  | none => 0
  | some (.crash _) => 1
  | some (.misuse _) => 2

/-- Run the program with arguments. -/
def run (args : List Text) (session : Session) : Outcome :=
  let task : Task Unit := match Invocation.ofArguments args with
    | .ok invocation => invocation.task
    | .error e => throw (argumentStop e)
  match task.run.run session with
  | (.ok (), s) => ⟨none, s.printed, s.logs, s.tree⟩
  | (.error stop, s) => ⟨some stop, s.printed, s.logs, s.tree⟩

end Docpress.Command
