import Docpress.Highlight.Completion
import Docpress.Highlight.Loading
import Docpress.Registry
import Docpress.Text.Blank
import Docpress.Text.Case
/-!
The two highlighters: a library that answers at once, and a program that is run on each block.
-/

namespace Docpress.Highlight

/-- A run of the highlighting program: its arguments, the program first, and its input. -/
structure Command where
  arguments : List Text
  input : Text
deriving DecidableEq, Repr

/-- How a run of the program ended. -/
structure Finished where
  status : Int
  output : Text
  errors : Text
deriving DecidableEq, Repr

/-- A highlighter as the renderer sees it: whether it loads, what it says about a block of code in
    a language, and the command that it runs for the block, if any. -/
structure Backend where
  load : Except Failure Unit
  reply : (code language : Text) → Except Failure (Option Text)
  command : (code language : Text) → Option Command

/-- What is installed: the library and the program, each of them perhaps missing. -/
structure Installation where
  library : Option ((code language : Text) → Except Failure (Option Text))
  program : Option ((code language : Text) → Except Failure Finished)

/-- The library as a highlighter. -/
def libraryBackend (i : Installation) : Backend :=
  match i.library with
  | some highlight => { load := .ok (), reply := highlight, command := fun _ _ => none }
  | none =>
    { load := .error ⟨.unavailable, "Could not find Pygments.".toList⟩
      reply := fun _ _ => .ok none, command := fun _ _ => none }

/-- Where the program is. -/
def programPath : Text :=
  "/usr/bin/pygmentize".toList

/-- The command for a block of code: the language is guessed if none is given. -/
def programCommand (code language : Text) : Command :=
  { arguments := [programPath, "-f".toList, "html".toList, "-O".toList,
      "nowrap,encoding=utf-8".toList] ++
      if language.isEmpty then ["-g".toList] else ["-l".toList, language]
    input := code }

/-- What is delivered when the program has ended, or has failed to run: whatever happens, there is
    one delivery. -/
def programDelivery : Except Failure Finished → Delivery
  | .error e => ⟨some ⟨.highlight, "Failed to execute pygmentize: ".toList ++ e.message⟩, none⟩
  | .ok run =>
    if run.status == 0 then ⟨none, some run.output⟩
    else
      let message := Text.trimBlank run.errors
      ⟨some ⟨.highlight, if message.isEmpty then
        "pygmentize exited with ".toList ++ Text.ofInt run.status else message⟩, none⟩

/-- The work of running the program: one delivery from a thread of its own. -/
def programWork (outcome : Except Failure Finished) : DeferredWork :=
  { deliveries := [programDelivery outcome], threaded := true, failure := none }

/-- The program as a highlighter. -/
def programBackend (i : Installation) : Backend :=
  match i.program with
  | some run =>
    { load := .ok ()
      reply := fun code language =>
        ((programWork (run code language)).outcome.getD (.ok [])).map some
      command := fun code language => some (programCommand code language) }
  | none =>
    { load := .error ⟨.unavailable, "Could not find pygmentize.".toList⟩
      reply := fun _ _ => .ok none, command := fun _ _ => none }

/-- The highlighter of a name. -/
def Backend.ofName (i : Installation) : HighlighterName → Backend
  | .highlightJs => libraryBackend i
  | .pygmentize => programBackend i

/-! ### Plain text -/

/-- A character of highlighted plain text; quotes stay as they are. -/
def plainChar : Char → Text
  | '&' => "&amp;".toList
  | '<' => "&lt;".toList
  | '>' => "&gt;".toList
  | c => [c]

/-- Plain text as the library highlights it: without empty lines at its ends, and with one line end
    at its end. -/
def plainText (code : Text) : Text :=
  (Text.trim (· == '\n') (Text.unifyLineEnds code) ++ ['\n']).flatMap plainChar

/-- The library when the only language that it knows is plain text. -/
def plainLibrary (code language : Text) : Except Failure (Option Text) :=
  if language.isEmpty || lower language == "text".toList then .ok (some (plainText code))
  else .error ⟨.highlight, "No lexer found for language '".toList ++ language ++ "'.".toList⟩

/-! ### Whole documents -/

/-- The outcome of highlighting the fences of a document: the answers, empty where the code stays
    plain, or the failure that ended it; the state, the reports and the commands that were run. -/
structure Replies where
  result : Except Failure (List Text)
  state : LoadState
  logs : List LogEntry
  commands : List Command

/-- Highlight fences, given as language and code, in order, until one fails. -/
def highlightAll (b : Backend) : LoadState → List (Text × Text) → Replies
  | s, [] => { result := .ok [], state := s, logs := [], commands := [] }
  | s, (language, code) :: rest =>
    let answer := s.ask (fun _ => b.load) language (b.reply code language)
    let commands := if answer.asked then (b.command code language).toList else []
    match answer.result with
    | .error e => { result := .error e, state := answer.state, logs := answer.logs, commands }
    | .ok html =>
      let more := highlightAll b answer.state rest
      { result := more.result.map fun replies => html.getD [] :: replies, state := more.state,
        logs := answer.logs ++ more.logs, commands := commands ++ more.commands }

end Docpress.Highlight
