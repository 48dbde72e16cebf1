import Docpress.Config.Issue
import Docpress.Registry
/-!
The options of rendering, read from a value. Every option has a default, unknown ones are ignored,
and every option that is wrong is reported.
-/

namespace Docpress

/-- The options of rendering. -/
structure MarkdownConfig where
  parser : Text := "marked".toList
  highlight : HighlightSetting := .flag false
  /-- Line ends within a paragraph are shown. -/
  hardwrap : Bool := false
  /-- Headings have identifiers. -/
  idInHeadings : Bool := false
deriving DecidableEq, Repr

/-- The words that mean off and on, in any case of ASCII letters. -/
def readFlagWord (s : Text) : Except Complaint Bool :=
  let word := String.ofList (s.map Char.toLower)
  if ["0", "off", "f", "false", "n", "no"].contains word then .ok false
  else if ["1", "on", "t", "true", "y", "yes"].contains word then .ok true
  else .error .unreadableFlag

/-- The whole numbers that mean off and on. Those beyond 64 bits are no flags at all. -/
def readFlagNumber (n : Int) : Except Complaint Bool :=
  if n == 0 then .ok false
  else if n == 1 then .ok true
  else if -Int.pow 2 63 ≤ n && n < Int.pow 2 63 then .error .unreadableFlag
  else .error .notFlag

/-- Read a flag: a flag, a word for one, or zero or one. -/
def readFlag : Value → Except Complaint Bool
  | .flag b => .ok b
  | .whole n => readFlagNumber n
  | .real x =>
    match x.toInt? with
    | some n => if n == -Int.pow 2 63 then .error .notFlag else readFlagNumber n
    | none => .error .notFlag
  | .text s => readFlagWord s
  | .brokenText => .error .notUnicode
  | .bytes content =>
    match Utf8.decode content with
    | .ok s => readFlagWord s
    | .error _ => .error .unreadableFlag
  | _ => .error .notFlag

/-- Read a text; bytes are read as UTF-8. -/
def readText : Value → Except Complaint Text
  | .text s => .ok s
  | .brokenText => .error .notUnicode
  | .bytes content =>
    match Utf8.decode content with
    | .ok s => .ok s
    | .error _ => .error .notUnicode
  | _ => .error .notText

/-- What reading one option gives: its value, and the issues found. -/
structure Reading (α : Type) where
  value : α
  issues : List Issue

/-- Read an option at a place; one that is missing has its default. -/
def Reading.ofOption {α : Type} (place : List Text) (default : α)
    (read : Value → Except Complaint α) : Option Value → Reading α
  | none => ⟨default, []⟩
  | some v =>
    match read v with
    | .ok a => ⟨a, []⟩
    | .error c => ⟨default, [⟨place, c⟩]⟩

/-- Read the name of a parser: nothing means the default. -/
def readParser : Value → Except Complaint Text
  | .null => .ok "marked".toList
  | .text [] => .ok "marked".toList
  | v => readText v

/-- Read the setting of highlighting. A flag or a text stands for itself; anything else is read as a
    flag if it can be, and as a text otherwise; if both fail, both complaints are reported. -/
def readHighlight (place : List Text) : Option Value → Reading HighlightSetting
  | none => ⟨.flag false, []⟩
  | some .null => ⟨.flag false, []⟩
  | some (.text s) => ⟨.named s, []⟩
  | some v =>
    match readFlag v, readText v with
    | .ok b, _ => ⟨.flag b, []⟩
    | _, .ok s => ⟨.named s, []⟩
    | .error c, .error d =>
      ⟨.flag false, [⟨place ++ ["bool".toList], c⟩, ⟨place ++ ["str".toList], d⟩]⟩

/-- The two names of the option that gives headings identifiers; the first takes precedence. -/
def headingOption (entries : List (Value × Value)) : Text × Option Value :=
  match valueOf? "idInHeadings".toList entries with
  | some v => ("idInHeadings".toList, some v)
  | none => ("id_in_headings".toList, valueOf? "id_in_headings".toList entries)

/-- Read the options of rendering from the entries of a mapping. -/
def MarkdownConfig.ofEntries (entries : List (Value × Value)) :
    Except (List Issue) MarkdownConfig :=
  let parser := Reading.ofOption ["parser".toList] "marked".toList readParser
    (valueOf? "parser".toList entries)
  let highlight := readHighlight ["highlight".toList] (valueOf? "highlight".toList entries)
  let hardwrap := Reading.ofOption ["hardwrap".toList] false readFlag
    (valueOf? "hardwrap".toList entries)
  let (name, heading) := headingOption entries
  let idInHeadings := Reading.ofOption [name] false readFlag heading
  match parser.issues ++ highlight.issues ++ hardwrap.issues ++ idInHeadings.issues with
  | [] => .ok ⟨parser.value, highlight.value, hardwrap.value, idInHeadings.value⟩
  | issues => .error issues

/-- Options are fixed: to set one is refused. A name that begins with an underscore is not an
    option, and setting it changes nothing. -/
def MarkdownConfig.refuseSet (name : Text) : Option Issue :=
  if name.head? == some '_' then none else some ⟨[name], .frozen⟩

end Docpress
