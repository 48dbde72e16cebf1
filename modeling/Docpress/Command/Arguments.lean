import Docpress.Command.Suggestion
import Docpress.Path
import Docpress.Text.Quoted
/-!
The arguments of the program: which command they name, and with what settings. Options come first or
stand between the other words, two dashes end them, and the last of several settings holds.
-/

namespace Docpress.Command

/-! ### Options -/

/-- What an option is about. -/
inductive OptionName where
  | config
  | output
  | help
  /-- What is done for the completion of words in a shell. -/
  | completion
deriving DecidableEq, Repr

/-- An option: a long name, and a short one if it takes a value. -/
structure OptionForm where
  name : OptionName
  long : Text
  short : Option Char := none
deriving DecidableEq, Repr

/-- The option takes a value. -/
def OptionForm.takesValue (o : OptionForm) : Bool :=
  o.short.isSome

/-- Where the configuration is. -/
def configOption : OptionForm :=
  ⟨.config, "--config".toList, some 'c'⟩

/-- Where the output goes. -/
def outputOption : OptionForm :=
  ⟨.output, "--output".toList, some 'o'⟩

/-- Show what there is. -/
def helpOption : OptionForm :=
  { name := .help, long := "--help".toList }

/-- The options that come before a command. -/
def mainOptions : List OptionForm :=
  [{ name := .completion, long := "--install-completion".toList },
   { name := .completion, long := "--show-completion".toList }, helpOption]

/-- How the arguments can be wrong. -/
inductive ArgumentFault where
  | missingCommand
  | noCommand (name : Text)
  /-- There is no such option; the names that are close to it. -/
  | noOption (name : Text) (close : List Text)
  | missingValue (name : Text)
  | idleValue (name : Text)
  | missingSource
  | extra (words : List Text)
deriving DecidableEq, Repr

/-- Arguments that have been read: the settings in order, and the other words. -/
structure Given where
  settings : List (OptionName × Text) := []
  words : List Text := []
deriving DecidableEq, Repr

/-- What one argument says about an option: a setting, or that the next argument is its value; the
    name of the option as it is written goes with it. -/
inductive OptionUse where
  | setting (name : OptionName) (value : Text)
  | open (name : OptionName) (written : Text)
deriving DecidableEq, Repr

/-- Read an option by its short name. -/
def readShort (options : List OptionForm) (arg : Text) : Except ArgumentFault OptionUse :=
  let written := arg.take 2
  let value := arg.drop 2
  match options.find? fun o => o.short.any fun c => written == ['-', c] with
  | none => .error (.noOption written [])
  | some o => .ok (if value.isEmpty then .open o.name written else .setting o.name value)

/-- Read an option, by its long name first. An equals sign ends that name. -/
def readOption (options : List OptionForm) (arg : Text) : Except ArgumentFault OptionUse :=
  let written := arg.takeWhile (· != '=')
  let value := arg.drop (written.length + 1)
  let hasValue := arg.contains '='
  match options.find? (·.long == written) with
  | some o =>
    if !o.takesValue then
      if hasValue then .error (.idleValue written) else .ok (.setting o.name [])
    else .ok (if hasValue then .setting o.name value else .open o.name written)
  | none =>
    if Text.startsWith arg "--".toList then
      .error (.noOption written (closeNames written (options.map (·.long))))
    else readShort options arg

/-- The argument is an option. -/
def isOption (arg : Text) : Bool :=
  arg.head? == some '-' && arg.length > 1

/-- Read arguments. If options may not stand between other words, the first word ends them. -/
def readArguments (options : List OptionForm) (mixed : Bool) :
    List Text → Except ArgumentFault Given
  | [] => .ok {}
  | arg :: rest =>
    if arg == "--".toList then .ok { words := rest }
    else if isOption arg then
      match readOption options arg with
      | .error fault => .error fault
      | .ok (.setting name value) =>
        (readArguments options mixed rest).map fun r =>
          { r with settings := (name, value) :: r.settings }
      | .ok (.open name written) =>
        match rest with
        | [] => .error (.missingValue written)
        | value :: rest =>
          (readArguments options mixed rest).map fun r =>
            { r with settings := (name, value) :: r.settings }
    else if mixed then
      (readArguments options mixed rest).map fun r => { r with words := arg :: r.words }
    else .ok { words := arg :: rest }

/-- The value of the last setting of an option. -/
def Given.value? (r : Given) (name : OptionName) : Option Text :=
  r.settings.reverse.lookup name

/-- An option is among the settings. -/
def Given.has (r : Given) (name : OptionName) : Bool :=
  (r.value? name).isSome

/-! ### Commands -/

/-- The commands there are. -/
inductive Name where
  | render
  | build
  | parsers
  | escape
deriving DecidableEq, Repr

/-- The commands in the order of their declaration. -/
def names : List Name :=
  [.render, .build, .parsers, .escape]

/-- The word that names a command. -/
def Name.word : Name → Text
  | .render => "render".toList
  | .build => "build".toList
  | .parsers => "parsers".toList
  | .escape => "escape".toList

/-- The options of a command. -/
def Name.options : Name → List OptionForm
  | .render => [configOption, outputOption, helpOption]
  | .build => [configOption, helpOption]
  | .parsers => [helpOption]
  | .escape => [helpOption]

/-- The command reads a source. -/
def Name.takesSource : Name → Bool
  | .render => true
  | .build => false
  | .parsers => false
  | .escape => true

/-- A command with its settings. -/
inductive Invocation where
  | render (source config : Text) (output : Option Path)
  | build (config : Text)
  | parsers
  | escape (source : Text)
  | help
  | completion
deriving DecidableEq, Repr

/-- Why arguments are not accepted: a fault, the names of commands that are close to the first word
    if that is none, or a path that no file can have. -/
inductive ArgumentError where
  | fault (f : ArgumentFault) (close : List Text)
  | zeroByte (path : Path)
deriving DecidableEq, Repr

/-- The path of the output, which must be one that a file can have. -/
def Given.output (r : Given) : Except ArgumentError (Option Path) :=
  match r.value? .output with
  | none => .ok none
  | some s =>
    if s.contains (Char.ofNat 0) then .error (.zeroByte (Path.ofText s))
    else .ok (some (Path.ofText s))

/-- The source of a command that reads one, and the words that are left over. -/
def Name.source (name : Name) (words : List Text) : Except ArgumentError (Text × List Text) :=
  if name.takesSource then
    match words with
    | [] => .error (.fault .missingSource [])
    | source :: rest => .ok (source, rest)
  else .ok ([], words)

/-- A command with the settings that were read. -/
def Name.invocation (name : Name) (r : Given) : Except ArgumentError Invocation :=
  if r.has .help then .ok .help
  else do
    let output ← r.output
    let (source, extra) ← name.source r.words
    if !extra.isEmpty then throw (.fault (.extra extra) [])
    let config := (r.value? .config).getD ['.']
    return match name with
      | .render => .render source config output
      | .build => .build config
      | .parsers => .parsers
      | .escape => .escape source

/-- What the options before a command ask for by themselves. -/
def Given.request? (r : Given) : Option Invocation :=
  if r.has .completion then some .completion
  else if r.has .help then some .help
  else none

/-- What is said about a first word that names no command: it may be an option that stands after two
    dashes. -/
def unknownCommand (word : Text) (args : List Text) : Except ArgumentError Invocation :=
  let close := closeNames word (names.map Name.word)
  match readArguments mainOptions false args with
  | .error fault => .error (.fault fault close)
  | .ok r =>
    match r.request? with
    | some request => .ok request
    | none => .error (.fault (.noCommand word) close)

/-- The invocation that arguments stand for. -/
def Invocation.ofArguments (args : List Text) : Except ArgumentError Invocation :=
  match readArguments mainOptions false args with
  | .error fault => .error (.fault fault [])
  | .ok r =>
    match r.request?, r.words with
    | some request, _ => .ok request
    | none, [] => .error (.fault .missingCommand [])
    | none, word :: rest =>
      match names.find? (·.word == word) with
      | none => unknownCommand word (word :: rest)
      | some name =>
        match readArguments name.options true rest with
        | .error fault => .error (.fault fault [])
        | .ok r => name.invocation r

/-! ### Messages -/

/-- A question about names that may have been meant. -/
def suggestion (close : List Text) (kind : String) : Text :=
  match close with
  | [] => []
  | [name] => " Did you mean ".toList ++ Text.quoted name ++ ['?']
  | names =>
    let sorted := names.mergeSort fun a b => !Text.precedes b a
    " (Possible ".toList ++ kind.toList ++ ": ".toList ++
      Text.join ", ".toList (sorted.map Text.quoted) ++ [')']

/-- The wording of a fault, without suggestions. -/
def ArgumentFault.wording : ArgumentFault → Text
  | .missingCommand => "Missing command.".toList
  | .noCommand name => "No such command ".toList ++ Text.quoted name ++ ['.']
  | .noOption name _ => "No such option ".toList ++ Text.quoted name ++ ['.']
  | .missingValue name => "Option ".toList ++ Text.quoted name ++ " requires an argument.".toList
  | .idleValue name => "Option ".toList ++ Text.quoted name ++ " does not take a value.".toList
  | .missingSource => "Missing argument 'SOURCE'.".toList
  | .extra [word] => "Got unexpected extra argument (".toList ++ word ++ [')']
  | .extra words => "Got unexpected extra arguments (".toList ++ Text.join [' '] words ++ [')']

/-- The commands that may have been meant, as they are asked for after any fault of a first word
    that names none. -/
def commandQuestion (close : List Text) : Text :=
  if close.isEmpty then []
  else " Did you mean ".toList ++ Text.join ", ".toList (close.map Text.quoted) ++ ['?']

/-- The wording of a fault. A command is asked for a second time where it is the command itself that
    is not known. -/
def ArgumentFault.message (f : ArgumentFault) (close : List Text) : Text :=
  f.wording ++ commandQuestion close ++
    match f with
    | .noCommand _ => suggestion close "commands"
    | .noOption _ options => suggestion options "options"
    | _ => []

end Docpress.Command
