import Docpress.Config.Project
import Docpress.TextFile
import Docpress.Yaml.Load
/-!
Loading the configuration of a project from a file, or from the directory that holds it. Relative
paths in it are seen from that directory.
-/

namespace Docpress

/-- The name of the configuration file in a directory. -/
def configName : Text :=
  "docmark.yml".toList

/-- Why a configuration cannot be loaded. -/
inductive LoadError where
  | missing (path : Path)
  | file (e : FileError)
  | encoding (e : Utf8.DecodingError)
  | document (path : Path) (f : Yaml.Fault)
  | notMapping (path : Path)
  | options (e : OptionsError)
deriving DecidableEq, Repr

/-- The wording of an error. -/
def LoadError.message : LoadError → Text
  | .missing path => path.toText
  | .file e => e.message
  | .encoding e => e.message
  | .document path f => f.message path.toText
  | .notMapping path =>
    "Configuration file ".toList ++ path.toText ++ " should define a mapping.".toList
  | .options e => e.message

/-- How deep configurations are: the options of a project, those of a section, and their values. -/
def configDepth : Nat :=
  3

/-- The error of bytes that are no text. What is cut off at the end of a file is found when the rest
    has been taken in, so its place is counted from where it begins. -/
def encodingError (e : Utf8.DecodingError) : LoadError :=
  .encoding (match e.reason with
    | .unexpectedEnd => { e with start := 0 }
    | _ => e)

/-- The entries of a configuration as text; a blank value has none. -/
def readEntries (path : Path) (s : Text) : Except LoadError (List (Value × Value)) :=
  match Yaml.load configDepth s with
  | .error f => .error (.document path f)
  | .ok v =>
    if v.isBlank then .ok []
    else match v with
      | .mapping entries => .ok entries
      | _ => .error (.notMapping path)

/-- The entries of a configuration file. -/
def loadEntries (t : FileTree) (path : Path) : Except LoadError (List (Value × Value)) :=
  match t.readText path with
  | .error (.file e) => .error (.file e)
  | .error (.encoding e) => .error (encodingError e)
  | .ok s => readEntries path s

/-- Where the configuration is that a path names: the file, if there is one, and the directory that
    relative paths are seen from. -/
def configSource (t : FileTree) (path : Path) : Except LoadError (Option Path × Place) :=
  if t.isDirectory path then
    let file := path.join { names := [configName] }
    .ok (if t.hasPath file then some file else none, t.settle path)
  else if t.hasPath path then .ok (some path, t.settle path.parent)
  else .error (.missing path)

/-- A path seen from a directory. An absolute path stays as it is; a relative one has its steps up
    taken. -/
def resolveFrom (base : Place) (path : Path) : Except LoadError Path :=
  if path.isAbsolute then .ok path
  else if path.hasZero then .error (.file ⟨.zeroByte, path⟩)
  else .ok { root := ['/'], names := Path.settle base path.names }

/-- Load the configuration that a path names. -/
def loadConfig (t : FileTree) (path : Path) : Except LoadError Config := do
  let (file, base) ← configSource t path
  let entries ← match file with
    | some file => loadEntries t file
    | none => pure []
  match Config.ofEntries entries with
  | .error e => throw (.options e)
  | .ok config =>
    let sourceDir ← resolveFrom base config.sourceDir
    let outputDir ← resolveFrom base config.outputDir
    return { config with sourceDir, outputDir }

end Docpress
