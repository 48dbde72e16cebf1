import Docpress.Proofs.Config.Location
import Docpress.Proofs.Config.Refusal
import Docpress.Proofs.Json.Nodes
/-!
Configurations written in JSON. A configuration file is read as YAML, and to a depth; what the
options say is told above that depth, so a JSON document gives the configuration that its object
gives, wherever YAML reads the document as JSON does.
-/

namespace Docpress

/-! ### Depth -/

section Depth

variable (v : Value) (depth : Nat)

@[simp] theorem Value.isText_truncate : (v.truncate depth).isText = v.isText := by
  cases v <;> cases depth <;> rfl

@[simp] theorem readText_truncate : readText (v.truncate depth) = readText v := by
  cases v <;> cases depth <;> rfl

@[simp] theorem readFlag_truncate : readFlag (v.truncate depth) = readFlag v := by
  cases v <;> cases depth <;> rfl

@[simp] theorem readParser_truncate : readParser (v.truncate depth) = readParser v := by
  cases v <;> cases depth <;> rfl

@[simp] theorem readHighlight_truncate (place : List Text) (v : Option Value) :
    readHighlight place (v.map (Value.truncate depth)) = readHighlight place v := by
  cases v with
  | none => rfl
  | some v => cases v <;> cases depth <;> rfl

@[simp] theorem readPath_truncate (default : Path) (v : Option Value) :
    readPath default (v.map (Value.truncate depth)) = readPath default v := by
  cases v with
  | none => rfl
  | some v => cases v <;> cases depth <;> rfl

theorem Reading.ofOption_truncate {α : Type} (place : List Text) (default : α)
    {read : Value → Except Complaint α} (hread : ∀ v, read (v.truncate depth) = read v)
    (v : Option Value) :
    Reading.ofOption place default read (v.map (Value.truncate depth)) =
      Reading.ofOption place default read v := by
  cases v with
  | none => rfl
  | some v => simp only [Option.map_some, Reading.ofOption, hread]

/-- The entries of a mapping to a depth. -/
def truncateEntries (entries : List (Value × Value)) : List (Value × Value) :=
  entries.map fun (key, value) => (key.truncate depth, value.truncate depth)

theorem valueOf?_truncate (name : Text) (entries : List (Value × Value)) :
    valueOf? name (truncateEntries depth entries) =
      (valueOf? name entries).map (Value.truncate depth) := by
  unfold valueOf? truncateEntries
  rw [List.foldl_map]
  generalize hfound : (none : Option Value) = found
  have hstart : found = found.map (Value.truncate depth) := by rw [← hfound]; rfl
  conv_lhs => rw [hstart]
  clear hfound hstart
  induction entries generalizing found with
  | nil => rfl
  | cons entry entries ih =>
    obtain ⟨key, value⟩ := entry
    rw [List.foldl_cons, List.foldl_cons, ← ih]
    refine congrArg (List.foldl _ · entries) ?_
    cases key with
    | text s => cases depth <;> (dsimp only [Value.truncate]; split <;> rfl)
    | _ => cases depth <;> rfl

/-- The options of rendering do not have parts. -/
theorem MarkdownConfig.ofEntries_truncate (entries : List (Value × Value)) :
    MarkdownConfig.ofEntries (truncateEntries depth entries) = MarkdownConfig.ofEntries entries := by
  have hheading : headingOption (truncateEntries depth entries) =
      ((headingOption entries).1, (headingOption entries).2.map (Value.truncate depth)) := by
    simp only [headingOption, valueOf?_truncate]
    cases valueOf? "idInHeadings".toList entries <;> rfl
  simp only [MarkdownConfig.ofEntries, hheading, valueOf?_truncate, readHighlight_truncate,
    Reading.ofOption_truncate depth _ _ (readParser_truncate · depth),
    Reading.ofOption_truncate depth _ _ (readFlag_truncate · depth)]

theorem readMarkdown_truncate (v : Option Value) :
    readMarkdown (v.map (Value.truncate (depth + 1))) = readMarkdown v := by
  cases v with
  | none => rfl
  | some v =>
    cases v with
    | mapping entries =>
      change readMarkdown (some (.mapping (truncateEntries depth entries))) = _
      simp only [readMarkdown, MarkdownConfig.ofEntries_truncate]
    | _ => rfl

/-- The options of a project have parts, and those have none. -/
theorem Config.ofEntries_truncate (entries : List (Value × Value)) :
    Config.ofEntries (truncateEntries (depth + 1) entries) = Config.ofEntries entries := by
  have hnames : (truncateEntries (depth + 1) entries).all (·.1.isText) =
      entries.all (·.1.isText) := by
    simp only [truncateEntries, List.all_map]
    exact congrArg entries.all (funext fun entry => entry.1.isText_truncate (depth + 1))
  have hname (default : Text) :
      Reading.ofOption ["project_name".toList] default readText
        (valueOf? "project_name".toList (truncateEntries (depth + 1) entries)) =
      Reading.ofOption ["project_name".toList] default readText
        (valueOf? "project_name".toList entries) := by
    rw [valueOf?_truncate, Reading.ofOption_truncate _ _ _ (readText_truncate · _)]
  have hpath (default : Path) (name : Text) :
      readPath default (valueOf? name (truncateEntries (depth + 1) entries)) =
        readPath default (valueOf? name entries) := by
    rw [valueOf?_truncate, readPath_truncate]
  have hmarkdown :
      readMarkdown (valueOf? "markdown".toList (truncateEntries (depth + 1) entries)) =
        readMarkdown (valueOf? "markdown".toList entries) := by
    rw [valueOf?_truncate, readMarkdown_truncate]
  unfold Config.ofEntries
  rw [hnames]
  dsimp only
  rw [hname, hmarkdown, hpath, hpath]

end Depth

/-! ### JSON -/

/-- A document whose value is an object has the entries of the object, to a depth. -/
theorem readEntries_json {d : Json.Document} (hd : d.isYaml = true)
    {entries : List (Value × Value)} (hvalue : d.value = .mapping entries) (path : Path) :
    readEntries path (Text.unifyLineEnds d.text) = .ok (truncateEntries 2 entries) := by
  have hload : Yaml.load configDepth (Text.unifyLineEnds d.text) =
      .ok (.mapping (truncateEntries 2 entries)) := by
    rw [d.load hd, hvalue]
    rfl
  rw [readEntries, hload]
  cases entries <;> rfl

/-- A configuration file in JSON gives the configuration of its object, with its directories seen
    from the directory of the file, or the issues of the object, if YAML reads the document as JSON
    does. -/
theorem loadConfig_json {t : FileTree} {path : Path} {d : Json.Document}
    {entries : List (Value × Value)} (hd : d.isYaml = true) (hvalue : d.value = .mapping entries)
    (hfile : t.readBytes path = .ok (Utf8.encode d.text)) :
    loadConfig t path = (Config.ofEntries entries).mapError .options >>=
      Config.seenFrom (t.settle path.parent) := by
  have hat : t.at? path = some (.file (Utf8.encode d.text)) := by
    obtain ⟨hlocate, hfound⟩ := FileTree.readBytes_eq_ok_iff.1 hfile
    rw [FileTree.at?, hlocate]
    exact hfound
  have hdirectory : t.isDirectory path = false := by simp [FileTree.isDirectory, hat]
  have hpath : t.hasPath path = true := by simp [FileTree.hasPath, hat]
  have htext : textOfBytes (Utf8.encode d.text) = .ok (Text.unifyLineEnds d.text) := by
    rw [textOfBytes, Utf8.decode_encode]
    rfl
  have hentries : givenEntries t path = .ok (truncateEntries 2 entries) := by
    rw [givenEntries, configSource, hdirectory, if_neg (by decide), hpath, if_pos rfl]
    change loadEntries t path = _
    rw [loadEntries_of_text hfile htext, readEntries_json hd hvalue]
  have hgiven : givenConfig t path = (Config.ofEntries entries).mapError .options := by
    rw [givenConfig, hentries, ← Config.ofEntries_truncate 1]
    rfl
  rw [loadConfig_eq, hgiven, configDirectory, hdirectory, if_neg (by decide)]

/-- A text as a string in which every character is itself. -/
def Json.verbatim (s : Text)
    (hs : (s.all fun c => decide (0x20 ≤ c.toNat ∧ c ≠ '"' ∧ c ≠ '\\')) = true) :
    List Json.StringChar :=
  s.pmap .plain (Text.forall_of_all hs)

/-- A file with settings in JSON. -/
def settingsFile (d : Json.Document) : FileTree :=
  { entries := [(["home".toList], .directory),
      (["home".toList, "settings.json".toList], .file (Utf8.encode d.text))]
    here := ["home".toList] }

/-- The settings of a journal: a name with escapes, a colon that stands apart, a directory
    beside the current one, a flag that is a number, and line ends of three kinds. -/
def journalSettings : Json.Document where
  before := []
  root := .object
    (.more ⟨[.carriageReturn, .lineFeed, .space], Json.verbatim "project_name".toList (by decide), []⟩
      [.space]
      (.leaf (.string [.plain 'A' (by decide), .letter .slash,
        .code ⟨⟨'0', by decide⟩, ⟨'0', by decide⟩, ⟨'e', by decide⟩, ⟨'9', by decide⟩⟩ (by decide)]))
      []
      (.more ⟨[.lineFeed, .lineFeed], Json.verbatim "source_dir".toList (by decide), [.space]⟩
        [.lineFeed] (.leaf (.string (Json.verbatim "../text".toList (by decide)))) [.space]
        (.one ⟨[], Json.verbatim "markdown".toList (by decide), []⟩ []
          (.object (.one ⟨[], Json.verbatim "hardwrap".toList (by decide), []⟩ []
            (.leaf (.number ⟨false, ⟨['1'], Text.forall_of_all (by decide), by decide⟩, by decide,
              some ⟨['0'], Text.forall_of_all (by decide), by decide⟩, none⟩)) []))
          [.carriageReturn])))
  after := [.lineFeed]

theorem loadConfig_json_journal :
    journalSettings.isYaml = true ∧
      loadConfig (settingsFile journalSettings) (Path.ofText "settings.json".toList) =
        .ok { projectName := "A/é".toList
              sourceDir := Path.ofText "/text".toList
              outputDir := Path.ofText "/home/out".toList
              markdown := { hardwrap := true } } := by
  have hyaml : journalSettings.isYaml = true := by decide +kernel
  have hfile : (settingsFile journalSettings).readBytes (Path.ofText "settings.json".toList) =
      .ok (Utf8.encode journalSettings.text) := by
    decide +kernel
  refine ⟨hyaml, ?_⟩
  rw [loadConfig_json hyaml rfl hfile]
  decide +kernel

/-- Settings with a name that a tab stands before. -/
def tabbedSettings : Json.Document where
  before := []
  root := .object (.one ⟨[.lineFeed, .tab], Json.verbatim "project_name".toList (by decide), []⟩
    [.space] (.leaf (.string (Json.verbatim "x".toList (by decide)))) [.lineFeed])
  after := []

/-- A tab between tokens is refused, although the object is a configuration. -/
theorem loadConfig_json_tabbed :
    tabbedSettings.value = .mapping [(.text "project_name".toList, .text "x".toList)] ∧
      (settingsFile tabbedSettings).readBytes (Path.ofText "settings.json".toList) =
        .ok (Utf8.encode tabbedSettings.text) ∧
      (Config.ofEntries [(.text "project_name".toList, .text "x".toList)]).mapError .options >>=
          Config.seenFrom ((settingsFile tabbedSettings).settle
            (Path.ofText "settings.json".toList).parent) =
        .ok { projectName := "x".toList
              sourceDir := Path.ofText "/home/docs".toList
              outputDir := Path.ofText "/home/out".toList } ∧
      loadConfig (settingsFile tabbedSettings) (Path.ofText "settings.json".toList) =
        .error (.document (Path.ofText "settings.json".toList)
          (.placed ⟨.token, some "while scanning for the next token".toList, none,
            "found character '\\t' that cannot start any token".toList, ⟨2, 1, 0⟩⟩)) := by
  refine ⟨rfl, ?_, ?_, ?_⟩ <;> decide +kernel

end Docpress
