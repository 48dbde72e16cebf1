import Docpress.Command.Run
import Docpress.Proofs.Config.Load
import Docpress.Proofs.Config.Location
/-!
Contents of a configuration file that cannot be loaded. Some are refused for a reason that the user
is told; the others are not foreseen: faults of the document itself, names that are not texts, and
directories that are not texts. A value that is no mapping is refused, unless it counts as nothing:
then it stands for a mapping without entries, as an empty document does.
-/

namespace Docpress

open Command

/-- The document is read, but a value in it is none. -/
def Yaml.Fault.IsOfValue : Yaml.Fault → Prop
  | .scalar f => isValueFault f = true
  | _ => False

/-- The setting of a directory is left out, or it is a text. -/
def IsPathSetting (v : Option Value) : Prop :=
  v.all Value.isText = true

/-- The names of the settings are texts, and so are both directories. -/
structure IsSettings (entries : List (Value × Value)) : Prop where
  names : entries.all (·.1.isText) = true
  sourceDir : IsPathSetting (valueOf? "source_dir".toList entries)
  outputDir : IsPathSetting (valueOf? "output_dir".toList entries)

instance (entries : List (Value × Value)) : Decidable (IsSettings entries) :=
  decidable_of_iff (entries.all (·.1.isText) = true ∧
      (valueOf? "source_dir".toList entries).all Value.isText = true ∧
      (valueOf? "output_dir".toList entries).all Value.isText = true)
    ⟨fun ⟨h₁, h₂, h₃⟩ => ⟨h₁, h₂, h₃⟩, fun ⟨h₁, h₂, h₃⟩ => ⟨h₁, h₂, h₃⟩⟩

/-- The bytes of a configuration file that nothing provides for: text with a fault that is not one
    of a value, or a mapping whose names or directories are not texts. -/
inductive IsUnforeseen (content : List Nat) : Prop where
  | fault {s : Text} {f : Yaml.Fault} (htext : textOfBytes content = .ok s)
      (hload : Yaml.load configDepth s = .error f) (hf : ¬ f.IsOfValue)
  | settings {s : Text} {entries : List (Value × Value)} (htext : textOfBytes content = .ok s)
      (hload : Yaml.load configDepth s = .ok (.mapping entries)) (hentries : ¬ IsSettings entries)

/-! ### Settings -/

theorem readPath_cases (default : Path) (v : Option Value) :
    (IsPathSetting v ∧ ∃ p, readPath default v = .ok p) ∨
      (¬ IsPathSetting v ∧ ∃ e, readPath default v = .error e ∧ ∀ found, e ≠ .issues found) := by
  cases v with
  | none => exact .inl ⟨rfl, _, rfl⟩
  | some v =>
    cases v
    case text => exact .inl ⟨rfl, _, rfl⟩
    case brokenText => exact .inl ⟨rfl, _, rfl⟩
    all_goals exact .inr ⟨Bool.false_ne_true, _, rfl, fun _ h => by cases h⟩

/-- Settings whose names and directories are texts are read, or there are issues with them; others
    are refused in another way. -/
theorem Config.ofEntries_cases (entries : List (Value × Value)) :
    (IsSettings entries ∧ ((∃ config, Config.ofEntries entries = .ok config) ∨
        ∃ found, Config.ofEntries entries = .error (.issues found))) ∨
      (¬ IsSettings entries ∧
        ∃ e, Config.ofEntries entries = .error e ∧ ∀ found, e ≠ .issues found) := by
  have hpath : ∀ {v : Option Value} {default : Path} {read : Except OptionsError Path},
      readPath default v = read → (IsPathSetting v ∧ ∃ p, read = .ok p) ∨
        (¬ IsPathSetting v ∧ ∃ e, read = .error e ∧ ∀ found, e ≠ .issues found) :=
    fun h => h ▸ readPath_cases _ _
  generalize hresult : Config.ofEntries entries = result
  unfold Config.ofEntries at hresult
  split at hresult
  · rename_i hnames
    subst hresult
    exact .inr ⟨fun hs => by simp [hs.names] at hnames, _, rfl, fun _ h => by cases h⟩
  rename_i hnames
  rcases bind_cases hresult with ⟨e, hsource, rfl⟩ | ⟨source, hsource, hresult⟩
  · rcases hpath hsource with ⟨-, p, hp⟩ | ⟨hv, e', he', hissues⟩
    · cases hp
    · cases he'
      exact .inr ⟨fun hs => hv hs.sourceDir, _, rfl, hissues⟩
  rcases bind_cases hresult with ⟨e, houtput, rfl⟩ | ⟨output, houtput, hresult⟩
  · rcases hpath houtput with ⟨-, p, hp⟩ | ⟨hv, e', he', hissues⟩
    · cases hp
    · cases he'
      exact .inr ⟨fun hs => hv hs.outputDir, _, rfl, hissues⟩
  have hsettings : IsSettings entries := by
    refine ⟨by simpa using hnames, ?_, ?_⟩
    · exact ((hpath hsource).resolve_right fun ⟨_, _, he, _⟩ => by cases he).1
    · exact ((hpath houtput).resolve_right fun ⟨_, _, he, _⟩ => by cases he).1
  refine .inl ⟨hsettings, ?_⟩
  split at hresult
  · exact .inl ⟨_, hresult.symm⟩
  · exact .inr ⟨_, hresult.symm⟩
  · exact .inr ⟨_, hresult.symm⟩

/-- A directory that cannot be found holds a character that no name may hold. -/
theorem resolveFrom_eq_error {base : Place} {path : Path} {e : LoadError}
    (h : resolveFrom base path = .error e) : e = .file ⟨.zeroByte, path⟩ := by
  unfold resolveFrom at h
  split at h
  · cases h
  · split at h
    · exact (Except.error.inj h).symm
    · cases h

/-- The settings of a project are loaded from its entries, or the error is one of the settings, or
    of a directory. -/
theorem load_cases {base : Place} {entries : List (Value × Value)} {e : LoadError}
    (h : (match Config.ofEntries entries with
      | .error e => throw (.options e)
      | .ok config => do
        let sourceDir ← resolveFrom base config.sourceDir
        let outputDir ← resolveFrom base config.outputDir
        return { config with sourceDir, outputDir }) = (.error e : Except LoadError Config)) :
    (IsSettings entries ∧
        ((∃ found, e = .options (.issues found)) ∨ ∃ path, e = .file ⟨.zeroByte, path⟩)) ∨
      (¬ IsSettings entries ∧ ∃ f, e = .options f ∧ ∀ found, f ≠ .issues found) := by
  rcases Config.ofEntries_cases entries with ⟨hs, ⟨config, hconfig⟩ | ⟨found, hissues⟩⟩ |
    ⟨hs, f, hf, hnot⟩
  · rw [hconfig] at h
    refine .inl ⟨hs, .inr ?_⟩
    rcases bind_cases h with ⟨e', he', h⟩ | ⟨sourceDir, -, h⟩
    · cases h
      exact ⟨_, resolveFrom_eq_error he'⟩
    · rcases bind_cases h with ⟨e', he', h⟩ | ⟨outputDir, -, h⟩
      · cases h
        exact ⟨_, resolveFrom_eq_error he'⟩
      · cases h
  · rw [hissues] at h
    cases h
    exact .inl ⟨hs, .inl ⟨found, rfl⟩⟩
  · rw [hf] at h
    cases h
    exact .inr ⟨hs, f, rfl, hnot⟩

/-! ### Contents -/

section

variable {content : List Nat} {s : Text}

theorem not_isUnforeseen_of_encoding {e : Utf8.DecodingError} (h : textOfBytes content = .error e) :
    ¬ IsUnforeseen content := by
  rintro (⟨htext, -, -⟩ | ⟨htext, -, -⟩)
  · cases h.symm.trans htext
  · cases h.symm.trans htext

theorem isUnforeseen_iff_of_fault {f : Yaml.Fault} (htext : textOfBytes content = .ok s)
    (hload : Yaml.load configDepth s = .error f) : IsUnforeseen content ↔ ¬ f.IsOfValue := by
  refine ⟨?_, .fault htext hload⟩
  rintro (⟨htext', hload', hf⟩ | ⟨htext', hload', -⟩)
  · obtain rfl := Except.ok.inj (htext.symm.trans htext')
    exact Except.error.inj (hload.symm.trans hload') ▸ hf
  · obtain rfl := Except.ok.inj (htext.symm.trans htext')
    cases hload.symm.trans hload'

theorem isUnforeseen_iff_of_value {v : Value} (htext : textOfBytes content = .ok s)
    (hload : Yaml.load configDepth s = .ok v) :
    IsUnforeseen content ↔ ∃ entries, v = .mapping entries ∧ ¬ IsSettings entries := by
  constructor
  · rintro (⟨htext', hload', -⟩ | ⟨htext', hload', hentries⟩)
    · obtain rfl := Except.ok.inj (htext.symm.trans htext')
      cases hload.symm.trans hload'
    · obtain rfl := Except.ok.inj (htext.symm.trans htext')
      exact ⟨_, Except.ok.inj (hload.symm.trans hload'), hentries⟩
  · rintro ⟨entries, rfl, hentries⟩
    exact .settings htext hload hentries

/-- The entries that are read from a document decide whether its content is foreseen. -/
theorem readEntries_cases (path : Path) (htext : textOfBytes content = .ok s) :
    (∃ f, readEntries path s = .error (.document path f) ∧
      (IsUnforeseen content ↔ ¬ f.IsOfValue)) ∨
    (readEntries path s = .error (.notMapping path) ∧ ¬ IsUnforeseen content) ∨
    ∃ entries, readEntries path s = .ok entries ∧
      (IsUnforeseen content ↔ ¬ IsSettings entries) := by
  unfold readEntries
  cases hload : Yaml.load configDepth s with
  | error f => exact .inl ⟨f, rfl, isUnforeseen_iff_of_fault htext hload⟩
  | ok v =>
    have hiff := isUnforeseen_iff_of_value htext hload
    cases v
    case mapping entries =>
      refine .inr (.inr ⟨entries, by cases entries <;> rfl, hiff.trans ⟨?_, fun h => ⟨_, rfl, h⟩⟩⟩)
      rintro ⟨_, heq, hentries⟩
      cases heq
      exact hentries
    all_goals
      have hnot : ¬ IsUnforeseen content := fun h => by
        obtain ⟨_, heq, -⟩ := hiff.1 h
        cases heq
      dsimp only
      split
      · exact .inr (.inr ⟨[], rfl, fun h => absurd h hnot, fun h => absurd (by decide) h⟩)
      · exact .inr (.inl ⟨rfl, hnot⟩)

theorem loadEntries_of_encoding {t : FileTree} {file : Path} {fault : Utf8.DecodingError}
    (hread : t.readBytes file = .ok content) (htext : textOfBytes content = .error fault) :
    loadEntries t file = .error (encodingError fault) := by
  unfold loadEntries FileTree.readText
  rw [hread]
  dsimp only
  rw [htext]

theorem loadEntries_of_text {t : FileTree} {file : Path} {s : Text}
    (hread : t.readBytes file = .ok content) (htext : textOfBytes content = .ok s) :
    loadEntries t file = readEntries file s := by
  unfold loadEntries FileTree.readText
  rw [hread]
  dsimp only
  rw [htext]

/-- How a configuration file that cannot be loaded ends a command depends on the file's content
    alone: its user is told why, unless the content is not foreseen. -/
theorem configStop_cases {t : FileTree} {path file : Path} {base : Place} {e : LoadError}
    (hsource : configSource t path = .ok (some file, base))
    (hread : t.readBytes file = .ok content) (h : loadConfig t path = .error e) (arg : Text) :
    (IsUnforeseen content ∧ ∃ c, configStop arg e = .crash c) ∨
      (¬ IsUnforeseen content ∧ ∃ m, configStop arg e = .misuse m) := by
  unfold loadConfig at h
  rw [hsource] at h
  change loadEntries t file >>= _ = _ at h
  cases htext : textOfBytes content with
  | error fault =>
    rw [loadEntries_of_encoding hread htext] at h
    cases h
    exact .inr ⟨not_isUnforeseen_of_encoding htext, _, rfl⟩
  | ok s =>
    rw [loadEntries_of_text hread htext] at h
    rcases readEntries_cases file htext with ⟨f, hf, hiff⟩ | ⟨hf, hnot⟩ | ⟨entries, hf, hiff⟩
    · rw [hf] at h
      cases h
      cases f with
      | placed f => exact .inl ⟨hiff.2 not_false, _, rfl⟩
      | character c position => exact .inl ⟨hiff.2 not_false, _, rfl⟩
      | scalar f =>
        by_cases hvalue : isValueFault f = true
        · exact .inr ⟨fun h => hiff.1 h hvalue, _, if_pos hvalue⟩
        · exact .inl ⟨hiff.2 hvalue, _, if_neg hvalue⟩
    · rw [hf] at h
      cases h
      exact .inr ⟨hnot, _, rfl⟩
    · rw [hf] at h
      rcases load_cases h with ⟨hs, ⟨found, rfl⟩ | ⟨dir, rfl⟩⟩ | ⟨hs, f, rfl, hf⟩
      · exact .inr ⟨fun h => hiff.1 h hs, _, rfl⟩
      · exact .inr ⟨fun h => hiff.1 h hs, _, rfl⟩
      · refine .inl ⟨hiff.2 hs, ?_⟩
        cases f with
        | issues found => exact absurd rfl (hf found)
        | pathKind kind => exact ⟨_, rfl⟩
        | pathBytes => exact ⟨_, rfl⟩
        | nameKind => exact ⟨_, rfl⟩

end

/-! ### Values that are no mapping -/

section

/-- The value is a mapping. -/
def Value.isMapping : Value → Bool
  | .mapping _ => true
  | _ => false

variable {t : FileTree} {path file : Path} {base : Place} {s : Text} {v : Value}

/-- A value that counts as nothing has no entries. -/
theorem readEntries_of_isBlank (file : Path) (hload : Yaml.load configDepth s = .ok v)
    (hblank : v.isBlank = true) : readEntries file s = .ok [] := by
  rw [readEntries, hload]
  exact if_pos hblank

/-- A value that counts for something is refused unless it is a mapping. -/
theorem readEntries_of_not_isBlank (file : Path) (hload : Yaml.load configDepth s = .ok v)
    (hblank : v.isBlank = false) :
    (v.isMapping = true ∧ ∃ entries, readEntries file s = .ok entries) ∨
      (v.isMapping = false ∧ readEntries file s = .error (.notMapping file)) := by
  unfold readEntries
  rw [hload]
  dsimp only
  rw [if_neg (by simp [hblank])]
  cases v with
  | mapping entries => exact .inl ⟨rfl, entries, rfl⟩
  | _ => exact .inr ⟨rfl, rfl⟩

theorem readEntries_eq_notMapping_iff (file : Path) (hload : Yaml.load configDepth s = .ok v) :
    readEntries file s = .error (.notMapping file) ↔ v.isMapping = false ∧ v.isBlank = false := by
  cases hblank : v.isBlank with
  | true =>
    rw [readEntries_of_isBlank file hload hblank]
    exact iff_of_false nofun fun h => nomatch h.2
  | false =>
    rcases readEntries_of_not_isBlank file hload hblank with ⟨hmap, entries, hread⟩ | ⟨hmap, hread⟩
    · rw [hread, hmap]
      exact iff_of_false nofun fun h => nomatch h.1
    · rw [hread]
      exact iff_of_true rfl ⟨hmap, rfl⟩

/-! ### The configuration -/

/-- The entries that are read from the file decide what is loaded. -/
theorem loadConfig_of_readEntries (hsource : configSource t path = .ok (some file, base))
    (htext : t.readText file = .ok s) :
    loadConfig t path = readEntries file s >>= fun entries =>
      (Config.ofEntries entries).mapError .options >>= Config.seenFrom base := by
  have hentries : givenEntries t path = readEntries file s := by
    unfold givenEntries loadEntries
    rw [hsource]
    simp only [bind, Except.bind, htext]
  rw [loadConfig_eq, givenConfig, hentries, ← configSource_eq_ok hsource]
  cases readEntries file s <;> rfl

/-- No entries are complained of in this way, whatever else is wrong with them. -/
theorem ne_notMapping_of_entries (entries : List (Value × Value)) (base : Place) (file : Path) :
    ((Config.ofEntries entries).mapError LoadError.options >>= Config.seenFrom base) ≠
      .error (.notMapping file) := by
  intro h
  rcases bind_cases h with ⟨e, hoptions, he⟩ | ⟨config, -, h⟩
  · cases he
    obtain ⟨_, he⟩ := exists_of_mapError_eq_error hoptions
    cases he
  rcases bind_cases h with ⟨e, hdir, he⟩ | ⟨sourceDir, -, h⟩
  · cases he
    cases resolveFrom_eq_error hdir
  rcases bind_cases h with ⟨e, hdir, he⟩ | ⟨outputDir, -, h⟩
  · cases he
    cases resolveFrom_eq_error hdir
  · cases h

/-- A configuration file whose document can be read. That it should define a mapping is said of it
    exactly if its value is no mapping and counts for something; a value that counts as nothing is
    taken for an empty document. So only mappings and null are accepted exactly if the value is one
    of these or counts for something. -/
theorem loadConfig_notMapping_iff (hsource : configSource t path = .ok (some file, base))
    (htext : t.readText file = .ok s) (hload : Yaml.load configDepth s = .ok v) :
    (loadConfig t path = .error (.notMapping file) ↔ v.isMapping = false ∧ v.isBlank = false) ∧
      (v.isBlank = true → loadConfig t path = Config.seenFrom base {}) ∧
      ((loadConfig t path = .error (.notMapping file) ↔ v.isMapping = false ∧ v ≠ .null) ↔
        v.isMapping = true ∨ v = .null ∨ v.isBlank = false) := by
  have hloads := loadConfig_of_readEntries hsource htext
  have hrefused : loadConfig t path = .error (.notMapping file) ↔
      v.isMapping = false ∧ v.isBlank = false := by
    rw [← readEntries_eq_notMapping_iff file hload, hloads]
    constructor
    · intro h
      rcases bind_cases h with ⟨e, hread, he⟩ | ⟨entries, -, h⟩
      · cases he
        exact hread
      · exact absurd h (ne_notMapping_of_entries entries base file)
    · intro h
      rw [h]
      rfl
  refine ⟨hrefused, fun hblank => ?_, ?_⟩
  · rw [hloads, readEntries_of_isBlank file hload hblank]
    rfl
  · rw [hrefused]
    have hnull : Value.isBlank .null = true := rfl
    cases hmap : v.isMapping with
    | true => simp
    | false =>
      by_cases hv : v = .null
      · simp [hv, hnull]
      · simp [hv]

/-- A document whose value is of the kind of a list stands for one. -/
theorem exists_list_of_kind {blank : Bool}
    (h : (Yaml.load configDepth s).map (fun v => (v.kind, v.isBlank)) = .ok ("list".toList, blank)) :
    ∃ items, Yaml.load configDepth s = .ok (.list items) ∧ Value.isBlank (.list items) = blank := by
  cases hload : Yaml.load configDepth s with
  | error f =>
    rw [hload] at h
    cases h
  | ok v =>
    rw [hload] at h
    obtain ⟨hkind, hblank⟩ := Prod.mk.inj (Except.ok.inj h)
    cases v
    case list items => exact ⟨items, rfl, hblank⟩
    all_goals cases hkind

/-- A configuration file by itself. -/
def declared (content : String) : FileTree :=
  { entries := [(["conf.yml".toList], .file (Utf8.encode content.toList))] }

/-- A list of two items is refused. -/
theorem loadConfig_notMapping_list :
    let file := Path.ofText "conf.yml".toList
    loadConfig (declared "- just\n- a list\n") file = .error (.notMapping file) ∧
      (LoadError.notMapping file).message =
        "Configuration file conf.yml should define a mapping.".toList := by
  intro file
  have hsource : configSource (declared "- just\n- a list\n") file = .ok (some file, []) := rfl
  have htext : (declared "- just\n- a list\n").readText file =
      .ok "- just\n- a list\n".toList := rfl
  have hkind : (Yaml.load configDepth "- just\n- a list\n".toList).map
      (fun v => (v.kind, v.isBlank)) = .ok ("list".toList, false) := by
    decide +kernel
  obtain ⟨items, hload, hblank⟩ := exists_list_of_kind hkind
  exact ⟨(loadConfig_notMapping_iff hsource htext hload).1.2 ⟨rfl, hblank⟩, by decide⟩

/-- A list without items is neither a mapping nor null, and it is accepted. -/
theorem loadConfig_accepts_emptyList :
    let t := declared "[]"
    let file := Path.ofText "conf.yml".toList
    ∃ v config, t.readText file = .ok "[]".toList ∧ Yaml.load configDepth "[]".toList = .ok v ∧
      v.isMapping = false ∧ v ≠ .null ∧ loadConfig t file = .ok config := by
  intro t file
  have hkind : (Yaml.load configDepth "[]".toList).map (fun v => (v.kind, v.isBlank)) =
      .ok ("list".toList, true) := by
    decide +kernel
  obtain ⟨items, hload, -⟩ := exists_list_of_kind hkind
  have hconfig : loadConfig t file = .ok { sourceDir := Path.ofText "/docs".toList
                                           outputDir := Path.ofText "/out".toList } := by
    decide +kernel
  have hnull : Value.list items ≠ .null := by
    intro h
    cases h
  exact ⟨_, _, rfl, hload, rfl, hnull, hconfig⟩

end

end Docpress
