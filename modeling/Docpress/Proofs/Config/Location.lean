import Docpress.Proofs.Config.Load
import Docpress.Proofs.FileTree.Write
/-!
Where a configuration is, and where its directories are. A directory and the configuration file in
it name the same configuration, and the directories that a configuration gives are places that do
not depend on where the program was started.
-/

namespace Docpress

open FileTree

/-- The directory that a configuration is in: the one that the path names, or the one that holds the
    file that it names. -/
def configDirectory (t : FileTree) (path : Path) : Path :=
  if t.isDirectory path then path else path.parent

/-- The entries of the configuration that a path names; a directory without a file has none. -/
def givenEntries (t : FileTree) (path : Path) : Except LoadError (List (Value × Value)) := do
  let (file, _) ← configSource t path
  match file with
  | some file => loadEntries t file
  | none => return []

/-- The configuration that a path names as it is written, with its directories as they are given. -/
def givenConfig (t : FileTree) (path : Path) : Except LoadError Config := do
  (Config.ofEntries (← givenEntries t path)).mapError .options

/-- The configuration with its directories seen from a place. -/
def Config.seenFrom (base : Place) (given : Config) : Except LoadError Config := do
  let sourceDir ← resolveFrom base given.sourceDir
  let outputDir ← resolveFrom base given.outputDir
  return { given with sourceDir, outputDir }

/-- The path `p` is what the path `given` means in the directory `dir`: an absolute path is itself,
    and a relative one is put behind the directory, with all steps up taken. -/
structure FileTree.Shows (t : FileTree) (dir given p : Path) : Prop where
  isAbsolute : p.isAbsolute = true
  kept : given.isAbsolute = true → p = given
  settled : given.isAbsolute = false →
    p = ⟨['/'], t.settle (dir.join given)⟩ ∧ ['.'] ∉ p.names ∧ Path.up ∉ p.names

/-! ### Paths -/

theorem Path.up_notMem_settle {base : List Text} (h : up ∉ base) (names : List Text) :
    up ∉ settle base names := by
  induction names generalizing base with
  | nil => exact h
  | cons name rest ih =>
    rw [settle]
    split
    · exact ih fun hmem => h (List.mem_of_mem_dropLast hmem)
    · rename_i hname
      refine ih fun hmem => ?_
      rcases List.mem_append.1 hmem with hmem | hmem
      · exact h hmem
      · exact hname (by simp [List.mem_singleton.1 hmem])

/-- A name that is added behind a slash is the last name of the path. -/
theorem Path.ofText_append_slash {s name : Text} (hs : ∃ c ∈ s, c ≠ '/') (hname : IsPart name) :
    ofText (s ++ '/' :: name) = (ofText s).join { names := [name] } := by
  have hroot : (s ++ '/' :: name).takeWhile (· == '/') = s.takeWhile (· == '/') := by
    rw [List.takeWhile_append, if_neg]
    intro hlength
    obtain ⟨c, hc, hne⟩ := hs
    have hall := List.takeWhile_prefix (p := (· == '/')) (l := s) |>.eq_of_length hlength
    exact hne (beq_iff_eq.1 (List.all_eq_true.1 List.all_takeWhile c (hall.symm ▸ hc)))
  have hlast : Text.splitBy (· == '/') name = [name] :=
    Text.splitBy_of_forall_not fun c hc => by
      simpa using fun heq : c = '/' => hname.2.2 (heq ▸ hc)
  have hsplit : Text.splitBy (· == '/') (s ++ '/' :: name) =
      Text.splitBy (· == '/') s ++ [name] := by
    rw [Text.splitBy_append (p := (· == '/')) s rfl, hlast]
  have hkept : [name].filter (fun s => !s.isEmpty) = [name] := by simp [hname.1]
  have hkept' : [name].filter (· != ['.']) = [name] := by simp [hname.2.1]
  rw [ofText, rootOf, hroot, namesOf, Text.words, hsplit, List.filter_append, List.filter_append,
    hkept, hkept']
  rfl

/-- The name of the configuration file is one that stands for itself. -/
theorem isPart_configName : Path.IsPart configName := by
  refine ⟨by decide, by decide, by decide⟩

/-! ### The configuration file -/

theorem configSource_eq_ok {t : FileTree} {path : Path} {file : Option Path} {base : Place}
    (h : configSource t path = .ok (file, base)) : base = t.settle (configDirectory t path) := by
  unfold configSource at h
  unfold configDirectory
  split at h
  · rename_i hdir
    cases h
    rw [if_pos hdir]
  · rename_i hdir
    rw [if_neg hdir]
    split at h
    · cases h
      rfl
    · cases h

/-- The configuration of a path is what its file gives, seen from the directory of that file. -/
theorem loadConfig_eq (t : FileTree) (path : Path) :
    loadConfig t path =
      givenConfig t path >>= Config.seenFrom (t.settle (configDirectory t path)) := by
  unfold loadConfig givenConfig givenEntries
  cases hsource : configSource t path with
  | error e => rfl
  | ok found =>
    obtain ⟨file, base⟩ := found
    obtain rfl := configSource_eq_ok hsource
    cases file with
    | none =>
      dsimp only [bind, Except.bind, pure, Except.pure]
      cases Config.ofEntries [] <;> rfl
    | some file =>
      cases hentries : loadEntries t file with
      | error e => simp [hentries, bind, Except.bind]
      | ok entries =>
        dsimp only [bind, Except.bind]
        rw [hentries]
        dsimp only
        cases Config.ofEntries entries <;> rfl

/-- A file in a directory is reached through it. -/
theorem isDirectory_of_readBytes {t : FileTree} {dir : Path} {name : Text}
    {content : List Nat} (h : t.readBytes (dir.join { names := [name] }) = .ok content) :
    t.isDirectory dir = true ∧ t.isDirectory (dir.join { names := [name] }) = false ∧
      t.hasPath (dir.join { names := [name] }) = true := by
  obtain ⟨hlocate, hfile⟩ := readBytes_eq_ok_iff.1 h
  have hat : t.at? (dir.join { names := [name] }) = some (.file content) := by
    rw [at?, hlocate]
    exact hfile
  refine ⟨?_, by simp [isDirectory, hat], by simp [hasPath, hat]⟩
  unfold locate at hlocate
  split at hlocate
  · cases hlocate
  rename_i hzero
  have hzero' : dir.hasZero = false := by
    have hboth : (dir.names ++ [name]).any (·.contains (Char.ofNat 0)) = false :=
      Bool.eq_false_iff.2 hzero
    rw [List.any_append, Bool.or_eq_false_iff] at hboth
    exact hboth.1
  have hwalk : t.walk (t.start dir) (dir.names ++ [name]) = .ok _ := hlocate
  rw [walk_append] at hwalk
  obtain ⟨place, hplace, hstep⟩ := exists_of_bind_eq_ok hwalk
  have hdir : t.find? place = some .directory := by
    simp only [walk] at hstep
    split at hstep
    · cases hstep
    · cases hstep
    · assumption
  simp [isDirectory, at?, locate, hzero', hplace, hdir]

/-- A directory and the configuration file in it name the same configuration. -/
theorem loadConfig_directory {t : FileTree} {dir : Path} {content : List Nat}
    (h : t.readBytes (dir.join { names := [configName] }) = .ok content) :
    loadConfig t dir = loadConfig t (dir.join { names := [configName] }) := by
  obtain ⟨hdir, hfile, hhas⟩ := isDirectory_of_readBytes h
  have hparent : (dir.join { names := [configName] }).parent = dir := by
    simp [Path.parent, Path.join, Path.isAbsolute]
  have hsource : configSource t dir = configSource t (dir.join { names := [configName] }) := by
    simp only [configSource, hdir, hfile, hhas, hparent, if_true, if_false, Bool.false_eq_true]
  unfold loadConfig
  rw [hsource]

/-! ### The directories -/

/-- A relative path that is put behind a directory leads on from the place of the directory. -/
theorem FileTree.settle_join_relative (t : FileTree) (dir : Path) {p : Path}
    (hp : p.isAbsolute = false) : t.settle (dir.join p) = Path.settle (t.settle dir) p.names := by
  have hjoin : dir.join p = { dir with names := dir.names ++ p.names } := by
    simp [Path.join, hp]
  rw [hjoin]
  exact Path.settle_append _ _ _

/-- The place of a path has no steps up in it. -/
theorem FileTree.WellFormed.up_notMem_settle {t : FileTree} (ht : t.WellFormed) (p : Path) :
    Path.up ∉ t.settle p := by
  refine Path.up_notMem_settle (fun hup => ?_) p.names
  unfold FileTree.start at hup
  split at hup
  · cases hup
  · exact (ht.isName_of_mem_here hup).2.2.1 rfl

/-- A path of a configuration is shown in the directory that it is seen from. -/
theorem resolveFrom_shows {t : FileTree} (ht : t.WellFormed) {dir given p : Path}
    (hdir : dir.IsReadable) (hgiven : given.IsReadable)
    (h : resolveFrom (t.settle dir) given = .ok p) : t.Shows dir given p := by
  unfold resolveFrom at h
  split at h
  · rename_i habsolute
    cases h
    exact ⟨habsolute, fun _ => rfl, fun hrelative => by simp [habsolute] at hrelative⟩
  · rename_i habsolute
    have hrelative : given.isAbsolute = false := by simpa using habsolute
    split at h
    · cases h
    · cases h
      refine ⟨rfl, fun habsolute' => absurd habsolute' habsolute, fun _ => ⟨?_, ?_, ?_⟩⟩
      · rw [settle_join_relative t dir hrelative]
      · intro hdot
        rcases Path.mem_settle hdot with hmem | hmem
        · exact (ht.isPart_of_mem_settle hdir hmem).2.1 rfl
        · exact (hgiven.parts _ hmem).2.1 rfl
      · exact Path.up_notMem_settle (ht.up_notMem_settle dir) _

theorem configDirectory_isReadable {t : FileTree} {path : Path} (hpath : path.IsReadable) :
    (configDirectory t path).IsReadable := by
  unfold configDirectory
  split
  · exact hpath
  · exact ⟨hpath.root, fun name hname => hpath.parts name (List.mem_of_mem_dropLast hname)⟩

theorem givenConfig_isReadable {t : FileTree} {path : Path} {given : Config}
    (h : givenConfig t path = .ok given) :
    given.sourceDir.IsReadable ∧ given.outputDir.IsReadable := by
  obtain ⟨entries, -, h⟩ := exists_of_bind_eq_ok h
  cases hentries : Config.ofEntries entries with
  | error e =>
    rw [hentries] at h
    cases h
  | ok config =>
    rw [hentries] at h
    cases h
    exact Config.ofEntries_isReadable hentries

/-- The directories of a configuration are absolute, and their paths can be read from what they are
    written as. -/
theorem loadConfig_isReadable {t : FileTree} (ht : t.WellFormed) {path : Path}
    (hpath : path.IsReadable) {config : Config} (h : loadConfig t path = .ok config) :
    (config.sourceDir.isAbsolute = true ∧ config.sourceDir.IsReadable) ∧
      (config.outputDir.isAbsolute = true ∧ config.outputDir.IsReadable) := by
  rw [loadConfig_eq] at h
  obtain ⟨given, hgiven, h⟩ := exists_of_bind_eq_ok h
  obtain ⟨sourceDir, hsourceDir, h⟩ := exists_of_bind_eq_ok h
  obtain ⟨outputDir, houtputDir, h⟩ := exists_of_bind_eq_ok h
  cases h
  have hbase : ∀ name ∈ t.settle (configDirectory t path), Path.IsPart name :=
    fun _ => ht.isPart_of_mem_settle (configDirectory_isReadable hpath)
  obtain ⟨hsource, houtput⟩ := givenConfig_isReadable hgiven
  exact ⟨resolveFrom_isReadable hbase hsource hsourceDir,
    resolveFrom_isReadable hbase houtput houtputDir⟩

/-- A project in a directory below the current one. -/
def handbook : FileTree :=
  { entries := [(["home".toList], .directory), (["home".toList, "book".toList], .directory),
      (["home".toList, "book".toList, configName],
        .file (Utf8.encode "source_dir: ../text\noutput_dir: /srv/../out".toList))]
    here := ["home".toList] }

end Docpress
