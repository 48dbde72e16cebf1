import Docpress.Proofs.FileTree.Placed
import Docpress.Proofs.Pages.Sources
import Mathlib.Data.Char
import Mathlib.Data.List.Lex
/-!
Which files are collected, and in which order: all files below a directory whose names end as those
of Markdown files do, each once, and in the order of their names.
-/

namespace Docpress

/-! ### The order of names -/

theorem Text.precedes_iff {s t : Text} : precedes s t = true ↔ s < t := by
  induction t generalizing s with
  | nil => simp [precedes]
  | cons b t ih =>
    cases s with
    | nil => simp [precedes]
    | cons a s =>
      rw [precedes, Bool.or_eq_true, Bool.and_eq_true, decide_eq_true_iff, beq_iff_eq, ih,
        List.cons_lt_cons_iff]
      rfl

theorem Path.namesPrecede_iff {names others : List Text} :
    namesPrecede names others = true ↔ names < others := by
  induction others generalizing names with
  | nil => simp [namesPrecede]
  | cons b others ih =>
    cases names with
    | nil => simp [namesPrecede]
    | cons a names =>
      rw [namesPrecede, Bool.or_eq_true, Bool.and_eq_true, Text.precedes_iff, beq_iff_eq, ih,
        List.cons_lt_cons_iff]

/-- Sorting by names leaves no path before one that precedes it. -/
theorem Path.pairwise_mergeSort (paths : List Path) :
    (paths.mergeSort fun p q => !namesPrecede q.names p.names).Pairwise fun p q =>
      p.names ≤ q.names := by
  have hle {p q : Path} : (!namesPrecede q.names p.names) = true ↔ p.names ≤ q.names := by
    rw [Bool.not_eq_true', Bool.eq_false_iff, ne_eq, namesPrecede_iff, not_lt]
  refine (List.pairwise_mergeSort (fun p q r hpq hqr => ?_) (fun p q => ?_) paths).imp hle.1
  · exact hle.2 ((hle.1 hpq).trans (hle.1 hqr))
  · rw [Bool.or_eq_true, hle, hle]
    exact le_total p.names q.names

/-! ### Files below a directory -/

namespace FileTree

variable {t : FileTree} {dir : Path} {place dest : Place} {names : List Text}
  {content : List Nat}

/-- Names lead only to what is there. -/
theorem Closed.isSome_of_walk (ht : t.Closed) (hplace : (t.find? place).isSome = true)
    (h : t.walk place names = .ok dest) : (t.find? dest).isSome = true := by
  induction names generalizing place with
  | nil =>
    cases h
    exact hplace
  | cons name names ih =>
    rw [walk] at h
    split at h
    · cases h
    · cases h
    · rename_i hdir
      split at h
      · refine ih ?_ h
        rw [ht.directory_of_prefix hdir (List.dropLast_prefix place), Option.isSome_some]
      · split at h
        · rename_i hfound
          exact ih hfound h
        · cases h

/-- A path leads to something exactly if it has a place. -/
theorem Closed.hasPath_iff (ht : t.Closed) (p : Path) :
    t.hasPath p = true ↔ ∃ place, t.locate p = .ok place := by
  rw [hasPath, at?]
  cases hlocate : t.locate p with
  | error fault => simp
  | ok place =>
    refine iff_of_true ?_ ⟨place, rfl⟩
    rw [locate] at hlocate
    split at hlocate
    · cases hlocate
    · exact ht.isSome_of_walk (by rw [ht.start p, Option.isSome_some]) hlocate

theorem at?_eq_some_iff {p : Path} {e : Entry} :
    t.at? p = some e ↔ ∃ place, t.locate p = .ok place ∧ t.find? place = some e := by
  rw [at?]
  cases t.locate p <;> simp

/-- A path below a directory leads to a file exactly if the directory has a place and the file is one
    of those below it. -/
theorem WellFormed.at?_join (ht : t.WellFormed) (hne : names ≠ [])
    (hnames : ∀ name ∈ names, IsName name) :
    t.at? (dir.join { names }) = some (.file content) ↔
      ∃ place, t.locate dir = .ok place ∧ (place ++ names, .file content) ∈ t.entries := by
  have hup : Path.up ∉ names := fun hmem => (hnames _ hmem).2.2.1 rfl
  rw [at?_eq_some_iff, locate_join hnames]
  constructor
  · rintro ⟨dest, hwalk, hfile⟩
    cases hlocate : t.locate dir with
    | error fault =>
      rw [hlocate] at hwalk
      cases hwalk
    | ok place =>
      rw [hlocate] at hwalk
      obtain rfl := (eq_settle_of_walk hwalk).trans (Path.settle_of_up_notMem hup place)
      exact ⟨place, rfl, mem_of_find? (List.append_ne_nil_of_right_ne_nil _ hne) hfile⟩
  · rintro ⟨place, hlocate, hmem⟩
    have hfile := ht.find?_of_mem hmem
    refine ⟨place ++ names, ?_, hfile⟩
    rw [hlocate]
    exact ht.walk_of_find? hup (by rw [hfile, Option.isSome_some])

/-- Nothing is below a file. -/
theorem WellFormed.filesBelow_file (ht : t.WellFormed) (h : t.find? place = some (.file content)) :
    t.filesBelow place = [] := by
  refine List.eq_nil_iff_forall_not_mem.2 fun names hnames => ?_
  obtain ⟨hne, content', hmem⟩ := mem_filesBelow.1 hnames
  obtain ⟨name, rest, rfl⟩ := List.exists_cons_of_ne_nil hne
  have hdir := ht.directory_of_below (by rw [ht.find?_of_mem hmem, Option.isSome_some])
  cases h.symm.trans hdir

end FileTree

/-! ### What is collected -/

variable {t : FileTree} {dir source : Path}

theorem isMarkdown_iff : isMarkdown source = true ↔
    lower source.suffix = ".md".toList ∨ lower source.suffix = ".markdown".toList := by
  simp [isMarkdown, markdownSuffixes]

/-- The files that are collected are those below the directory that have a suffix of Markdown. -/
theorem FileTree.WellFormed.mem_collectSources_iff (ht : t.WellFormed) :
    source ∈ (collectSources t dir).1 ↔
      (∃ names, names ≠ [] ∧ (∀ name ∈ names, IsName name) ∧ source = dir.join { names }) ∧
      (∃ content, t.at? source = some (.file content)) ∧
      (lower source.suffix = ".md".toList ∨ lower source.suffix = ".markdown".toList) := by
  rw [mem_collectSources, ← isMarkdown_iff]
  constructor
  · rintro ⟨place, names, hlocate, hbelow, rfl, hsuffix⟩
    obtain ⟨hne, content, hmem⟩ := FileTree.mem_filesBelow.1 hbelow
    have hnames : ∀ name ∈ names, IsName name :=
      fun name hname => (ht.named _ hmem).2 name (List.mem_append_right _ hname)
    refine ⟨⟨names, hne, hnames, rfl⟩, ⟨content, ?_⟩, hsuffix⟩
    exact (ht.at?_join hne hnames).2 ⟨place, hlocate, hmem⟩
  · rintro ⟨⟨names, hne, hnames, rfl⟩, ⟨content, hfile⟩, hsuffix⟩
    obtain ⟨place, hlocate, hmem⟩ := (ht.at?_join hne hnames).1 hfile
    exact ⟨place, names, hlocate, FileTree.mem_filesBelow.2 ⟨hne, content, hmem⟩, rfl, hsuffix⟩

/-- What is collected stands in strict order: no path is there twice, and all have the root of the
    directory, so two of them differ in their names. -/
theorem FileTree.WellFormed.pairwise_collectSources (ht : t.WellFormed) (dir : Path) :
    (collectSources t dir).1.Pairwise fun p q => p.names < q.names := by
  have hsorted : (collectSources t dir).1.Pairwise fun p q => p.names ≤ q.names := by
    unfold collectSources
    split
    · exact .nil
    · exact Path.pairwise_mergeSort _
  refine (hsorted.and (nodup_collectSources ht dir)).imp_of_mem fun {p q} hp hq h => ?_
  refine lt_of_le_of_ne h.1 fun hnames => h.2 ?_
  obtain ⟨⟨names, -, -, rfl⟩, -⟩ := ht.mem_collectSources_iff.1 hp
  obtain ⟨⟨others, -, -, rfl⟩, -⟩ := ht.mem_collectSources_iff.1 hq
  rw [Path.join_names, Path.join_names] at hnames ⊢
  exact congrArg (Path.mk dir.root) hnames

/-- The files that are collected are those below the directory that have a suffix of Markdown, each
    once and in the order of their names. There are none if the directory is not there, which is
    reported, and none if it is a file. -/
theorem collectSources_exact (ht : t.WellFormed) (dir : Path) :
    (∀ source, source ∈ (collectSources t dir).1 ↔
      (∃ names, names ≠ [] ∧ (∀ name ∈ names, IsName name) ∧ source = dir.join { names }) ∧
      (∃ content, t.at? source = some (.file content)) ∧
      (lower source.suffix = ".md".toList ∨ lower source.suffix = ".markdown".toList)) ∧
    (collectSources t dir).1.Nodup ∧
    (collectSources t dir).1.Pairwise (fun p q => p.names < q.names) ∧
    (t.hasPath dir = false → collectSources t dir = ([], [⟨.warning, "Source directory ".toList ++
      dir.toText ++ " does not exist; nothing to render.".toList⟩])) ∧
    (t.hasPath dir = true → (collectSources t dir).2 = []) ∧
    ∀ content, t.at? dir = some (.file content) → collectSources t dir = ([], []) := by
  refine ⟨fun source => ht.mem_collectSources_iff, nodup_collectSources ht dir,
    ht.pairwise_collectSources dir, fun hmissing => ?_, fun hthere => ?_, fun content hfile => ?_⟩
  · cases hlocate : t.locate dir with
    | error fault => rw [collectSources, hlocate]
    | ok place =>
      rw [(ht.closed.hasPath_iff dir).2 ⟨place, hlocate⟩] at hmissing
      cases hmissing
  · obtain ⟨place, hlocate⟩ := (ht.closed.hasPath_iff dir).1 hthere
    rw [collectSources, hlocate]
  · obtain ⟨place, hlocate, hfound⟩ := FileTree.at?_eq_some_iff.1 hfile
    simp [collectSources, hlocate, ht.filesBelow_file hfound]

/-- A directory and files with names that look like those of Markdown files, more or less. -/
def drafts : FileTree :=
  { entries := [(["docs".toList], .directory),
      (["docs".toList, ".md".toList], .file []),
      (["docs".toList, "a-b.md".toList], .file []),
      (["docs".toList, "a".toList], .directory),
      (["docs".toList, "a".toList, "b.tar.MD".toList], .file []),
      (["docs".toList, "c.md".toList], .directory),
      (["docs".toList, "c.md".toList, ".d.markdown".toList], .file []),
      (["docs".toList, "e.md.txt".toList], .file [])] }

/-- Hidden files and files in directories are collected, directories and names that are no more than a
    suffix are not. -/
theorem collectSources_exact_drafts :
    let docs := Path.ofText "docs".toList
    let sources := (collectSources drafts docs).1
    drafts.WellFormed ∧ Path.ofText "docs/c.md/.d.markdown".toList ∈ sources ∧
      Path.ofText "docs/a/b.tar.MD".toList ∈ sources ∧ Path.ofText "docs/c.md".toList ∉ sources ∧
      Path.ofText "docs/.md".toList ∉ sources ∧ sources.Pairwise (fun p q => p.names < q.names) ∧
      (collectSources drafts docs).2 = [] ∧
      collectSources drafts (Path.ofText "docs/a-b.md".toList) = ([], []) ∧
      collectSources drafts (Path.ofText "out".toList) = ([], [⟨.warning,
        "Source directory out does not exist; nothing to render.".toList⟩]) := by
  intro docs sources
  have ht : drafts.WellFormed := ⟨by decide, by decide, by decide, rfl⟩
  obtain ⟨hmem, -, horder, -, hlogs, -⟩ := collectSources_exact ht docs
  obtain ⟨-, -, -, -, -, hfile⟩ := collectSources_exact ht (Path.ofText "docs/a-b.md".toList)
  obtain ⟨-, -, -, hmissing, -⟩ := collectSources_exact ht (Path.ofText "out".toList)
  refine ⟨ht, (hmem _).2 ⟨⟨["c.md".toList, ".d.markdown".toList], ?_⟩, ⟨[], ?_⟩, .inr ?_⟩,
    (hmem _).2 ⟨⟨["a".toList, "b.tar.MD".toList], ?_⟩, ⟨[], ?_⟩, .inl ?_⟩, fun hdir => ?_,
    fun hdot => ?_, horder, hlogs ?_, hfile [] ?_, hmissing ?_⟩
  case refine_7 =>
    obtain ⟨-, ⟨content, hcontent⟩, -⟩ := (hmem _).1 hdir
    have hfound : drafts.at? (Path.ofText "docs/c.md".toList) = some .directory := by
      decide
    cases hfound.symm.trans hcontent
  case refine_8 =>
    obtain ⟨-, -, hsuffix⟩ := (hmem _).1 hdot
    revert hsuffix
    decide
  all_goals decide

end Docpress
