import Docpress.Proofs.FileTree.Layout
import Docpress.Proofs.Pages.Output
import Mathlib.Data.List.Sort
/-!
The Markdown files below a directory: each can be read, and each is listed once.
-/

namespace Docpress

theorem Path.eq_append_of_dropNames? {lead names rest : List Text}
    (h : Path.dropNames? lead names = some rest) : names = lead ++ rest := by
  induction lead generalizing names with
  | nil =>
    cases h
    rfl
  | cons a lead ih =>
    cases names with
    | nil => cases h
    | cons b names =>
      rw [Path.dropNames?] at h
      split at h
      · rename_i hab
        rw [ih h, beq_iff_eq.1 hab, List.cons_append]
      · cases h

namespace FileTree

/-- The files below a place are the entries that have names of their own there. -/
theorem mem_filesBelow {t : FileTree} {place : Place} {names : List Text} :
    names ∈ t.filesBelow place ↔
      names ≠ [] ∧ ∃ content, (place ++ names, .file content) ∈ t.entries := by
  unfold filesBelow
  rw [List.mem_filterMap]
  constructor
  · rintro ⟨⟨found, e⟩, hmem, hsome⟩
    simp only at hsome
    split at hsome
    · rename_i content name rest hdrop
      cases hsome
      rw [Path.eq_append_of_dropNames? hdrop] at hmem
      exact ⟨by simp, content, hmem⟩
    · cases hsome
  · rintro ⟨hne, content, hmem⟩
    refine ⟨_, hmem, ?_⟩
    obtain ⟨name, rest, rfl⟩ := List.exists_cons_of_ne_nil hne
    simp [Path.dropNames?_append]

theorem WellFormed.nodup_filesBelow {t : FileTree} (ht : t.WellFormed) (place : Place) :
    (t.filesBelow place).Nodup := by
  have hplaces : t.entries.Pairwise fun entry other => entry.1 ≠ other.1 :=
    List.pairwise_map.1 ht.distinct
  unfold filesBelow
  refine hplaces.filterMap _ ?_
  rintro ⟨found, e⟩ ⟨found', e'⟩ hne names hnames names' hnames' rfl
  dsimp only at hnames hnames'
  split at hnames
  · rename_i hdrop
    cases hnames
    split at hnames'
    · rename_i hdrop'
      cases hnames'
      have hfound := Path.eq_append_of_dropNames? hdrop
      exact hne (hfound.trans (Path.eq_append_of_dropNames? hdrop').symm)
    · cases hnames'
  · cases hnames

end FileTree

/-- The Markdown files below a directory that is there: the directory's path with the names that
    lead on to a file with a suffix of Markdown. -/
theorem mem_collectSources {t : FileTree} {dir source : Path} :
    source ∈ (collectSources t dir).1 ↔
      ∃ place names, t.locate dir = .ok place ∧ names ∈ t.filesBelow place ∧
        source = dir.join { names } ∧ isMarkdown source = true := by
  unfold collectSources
  cases t.locate dir with
  | error fault => simp
  | ok place =>
    simp only [List.mem_mergeSort, List.mem_filter, List.mem_map, Except.ok.injEq]
    constructor
    · rintro ⟨⟨names, hnames, rfl⟩, hsuffix⟩
      exact ⟨place, names, rfl, hnames, rfl, hsuffix⟩
    · rintro ⟨_, names, rfl, hnames, rfl, hsuffix⟩
      exact ⟨⟨names, hnames, rfl⟩, hsuffix⟩

/-- Files that stand in the order of their names are listed in that order. -/
theorem collectSources_eq_of_pairwise {t : FileTree} {dir : Path} {place : Place}
    {sources : List Path} (hlocate : t.locate dir = .ok place)
    (hfiles : ((t.filesBelow place).map fun names => dir.join { names }).filter isMarkdown =
      sources)
    (hsorted : sources.Pairwise fun p q => (!Path.namesPrecede q.names p.names) = true) :
    (collectSources t dir).1 = sources := by
  simp only [collectSources, hlocate, hfiles]
  exact List.mergeSort_of_pairwise hsorted

/-- No file is listed twice. -/
theorem nodup_collectSources {t : FileTree} (ht : t.WellFormed) (dir : Path) :
    (collectSources t dir).1.Nodup := by
  unfold collectSources
  cases t.locate dir with
  | error fault => simp
  | ok place =>
    have hinjective : Function.Injective fun names => dir.join { names } := by
      intro names names' h
      simp only [Path.join_names, Path.mk.injEq, true_and] at h
      exact List.append_cancel_left h
    refine (List.Perm.nodup_iff (List.mergeSort_perm _ _)).2 (List.Nodup.filter _ ?_)
    exact (ht.nodup_filesBelow place).map hinjective

/-- The names below a directory lead on from where the directory is. -/
theorem FileTree.locate_join {t : FileTree} {dir : Path} {names : List Text}
    (hnames : ∀ name ∈ names, IsName name) :
    t.locate (dir.join { names }) = (t.locate dir).bind fun place => t.walk place names := by
  have hzero : (dir.join { names }).hasZero = dir.hasZero := by
    have hnone : names.any (·.contains (Char.ofNat 0)) = false :=
      List.any_eq_false.2 fun name hname => by simpa using (hnames name hname).2.2.2.2
    rw [Path.join_names, Path.hasZero, List.any_append, hnone, Bool.or_false]
    rfl
  rw [locate, locate, hzero]
  split
  · rfl
  · exact t.walk_append (t.start dir) dir.names names

/-- What is known of a file that is listed: its names below the directory, and that it can be
    read. -/
theorem FileTree.WellFormed.readBytes_source {t : FileTree} (ht : t.WellFormed) {dir source : Path}
    (h : source ∈ (collectSources t dir).1) :
    ∃ lead name content, source = dir.join { names := lead ++ [name] } ∧ name ≠ [] ∧
      Path.up ∉ lead ∧ t.readBytes source = .ok content := by
  obtain ⟨place, names, hlocate, hnames, rfl, -⟩ := mem_collectSources.1 h
  obtain ⟨hne, content, hmem⟩ := FileTree.mem_filesBelow.1 hnames
  obtain ⟨lead, name, rfl⟩ := List.eq_nil_or_concat' names |>.resolve_left hne
  have hproper : ∀ n ∈ lead ++ [name], IsName n :=
    fun n hn => (ht.named _ hmem).2 n (List.mem_append_right _ hn)
  have hup : Path.up ∉ lead ++ [name] := fun hmem => (hproper _ hmem).2.2.1 rfl
  refine ⟨lead, name, content, rfl, (hproper name (by simp)).1,
    fun hlead => hup (List.mem_append_left _ hlead), ?_⟩
  have hfile := ht.find?_of_mem hmem
  have hwalk : t.locate (dir.join { names := lead ++ [name] }) =
      .ok (place ++ (lead ++ [name])) := by
    rw [FileTree.locate_join hproper, hlocate]
    exact ht.walk_of_find? hup (by rw [hfile, Option.isSome_some])
  rw [FileTree.readBytes_eq_ok_iff, ← FileTree.eq_settle_of_locate hwalk]
  exact ⟨hwalk, hfile⟩

end Docpress
