import Docpress.Pages
import Docpress.Proofs.FileTree.Write
/-!
Where the pages of sources go. A page has the suffix of a web page, so it is never written over a
Markdown file, and the pages of two files below the source directory meet only if the files differ
in nothing but their suffixes.
-/

namespace Docpress

namespace Path

/-- A name that is not empty keeps something before its suffix. -/
theorem splitSuffix_fst_ne_nil {name : Text} (h : name ≠ []) : (splitSuffix name).1 ≠ [] := by
  unfold splitSuffix
  simp only
  split
  · exact h
  · rename_i hcond
    simp only [Bool.or_eq_true, not_or, Bool.not_eq_true, List.isEmpty_eq_false_iff] at hcond
    exact hcond.1.2

/-- What follows a dot, and holds none itself, is the suffix of a name. -/
theorem splitSuffix_append {stem tail : Text} (hstem : stem ≠ []) (htail : tail ≠ [])
    (hdot : '.' ∉ tail) : splitSuffix (stem ++ '.' :: tail) = (stem, '.' :: tail) := by
  have hrun : (((stem ++ '.' :: tail).reverse.takeWhile (· != '.')).reverse) = tail := by
    have hreverse : (stem ++ '.' :: tail).reverse = tail.reverse ++ '.' :: stem.reverse := by simp
    have hpos : ∀ c ∈ tail.reverse, (c != '.') = true := by
      intro c hc
      simp only [bne_iff_ne]
      rintro rfl
      exact hdot (List.mem_reverse.1 hc)
    rw [hreverse, List.takeWhile_append_of_pos hpos]
    simp
  have htake : (stem ++ '.' :: tail).take ((stem ++ '.' :: tail).length - tail.length - 1) =
      stem := by
    have hlen : (stem ++ '.' :: tail).length - tail.length - 1 = stem.length := by
      simp only [List.length_append, List.length_cons]
      omega
    rw [hlen, List.take_left]
  unfold splitSuffix
  rw [hrun]
  simp only [htake]
  rw [if_neg]
  simp only [Bool.or_eq_true, List.isEmpty_iff, beq_iff_eq, List.length_append, List.length_cons]
  rintro ((h | h) | h)
  · exact htail h
  · exact hstem h
  · omega

theorem withSuffix?_eq_some {p q : Path} {suffix : Text} (h : p.withSuffix? suffix = some q) :
    p.name ≠ [] ∧
      q = { p with names := p.names.dropLast ++ [(splitSuffix p.name).1 ++ suffix] } := by
  unfold withSuffix? at h
  split at h
  · cases h
  · rename_i hname
    cases h
    exact ⟨by simpa using hname, rfl⟩

theorem withSuffix?_concat (root : Text) (lead : List Text) {name : Text} (h : name ≠ [])
    (suffix : Text) :
    (Path.mk root (lead ++ [name])).withSuffix? suffix =
      some ⟨root, lead ++ [(splitSuffix name).1 ++ suffix]⟩ := by
  have hname : (Path.mk root (lead ++ [name])).name = name := by simp [Path.name]
  rw [withSuffix?, hname, if_neg (by simpa using h), List.dropLast_concat]

/-- Joining a path to names that lead on from it. -/
theorem join_names (p : Path) (names : List Text) :
    p.join { names } = { p with names := p.names ++ names } := rfl

theorem dropNames?_append (lead names : List Text) :
    dropNames? lead (lead ++ names) = some names := by
  induction lead with
  | nil => rfl
  | cons name lead ih => simp [dropNames?, ih]

theorem relativeTo?_join (p : Path) (names : List Text) :
    (p.join { names }).relativeTo? p = some { names } := by
  rw [join_names, relativeTo?]
  simp [dropNames?_append]

end Path

/-- The suffix of pages. -/
theorem splitSuffix_page {stem : Text} (h : stem ≠ []) :
    Path.splitSuffix (stem ++ ".html".toList) = (stem, ".html".toList) :=
  Path.splitSuffix_append h (by decide) (by decide)

theorem page_ne_up {stem : Text} (h : stem ≠ []) : stem ++ ".html".toList ≠ Path.up := by
  intro heq
  have hsplit : (stem, ".html".toList) = Path.splitSuffix Path.up := by
    rw [← splitSuffix_page h, heq]
  have hsuffix : ".html".toList = (Path.splitSuffix Path.up).2 := congrArg Prod.snd hsplit
  exact absurd hsuffix (by decide)

/-- A page has a name, with the suffix of pages. -/
theorem Config.outputOf_getLast? {config : Config} {source output : Path}
    (h : config.outputOf source = .ok output) :
    ∃ stem, stem ≠ [] ∧ output.names.getLast? = some (stem ++ ".html".toList) := by
  unfold Config.outputOf at h
  simp only at h
  split at h
  · rename_i hsuffix
    cases h
    obtain ⟨hname, rfl⟩ := Path.withSuffix?_eq_some hsuffix
    exact ⟨_, Path.splitSuffix_fst_ne_nil hname, by simp⟩
  · cases h

/-- A Markdown file has a name that is no step up, with one of the suffixes of Markdown. -/
theorem getLast?_of_isMarkdown {p : Path} (h : isMarkdown p = true) :
    ∃ name, p.names.getLast? = some name ∧ name ≠ Path.up ∧
      markdownSuffixes.contains (lower (Path.splitSuffix name).2) = true := by
  unfold isMarkdown Path.suffix Path.name at h
  cases hlast : p.names.getLast? with
  | none =>
    rw [hlast] at h
    exact absurd h (by decide)
  | some name =>
    rw [hlast] at h
    refine ⟨name, rfl, ?_, h⟩
    rintro rfl
    exact absurd h (by decide)

/-- No page is written over a Markdown file. -/
theorem settle_ne_of_isMarkdown {config : Config} {source other output : Path}
    (hsource : isMarkdown source = true) (houtput : config.outputOf other = .ok output)
    (t : FileTree) : t.settle source ≠ t.settle output := by
  obtain ⟨name, hname, hup, hsuffix⟩ := getLast?_of_isMarkdown hsource
  obtain ⟨stem, hstem, hlast⟩ := Config.outputOf_getLast? houtput
  rw [FileTree.settle, FileTree.settle, Path.settle_eq_dropLast hname hup,
    Path.settle_eq_dropLast hlast (page_ne_up hstem)]
  intro h
  obtain ⟨-, heq⟩ := List.append_inj' h rfl
  obtain rfl : name = stem ++ ".html".toList := by simpa using heq
  rw [splitSuffix_page hstem] at hsuffix
  have hno : markdownSuffixes.contains (lower ".html".toList) = false := by decide
  exact Bool.false_ne_true (hno.symm.trans hsuffix)

/-- The page of a file below the source directory. -/
theorem Config.outputOf_join (config : Config) {lead : List Text} {name : Text} (h : name ≠ []) :
    config.outputOf (config.sourceDir.join { names := lead ++ [name] }) =
      .ok (config.outputDir.join
        { names := lead ++ [(Path.splitSuffix name).1 ++ ".html".toList] }) := by
  have htarget : config.outputDir.join { names := lead ++ [name] } =
      ⟨config.outputDir.root, (config.outputDir.names ++ lead) ++ [name]⟩ := by
    rw [Path.join_names, List.append_assoc]
  simp only [Config.outputOf, Path.relativeTo?_join, Option.getD_some, htarget,
    Path.withSuffix?_concat _ _ h]
  rw [Path.join_names, List.append_assoc]

end Docpress
