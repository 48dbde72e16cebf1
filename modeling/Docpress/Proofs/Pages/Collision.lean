import Docpress.Proofs.Pages.Run
/-!
Pages that share an output. The files of a source directory have pages of their own exactly if no
two of them differ in their suffixes only; of those that do, the last one's page is kept.
-/

namespace Docpress

open Highlight FileTree

/-- Names that hold no step up lead down from the place of a directory. -/
theorem FileTree.settle_join (t : FileTree) (dir : Path) {names : List Text}
    (h : Path.up ∉ names) : t.settle (dir.join { names }) = t.settle dir ++ names := by
  change Path.settle (t.start dir) (dir.names ++ names) = _
  rw [Path.settle_append, Path.settle_of_up_notMem h]
  rfl

/-- The outputs of two files below the source directory. -/
theorem outputs_of_sources {t : FileTree} (ht : t.WellFormed) {config : Config}
    {source other output output' : Path} (hsource : source ∈ (collectSources t config.sourceDir).1)
    (hother : other ∈ (collectSources t config.sourceDir).1)
    (houtput : config.outputOf source = .ok output)
    (houtput' : config.outputOf other = .ok output') :
    (output = output' ↔ source.withSuffix? [] = other.withSuffix? []) ∧
      (t.settle output = t.settle output' → output = output') := by
  obtain ⟨lead, name, content, rfl, hname, hup, -⟩ := ht.readBytes_source hsource
  obtain ⟨lead', name', content', rfl, hname', hup', -⟩ := ht.readBytes_source hother
  rw [config.outputOf_join hname, Except.ok.injEq] at houtput
  rw [config.outputOf_join hname', Except.ok.injEq] at houtput'
  subst houtput houtput'
  have hconcat : ∀ {front : List Text} {a b : List Text} {x y : Text},
      front ++ (a ++ [x]) = front ++ (b ++ [y]) ↔ a = b ∧ x = y := by
    intro front a b x y
    constructor
    · intro h
      obtain ⟨hfront, hlast⟩ := List.append_inj' (List.append_cancel_left h) rfl
      exact ⟨hfront, by simpa using hlast⟩
    · rintro ⟨rfl, rfl⟩
      rfl
  constructor
  · rw [Path.join_names, Path.join_names, Path.join_names, Path.join_names, Path.mk.injEq,
      ← List.append_assoc config.sourceDir.names, ← List.append_assoc config.sourceDir.names,
      Path.withSuffix?_concat _ _ hname, Path.withSuffix?_concat _ _ hname', Option.some.injEq,
      Path.mk.injEq, List.append_assoc, List.append_assoc, hconcat, hconcat]
    simp
  · have hpage : ∀ {front : List Text} {n : Text}, Path.up ∉ front → n ≠ [] →
        Path.up ∉ front ++ [(Path.splitSuffix n).1 ++ ".html".toList] := by
      intro front n hfront hn hmem
      rcases List.mem_append.1 hmem with hmem | hmem
      · exact hfront hmem
      · exact page_ne_up (Path.splitSuffix_fst_ne_nil hn) (List.mem_singleton.1 hmem).symm
    rw [settle_join _ _ (hpage hup hname), settle_join _ _ (hpage hup' hname'), hconcat]
    rintro ⟨hlead, hname⟩
    rw [hlead, hname]

/-- The pages of a source directory. There is one for each Markdown file below it, in order, and
    its output finally holds the rendering of that file's text if no later page has the same
    output. So no page is lost, that is, outputs are distinct and each holds its own rendering,
    exactly if no two files differ in their suffixes only. -/
theorem writePages_lossless_iff {t : FileTree} (ht : t.WellFormed) {config : Config}
    {i : Installation} {pages : List Page}
    (h : (writePages t config none i).result = .ok pages) :
    let final := (writePages t config none i).tree
    let r := (Renderer.ofConfig config.markdown).1
    let sources := (collectSources t config.sourceDir).1
    pages.map Page.source = sources ∧
      (∀ lead page later, pages = lead ++ page :: later →
        (∀ other ∈ later, other.output ≠ page.output) → HoldsRendering t final r i page) ∧
      (((pages.map Page.output).Nodup ∧ ∀ page ∈ pages, HoldsRendering t final r i page) ↔
        ∀ source ∈ sources, ∀ other ∈ sources,
          source.withSuffix? [] = other.withSuffix? [] → source = other) := by
  intro final r sources
  have hread : ∀ source ∈ sources, ∃ content, t.readBytes source = .ok content := by
    intro source hsource
    obtain ⟨-, -, content, -, -, -, hcontent⟩ := ht.readBytes_source hsource
    exact ⟨content, hcontent⟩
  have hapart : ∀ source ∈ sources, ∀ other ∈ sources, ∀ output,
      config.outputOf other = .ok output → t.settle source ≠ t.settle output := by
    intro source hsource other _ output houtput
    obtain ⟨_, _, _, _, _, hsuffix⟩ := mem_collectSources.1 hsource
    exact settle_ne_of_isMarkdown hsuffix houtput t
  have hrun : (renderPages config r i t {} sources).result = .ok pages := h
  obtain ⟨hsources, houtputs, -, -, hholds⟩ :=
    renderPages_eq_ok (stateReached_initial r i) hread hapart hrun
  have hmem : ∀ page ∈ pages, page.source ∈ sources := fun page hpage =>
    hsources ▸ List.mem_map_of_mem hpage
  have hlast : ∀ lead page later, pages = lead ++ page :: later →
      (∀ other ∈ later, other.output ≠ page.output) → HoldsRendering t final r i page := by
    intro lead page later hpages hlater
    have hpage : page ∈ pages := by simp [hpages]
    refine hholds lead page later hpages fun other hother heq => ?_
    have hother' : other ∈ pages := by simp [hpages, hother]
    exact hlater other hother ((outputs_of_sources ht (hmem other hother') (hmem page hpage)
      (houtputs other hother') (houtputs page hpage)).2 heq)
  refine ⟨hsources, hlast, ?_, ?_⟩
  · rintro ⟨hdistinct, -⟩ source hsource other hother hsame
    rw [← hsources, List.mem_map] at hsource hother
    obtain ⟨page, hpage, rfl⟩ := hsource
    obtain ⟨page', hpage', rfl⟩ := hother
    have houtput : page.output = page'.output :=
      (outputs_of_sources ht (hmem page hpage) (hmem page' hpage') (houtputs page hpage)
        (houtputs page' hpage')).1.2 hsame
    rw [List.inj_on_of_nodup_map hdistinct hpage hpage' houtput]
  · intro hapart'
    have hdistinct : (pages.map Page.output).Nodup := by
      have hnodup : (pages.map Page.source).Nodup :=
        hsources ▸ nodup_collectSources ht config.sourceDir
      refine List.Nodup.map_on ?_ (List.Nodup.of_map _ hnodup)
      intro page hpage page' hpage' houtput
      refine List.inj_on_of_nodup_map hnodup hpage hpage' ?_
      exact hapart' _ (hmem page hpage) _ (hmem page' hpage')
        ((outputs_of_sources ht (hmem page hpage) (hmem page' hpage') (houtputs page hpage)
          (houtputs page' hpage')).1.1 houtput)
    refine ⟨hdistinct, fun page hpage => ?_⟩
    obtain ⟨lead, later, rfl⟩ := List.append_of_mem hpage
    refine hlast lead page later rfl fun other hother heq => ?_
    rw [List.map_append, List.map_cons] at hdistinct
    have hnotMem := (List.nodup_cons.1 (List.nodup_append.1 hdistinct).2.1).1
    exact hnotMem (heq ▸ List.mem_map_of_mem hother)

/-- A source directory with a file in a directory of its own. -/
def manual : FileTree :=
  { entries := [(["docs".toList], .directory), (["docs".toList, "guides".toList], .directory),
      (["docs".toList, "guides".toList, "setup.markdown".toList],
        .file (Utf8.encode "*run*".toList)),
      (["docs".toList, "index.md".toList], .file (Utf8.encode "# Title".toList))] }

/-- The files of the manual have pages of their own. -/
theorem writePages_lossless_manual :
    manual.WellFormed ∧ ∃ pages, (writePages manual {} none ⟨none, none⟩).result = .ok pages ∧
      (pages.map Page.output).Nodup ∧
      ∀ page ∈ pages, HoldsRendering manual (writePages manual {} none ⟨none, none⟩).tree
        (Renderer.ofConfig {}).1 ⟨none, none⟩ page := by
  have ht : manual.WellFormed := ⟨by decide, by decide, by decide, rfl⟩
  have hlocate : manual.locate (Path.ofText "docs".toList) = .ok ["docs".toList] := by
    decide
  have hsources : (collectSources manual (Path.ofText "docs".toList)).1 =
      [Path.ofText "docs/guides/setup.markdown".toList, Path.ofText "docs/index.md".toList] :=
    collectSources_eq_of_pairwise hlocate (by decide) (by decide)
  have hresult : (writePages manual {} none ⟨none, none⟩).result =
      .ok [⟨Path.ofText "docs/guides/setup.markdown".toList,
          Path.ofText "out/guides/setup.html".toList⟩,
        ⟨Path.ofText "docs/index.md".toList, Path.ofText "out/index.html".toList⟩] := by
    change (renderPages {} (Renderer.ofConfig {}).1 ⟨none, none⟩ manual {}
      (collectSources manual (Path.ofText "docs".toList)).1).result = _
    rw [hsources]
    decide +kernel
  refine ⟨ht, _, hresult, ?_⟩
  refine (writePages_lossless_iff ht hresult).2.2.2 ?_
  change ∀ source ∈ (collectSources manual (Path.ofText "docs".toList)).1,
    ∀ other ∈ (collectSources manual (Path.ofText "docs".toList)).1, _
  rw [hsources]
  decide

/-- Two files of one name, with the two suffixes of Markdown. -/
def twins : FileTree :=
  { entries := [(["docs".toList], .directory),
      (["docs".toList, "a.markdown".toList], .file (Utf8.encode "two".toList)),
      (["docs".toList, "a.md".toList], .file (Utf8.encode "one".toList))] }

/-- Both of the two files have the same output, which holds the rendering of the second one in the
    end: the page of the first is lost. -/
theorem writePages_twins_lost :
    twins.WellFormed ∧ ∃ pages, (writePages twins {} none ⟨none, none⟩).result = .ok pages ∧
      (writePages twins {} none ⟨none, none⟩).tree.readBytes (Path.ofText "out/a.html".toList) =
        .ok (Utf8.encode "<p>one</p>\n".toList) ∧
      ¬ ((pages.map Page.output).Nodup ∧
        ∀ page ∈ pages, HoldsRendering twins (writePages twins {} none ⟨none, none⟩).tree
          (Renderer.ofConfig {}).1 ⟨none, none⟩ page) := by
  have hlocate : twins.locate (Path.ofText "docs".toList) = .ok ["docs".toList] := by
    decide
  have hsources : (collectSources twins (Path.ofText "docs".toList)).1 =
      [Path.ofText "docs/a.markdown".toList, Path.ofText "docs/a.md".toList] :=
    collectSources_eq_of_pairwise hlocate (by decide) (by decide)
  have hresult : (writePages twins {} none ⟨none, none⟩).result =
      .ok [⟨Path.ofText "docs/a.markdown".toList, Path.ofText "out/a.html".toList⟩,
        ⟨Path.ofText "docs/a.md".toList, Path.ofText "out/a.html".toList⟩] := by
    change (renderPages {} (Renderer.ofConfig {}).1 ⟨none, none⟩ twins {}
      (collectSources twins (Path.ofText "docs".toList)).1).result = _
    rw [hsources]
    decide
  refine ⟨⟨by decide, by decide, by decide, rfl⟩, _, hresult, ?_, ?_⟩
  · change (renderPages {} (Renderer.ofConfig {}).1 ⟨none, none⟩ twins {}
      (collectSources twins (Path.ofText "docs".toList)).1).tree.readBytes _ = _
    rw [hsources]
    decide
  · rintro ⟨hdistinct, -⟩
    exact absurd hdistinct (by decide)

end Docpress
