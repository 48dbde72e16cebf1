import Docpress.Proofs.Pages.Sources
import Docpress.Proofs.Renderer.History
/-!
Writing pages one after another. Each page is the rendering of its own source, and it stays so
unless a later page goes to the same place.
-/

namespace Docpress

open Highlight FileTree

/-- A file holds the rendering of a source's text, and a line end after it. -/
def HoldsRendering (t final : FileTree) (r : Option Renderer) (i : Installation) (page : Page) :
    Prop :=
  ∃ text html, t.readText page.source = .ok text ∧ (renderMarkdown r i {} text).html = .ok html ∧
    final.readBytes page.output = .ok (Utf8.encode (html ++ ['\n']))

/-- A source has a text whose HTML is Unicode. -/
def IsUnicode (t : FileTree) (r : Option Renderer) (source : Path) : Prop :=
  ∃ text, t.readText source = .ok text ∧ isUnencodable r text = false

/-- A page cannot be placed only if it would have no name. -/
theorem Config.exists_of_outputOf_eq_error {config : Config} {source : Path} {e : PageError}
    (h : config.outputOf source = .error e) : ∃ path, e = .noName path := by
  unfold Config.outputOf at h
  dsimp only at h
  split at h
  · cases h
  · exact ⟨_, (Except.error.inj h).symm⟩

/-- Writing a page is ended, and no file is written, or the HTML is stored where its source's page
    goes. If it is no Unicode, the file is empty, and that ends the writing, too. -/
theorem writePage_cases (t : FileTree) (config : Config) (r : Option Renderer) (i : Installation)
    (state : LoadState) (source : Path) (text : Text) :
    let build := writePage t config r i state source text
    (∃ e, build.result = .error e ∧ (∀ page, e ≠ .unencodable page) ∧
      Grown (fun _ => False) t build.tree) ∨
    ∃ output html, config.outputOf source = .ok output ∧
      (renderMarkdown r i state text).html = .ok html ∧
      build.result = (if isUnencodable r text then .error (.unencodable ⟨source, output⟩)
        else .ok [⟨source, output⟩]) ∧
      build.tree.readBytes output =
        .ok (Utf8.encode (storedHtml (isUnencodable r text) html)) ∧
      Grown (· = t.settle output) t build.tree ∧
      build.state = (renderMarkdown r i state text).state := by
  unfold writePage
  cases houtput : config.outputOf source with
  | error e =>
    obtain ⟨path, rfl⟩ := Config.exists_of_outputOf_eq_error houtput
    exact .inl ⟨_, rfl, nofun, Grown.refl _ _⟩
  | ok output =>
    dsimp only
    cases hmade : t.ensureDirectories output.parent with
    | error e => exact .inl ⟨_, rfl, nofun, Grown.refl _ _⟩
    | ok made =>
      have hgrown := ensureDirectories_grown hmade
      cases hrendered : (renderMarkdown r i state text).html with
      | error e => exact .inl ⟨_, rfl, nofun, hgrown⟩
      | ok html =>
        simp only [Except.mapError, bind, Except.bind]
        cases hwritten : made.writeText output (storedHtml (isUnencodable r text) html) with
        | error e => exact .inl ⟨_, rfl, nofun, hgrown⟩
        | ok written =>
          obtain ⟨hgrown', hread⟩ := write_grown hwritten
          rw [hgrown.settle] at hgrown'
          exact .inr ⟨output, html, rfl, rfl, rfl, hread,
            (hgrown.mono fun _ => False.elim).trans hgrown', rfl⟩

/-- The page of a source whose text is known is the text's rendering, which is Unicode. -/
theorem writePage_eq_ok {t : FileTree} {config : Config} {r : Option Renderer} {i : Installation}
    {state : LoadState} {source : Path} {text : Text} {pages : List Page}
    (hs : StateReached r i state)
    (h : (writePage t config r i state source text).result = .ok pages) :
    let build := writePage t config r i state source text
    ∃ output html, pages = [⟨source, output⟩] ∧ config.outputOf source = .ok output ∧
      (renderMarkdown r i {} text).html = .ok html ∧ isUnencodable r text = false ∧
      build.tree.readBytes output = .ok (Utf8.encode (html ++ ['\n'])) ∧
      Grown (· = t.settle output) t build.tree ∧ StateReached r i build.state := by
  obtain ⟨hstate, hhtml⟩ := renderMarkdown_of_reached hs text
  rcases writePage_cases t config r i state source text with
    ⟨e, herror, -⟩ | ⟨output, html, houtput, hrendered, hpages, hread, hgrown, hafter⟩
  · cases h.symm.trans herror
  · rw [h] at hpages
    cases hunicode : isUnencodable r text with
    | true =>
      rw [hunicode] at hpages
      cases hpages
    | false =>
      rw [hunicode] at hpages hread
      obtain rfl := Except.ok.inj hpages
      exact ⟨output, html, rfl, houtput, hhtml ▸ hrendered, rfl, hread, hgrown, hafter ▸ hstate⟩

/-- The page of a source that can be read, if all goes well. -/
theorem renderPage_eq_ok {t : FileTree} {config : Config} {r : Option Renderer} {i : Installation}
    {state : LoadState} {source : Path} {content : List Nat} {pages : List Page}
    (hs : StateReached r i state) (hread : t.readBytes source = .ok content)
    (h : (renderPage t config r i state source).result = .ok pages) :
    let build := renderPage t config r i state source
    ∃ output, pages = [⟨source, output⟩] ∧ config.outputOf source = .ok output ∧
      IsUnicode t r source ∧ HoldsRendering t build.tree r i ⟨source, output⟩ ∧
      Grown (· = t.settle output) t build.tree ∧ StateReached r i build.state := by
  cases htext : textOfBytes content with
  | error e =>
    have hfail : t.readText source = .error (.encoding e) := by
      simp [FileTree.readText, hread, htext]
    simp [renderPage, hfail, Build.stop] at h
  | ok text =>
    have hsource : t.readText source = .ok text := by
      simp [FileTree.readText, hread, htext]
    have hpage : renderPage t config r i state source =
        writePage t config r i state source text := by
      simp [renderPage, hsource]
    rw [hpage] at h ⊢
    obtain ⟨output, html, hpages, houtput, hhtml, hunicode, hwritten, hgrown, hstate⟩ :=
      writePage_eq_ok hs h
    have hholds : HoldsRendering t (writePage t config r i state source text).tree r i
        ⟨source, output⟩ := ⟨text, html, hsource, hhtml, hwritten⟩
    exact ⟨output, hpages, houtput, ⟨text, hsource, hunicode⟩, hholds, hgrown, hstate⟩

/-- A text is read as before if its file is not written. -/
theorem FileTree.Grown.readText {written : Place → Prop} {t t' : FileTree} (hg : Grown written t t')
    {p : Path} {content : List Nat} (h : t.readBytes p = .ok content)
    (hnot : ¬ written (t.settle p)) : t'.readText p = t.readText p := by
  simp [FileTree.readText, h, hg.readBytes h hnot]

/-- Files can still be read after others are written. -/
theorem FileTree.Grown.exists_readBytes {written : Place → Prop} {t t' : FileTree}
    (hg : Grown written t t') {paths : List Path}
    (hread : ∀ p ∈ paths, ∃ content, t.readBytes p = .ok content)
    (hnot : ∀ p ∈ paths, ¬ written (t.settle p)) :
    ∀ p ∈ paths, ∃ content, t'.readBytes p = .ok content := fun p hp => by
  obtain ⟨content, hcontent⟩ := hread p hp
  exact ⟨content, hg.readBytes hcontent (hnot p hp)⟩

/-- A page keeps its rendering while files at other places are written. -/
theorem HoldsRendering.mono {written : Place → Prop} {t final final' : FileTree}
    {r : Option Renderer} {i : Installation} {page : Page}
    (h : HoldsRendering t final r i page) (hg : Grown written final final')
    (hnot : ¬ written (final.settle page.output)) : HoldsRendering t final' r i page := by
  obtain ⟨text, html, htext, hhtml, hwritten⟩ := h
  exact ⟨text, html, htext, hhtml, hg.readBytes hwritten hnot⟩

/-- What holds of each element and those after it holds of the first one, and of the others. -/
theorem forall_eq_append_cons {α : Type} {P : α → List α → Prop} {a : α} {l : List α} :
    (∀ lead b later, a :: l = lead ++ b :: later → P b later) ↔
      P a l ∧ ∀ lead b later, l = lead ++ b :: later → P b later := by
  constructor
  · intro h
    exact ⟨h [] a l rfl, fun lead b later hl => h (a :: lead) b later (congrArg (a :: ·) hl)⟩
  · rintro ⟨hfirst, hrest⟩ lead b later heq
    cases lead with
    | nil =>
      obtain ⟨rfl, rfl⟩ := List.cons.inj heq
      exact hfirst
    | cons c lead => exact hrest lead b later (List.cons.inj heq).2

/-- There is one page for each source, in order, and its HTML is Unicode. Only files of pages are
    written, and each page holds its rendering in the end unless a later one goes to the same
    place. -/
structure RendersAll (config : Config) (r : Option Renderer) (i : Installation) (t final : FileTree)
    (sources : List Path) (pages : List Page) : Prop where
  sources : pages.map Page.source = sources
  outputs : ∀ page ∈ pages, config.outputOf page.source = .ok page.output
  unicode : ∀ page ∈ pages, IsUnicode t r page.source
  grown : Grown (fun place => ∃ page ∈ pages, place = t.settle page.output) t final
  holds : ∀ lead page later, pages = lead ++ page :: later →
    (∀ other ∈ later, t.settle other.output ≠ t.settle page.output) →
      HoldsRendering t final r i page

/-- A page, and those of the sources after it, none of which it is written over. -/
theorem RendersAll.cons {config : Config} {r : Option Renderer} {i : Installation}
    {t made final : FileTree} {source output : Path} {rest : List Path} {more : List Page}
    (houtput : config.outputOf source = .ok output) (hunicode : IsUnicode t r source)
    (hholds : HoldsRendering t made r i ⟨source, output⟩)
    (hgrown : Grown (· = t.settle output) t made)
    (hread : ∀ other ∈ rest, ∃ content, t.readBytes other = .ok content)
    (hkept : ∀ other ∈ rest, t.settle other ≠ t.settle output)
    (h : RendersAll config r i made final rest more) :
    RendersAll config r i t final (source :: rest) (⟨source, output⟩ :: more) := by
  obtain ⟨hsources, houtputs, hunicodes, hgrown', hrest⟩ := h
  simp only [hgrown.settle] at hgrown' hrest
  have hsame : ∀ page ∈ more, made.readText page.source = t.readText page.source := by
    intro page hpage
    have hmem : page.source ∈ rest := hsources ▸ List.mem_map_of_mem hpage
    obtain ⟨content, hcontent⟩ := hread page.source hmem
    exact hgrown.readText hcontent (hkept page.source hmem)
  refine ⟨by simp [hsources], List.forall_mem_cons.2 ⟨houtput, houtputs⟩,
    List.forall_mem_cons.2 ⟨hunicode, fun page hpage => ?_⟩, ?_,
    forall_eq_append_cons.2 ⟨fun hlater => ?_, fun lead page later hpages hlater => ?_⟩⟩
  · obtain ⟨text, htext, hunicode'⟩ := hunicodes page hpage
    exact ⟨text, (hsame page hpage).symm.trans htext, hunicode'⟩
  · refine (hgrown.mono ?_).trans (hgrown'.mono ?_)
    · rintro place rfl
      exact ⟨⟨source, output⟩, by simp, rfl⟩
    · rintro place ⟨page, hpage, rfl⟩
      exact ⟨page, List.mem_cons_of_mem _ hpage, rfl⟩
  · refine hholds.mono hgrown' ?_
    rw [hgrown.settle]
    rintro ⟨other, hother, heq⟩
    exact hlater other hother heq.symm
  · obtain ⟨text, html, htext, hrendered⟩ := hrest lead page later hpages hlater
    rw [hsame page (by simp [hpages])] at htext
    exact ⟨text, html, htext, hrendered⟩

/-- The pages of sources that can be read and that no page is written over. -/
theorem renderPages_eq_ok {t : FileTree} {config : Config} {r : Option Renderer}
    {i : Installation} {state : LoadState} {sources : List Path} {pages : List Page}
    (hs : StateReached r i state)
    (hread : ∀ source ∈ sources, ∃ content, t.readBytes source = .ok content)
    (hapart : ∀ source ∈ sources, ∀ other ∈ sources, ∀ output,
      config.outputOf other = .ok output → t.settle source ≠ t.settle output)
    (h : (renderPages config r i t state sources).result = .ok pages) :
    RendersAll config r i t (renderPages config r i t state sources).tree sources pages := by
  induction sources generalizing t state pages with
  | nil =>
    cases h
    exact ⟨rfl, by simp, by simp, Grown.refl _ _, by simp⟩
  | cons source rest ih =>
    obtain ⟨⟨content, hcontent⟩, hreadRest⟩ := List.forall_mem_cons.1 hread
    simp only [renderPages] at h ⊢
    cases hfirst : (renderPage t config r i state source).result with
    | error e => simp [hfirst] at h
    | ok first =>
      obtain ⟨output, rfl, houtput, hunicode, hholds, hgrown, hstate⟩ :=
        renderPage_eq_ok hs hcontent hfirst
      simp only [hfirst] at h ⊢
      generalize renderPage t config r i state source = build at *
      cases hmore : (renderPages config r i build.tree build.state rest).result with
      | error e => simp [hmore, Except.map] at h
      | ok more =>
        simp only [hmore, Except.map, Except.ok.injEq, List.singleton_append] at h
        subst h
        -- The files that are still to be read are not those that were written.
        have hkept : ∀ other ∈ rest, t.settle other ≠ t.settle output := fun other hother =>
          hapart other (List.mem_cons_of_mem _ hother) source (by simp) output houtput
        have hapartRest : ∀ one ∈ rest, ∀ other ∈ rest, ∀ out, config.outputOf other = .ok out →
            build.tree.settle one ≠ build.tree.settle out := by
          intro one hone other hother
          simpa only [hgrown.settle] using hapart one (List.mem_cons_of_mem _ hone) other
            (List.mem_cons_of_mem _ hother)
        exact .cons houtput hunicode hholds hgrown hreadRest hkept
          (ih hstate (hgrown.exists_readBytes hreadRest hkept) hapartRest hmore)

end Docpress
