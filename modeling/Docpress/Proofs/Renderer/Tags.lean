import Docpress.Proofs.InlineTag.Tag
import Docpress.Proofs.Markdown.Written
import Docpress.Proofs.Renderer.Restore
/-!
The tags of a rendered document. Without a `<` in the source Markdown writes well-formed HTML; the
steps after it give a tag more quotes, and so close an attribute early, exactly if an inline tag
with an encoded quote lies in the tag or reaches into it.
-/

namespace Docpress

open InlineTag Html Markdown Highlight

/-! ### The source that Markdown is given -/

theorem InlineTag.escapeUnderscores_within {p : Char → Prop} (hp : p '\\') {s : Text}
    (hs : Text.Within p s) : Text.Within p (escapeUnderscores s) := by
  refine Text.Within.substitute (fun s new more hs hfind => ?_) hs
  obtain ⟨tag, htag, heq⟩ := Option.map_eq_some_iff.1 hfind
  obtain ⟨rfl, -⟩ := Prod.mk.inj heq
  obtain ⟨body, rest, -, -, -, rfl⟩ := lead?_eq_some htag
  exact guardUnderscores_within hp false (hs.of_subset (List.subset_append_left tag rest))

theorem Url.substitute_separatorTo_within {p : Char → Prop} {new : Text} {separators : List Text}
    (hp : ∀ scheme ∈ hiddenSchemes, Text.Within p (scheme ++ new)) {s : Text}
    (hs : Text.Within p s) : Text.Within p (Text.substitute (separatorTo new separators) s) := by
  refine Text.Within.substitute (fun s out more _ hfind => ?_) hs
  obtain ⟨scheme, hscheme, separator, -, rest, -, rfl, -⟩ := separatorTo_eq_some hfind
  exact hp scheme hscheme

theorem Url.hideSlashes_within {p : Char → Prop}
    (hp : ∀ scheme ∈ hiddenSchemes, Text.Within p (scheme ++ hiddenSlashes)) {s : Text}
    (hs : Text.Within p s) : Text.Within p (hideSlashes s) :=
  substitute_separatorTo_within hp hs

theorem Url.showSlashes_within {p : Char → Prop}
    (hp : ∀ scheme ∈ hiddenSchemes, Text.Within p (scheme ++ "://".toList)) {s : Text}
    (hs : Text.Within p s) : Text.Within p (showSlashes s) :=
  substitute_separatorTo_within hp hs

/-- Protecting a source brings no `<` into it. -/
theorem notMem_protect {source : Text} (h : '<' ∉ source) : '<' ∉ protect source := by
  have hschemes : ∀ scheme ∈ Url.hiddenSchemes, '<' ∉ scheme ++ Url.hiddenSlashes := by decide
  have hescaped := escapeUnderscores_within (by decide) (Text.within_ne_iff.2 h)
  exact Text.within_ne_iff.1 (Url.hideSlashes_within
    (fun scheme hscheme => Text.within_ne_iff.2 (hschemes scheme hscheme)) hescaped)

/-! ### The HTML -/

/-- Without a highlighter Markdown is rendered without failure. -/
theorem Renderer.engine_of_off {r : Renderer} (hoff : r.highlighter = none) (i : Installation)
    (state : LoadState) (text : Text) :
    (r.engine i state text).html =
      .ok (writeDocument r.config.hardwrap [] (r.config.document text)) := by
  rw [Renderer.engine, Renderer.backend, hoff]
  rfl

/-- The last steps are taken on what Markdown has written. -/
theorem Renderer.html_render (r : Renderer) (i : Installation) (state : LoadState)
    (source : Text) :
    (r.render i state source).html = (r.engine i state (protect source)).html.map restore :=
  rfl

/-- What holds of the events of a document holds of them with identifiers, which are names. -/
theorem MarkdownConfig.document_forall (config : MarkdownConfig) {P : Event (List Span) → Prop}
    (hheading : ∀ level {name}, Text.Within IsNameChar name →
      P (.start (.heading level (some name))))
    {text : Text} (h : ∀ e ∈ Markdown.document text, P e) : ∀ e ∈ config.document text, P e := by
  unfold MarkdownConfig.document
  dsimp only
  split
  · exact identifyHeadings_forall hheading h
  · exact h

theorem writeDocument_isMarkup (config : MarkdownConfig) {text : Text} (h : '<' ∉ text) :
    IsMarkup (writeDocument config.hardwrap [] (config.document text)) := by
  have hevents : ∀ e ∈ config.document text, e.IsSound :=
    config.document_forall (fun _ _ _ => trivial) (document_isSound h)
  exact writeEvents_isMarkup _ false hevents

/-- A source without a `<` is rendered to well-formed HTML before the last steps. These keep its
    tags and take no quote from any of them, and they leave the number of quotes in every tag as it
    is exactly if no encoded quote lies both in a tag and in an inline tag. -/
theorem Renderer.quoteCounts_render_iff {r : Renderer} (hoff : r.highlighter = none)
    (i : Installation) (state : LoadState) {source : Text} (hsource : '<' ∉ source) :
    ∃ html, (r.engine i state (protect source)).html = .ok html ∧
      (r.render i state source).html = .ok (restore html) ∧ IsMarkup html ∧
      List.Forall₂ (· ≤ ·) (quoteCounts html) (quoteCounts (restore html)) ∧
      (quoteCounts (restore html) = quoteCounts html ↔
        ¬ ∃ before after, html = before ++ "&quot;".toList ++ after ∧ InRegion before after ∧
          Encloses before after) := by
  have hengine := Renderer.engine_of_off hoff i state (protect source)
  refine ⟨_, hengine, ?_, writeDocument_isMarkup r.config (notMem_protect hsource), ?_, ?_⟩
  · rw [Renderer.html_render, hengine]
    rfl
  · exact quoteCounts_le_restore _
  · exact quoteCounts_restore_iff _

/-- The quotes of an inline tag in running text are decoded, and those of a title stay encoded. -/
theorem Renderer.quoteCounts_render_prose :
    let r : Renderer := ⟨{}, .marked, none⟩
    let source := "\x7b@link \"a/b\"\x7d [x](u 'say \"hi\"')".toList
    let link := "<a href=\"u\" title=\"say &quot;hi&quot;\">x</a></p>".toList
    let html := "<p>\x7b@link &quot;a/b&quot;\x7d ".toList ++ link ++ ['\n']
    r.highlighter = none ∧ '<' ∉ source ∧
      (r.render ⟨none, none⟩ {} source).html = .ok ("<p>\x7b@link \"a/b\"\x7d ".toList ++ link) ∧
      IsMarkup html ∧ quoteCounts html = [0, 4, 0, 0] ∧
      ¬ ∃ before after, html = before ++ "&quot;".toList ++ after ∧ InRegion before after ∧
        Encloses before after := by
  intro r source link html
  have hoff : r.highlighter = none := rfl
  have hsource : '<' ∉ source := by decide
  obtain ⟨html', hengine, hrender, hmarkup, -, hiff⟩ :=
    Renderer.quoteCounts_render_iff hoff ⟨none, none⟩ {} hsource
  have hwritten : writeDocument false [] (r.config.document (protect source)) = html := by
    decide +kernel
  have hhtml : html' = html := by
    rw [Renderer.engine_of_off hoff] at hengine
    exact (Except.ok.inj hengine).symm.trans hwritten
  rw [hhtml] at hrender hmarkup hiff
  have hrestored : restore html = "<p>\x7b@link \"a/b\"\x7d ".toList ++ link := by
    decide +kernel
  have hcounts : quoteCounts html = [0, 4, 0, 0] := by decide +kernel
  refine ⟨hoff, hsource, ?_, hmarkup, hcounts, hiff.1 ?_⟩
  · rw [hrender, hrestored]
  · rw [hrestored, hcounts]
    decide +kernel

/-- An inline tag in the description of an image is copied to an attribute, and its decoded quotes
    close the attribute early. -/
theorem Renderer.render_spoils_description :
    let r : Renderer := ⟨{}, .marked, none⟩
    let source := "![\x7b@a \"b\"\x7d](u)".toList
    let html := "<p><img src=\"u\" alt=\"\x7b@a &quot;b&quot;\x7d\" /></p>\n".toList
    r.highlighter = none ∧ '<' ∉ source ∧
      (r.engine ⟨none, none⟩ {} (protect source)).html = .ok html ∧
      (r.render ⟨none, none⟩ {} source).html =
        .ok "<p><img src=\"u\" alt=\"\x7b@a \"b\"\x7d\" /></p>".toList ∧
      quoteCounts html = [0, 4, 0] ∧ quoteCounts (restore html) = [0, 6, 0] := by
  intro r source html
  have hwritten : writeDocument false [] (r.config.document (protect source)) = html := by
    decide +kernel
  have hengine : (r.engine ⟨none, none⟩ {} (protect source)).html = .ok html := by
    rw [Renderer.engine_of_off rfl]
    exact congrArg Except.ok hwritten
  have hrestored : restore html = "<p><img src=\"u\" alt=\"\x7b@a \"b\"\x7d\" /></p>".toList := by
    decide +kernel
  refine ⟨rfl, by decide, hengine, ?_, by decide +kernel, by decide +kernel⟩
  rw [Renderer.html_render, hengine]
  exact congrArg Except.ok hrestored

end Docpress
