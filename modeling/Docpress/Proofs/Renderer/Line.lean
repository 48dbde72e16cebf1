import Docpress.Proofs.Renderer.History
import Docpress.Proofs.Renderer.Protect
/-!
Sources that Markdown reads as one paragraph: with or without a highlighter they are rendered alike,
and what the steps after Markdown do to the paragraph's tags is nothing.
-/

namespace Docpress

open Text Markdown Highlight

/-- A source without fences is rendered without asking a highlighter. -/
theorem Renderer.render_of_fenceless {r : Renderer} {source : Text}
    (h : r.fencesOf source = []) (i : Installation) (state : LoadState) :
    r.render i state source =
      { html := .ok (restore
          (writeDocument r.config.hardwrap [] (r.config.document (protect source))))
        state, logs := [], commands := [] } := by
  rw [Renderer.fencesOf] at h
  rw [Renderer.render]
  cases r.backend i with
  | none => rfl
  | some backend =>
    simp only [Renderer.renderWith, Renderer.engineWith, h, highlightAll, Except.map]

/-- A source that is one paragraph to Markdown is rendered as its pieces. -/
theorem Renderer.html_render_of_paragraph {source : Text} {spans : List Span}
    (h : Markdown.document (protect source) = Event.leaf (.paragraph false) spans) (r : Renderer)
    (i : Installation) (state : LoadState) :
    (r.render i state source).html = .ok (restore ("<p>".toList ++
      spans.flatMap (Span.write r.config.hardwrap) ++ "</p>\n".toList)) := by
  have hevents : r.config.document (protect source) = Event.leaf (.paragraph false) spans := by
    rw [MarkdownConfig.document, h]
    split <;> rfl
  have hfences : r.fencesOf source = [] := by
    rw [Renderer.fencesOf, hevents]
    rfl
  rw [Renderer.render_of_fenceless hfences, hevents, List.append_assoc]
  rfl

/-- The steps after Markdown show the slashes in a paragraph, and that is all they do if it has
    neither an ampersand nor a brace. -/
theorem restore_paragraph {s : Text} (hamp : '&' ∉ s) (hbrace : '{' ∉ s) :
    restore ("<p>".toList ++ s ++ "</p>\n".toList) =
      "<p>".toList ++ Url.showSlashes s ++ "</p>".toList := by
  have hopen : "<p>".toList = ['<', 'p'] ++ ['>'] := by decide
  have hclose : "</p>".toList = '<' :: ['/', 'p', '>'] := by decide
  have hend : "</p>\n".toList = ['<', '/', 'p'] ++ '>' :: ['\n'] := by decide
  have htrim : trimBlankEnd ("<p>".toList ++ s ++ "</p>\n".toList) =
      "<p>".toList ++ s ++ "</p>".toList := by
    rw [hend, ← List.append_assoc, trimBlankEnd, trimEnd_append_cons (by decide)
      (List.all_eq_true.1 (by decide)), hclose]
    simp
  have hnotMem : ∀ {c : Char}, c ∉ s → c ∉ "<p>".toList → c ∉ "</p>".toList →
      c ∉ "<p>".toList ++ s ++ "</p>".toList := by
    intro c hs hfirst hlast hmem
    rcases List.mem_append.1 hmem with hmem | hmem
    · exact (List.mem_append.1 hmem).elim hfirst hs
    · exact hlast hmem
  have happly : Html.decodeApostrophes ("<p>".toList ++ s ++ "</p>".toList) =
      "<p>".toList ++ s ++ "</p>".toList := by
    have hpart : "&#39;".toList = '&' :: "#39;".toList := by decide
    rw [Html.decodeApostrophes, hpart]
    exact replaceAll_of_not_hasPart (hasPart_of_notMem (hnotMem hamp (by decide) (by decide)))
  have hshow : Url.showSlashes ("<p>".toList ++ s ++ "</p>".toList) =
      "<p>".toList ++ Url.showSlashes s ++ "</p>".toList := by
    have hlast : Url.showSlashes ['/', 'p', '>'] = ['/', 'p', '>'] := by decide
    have hfirst : Url.showSlashes ['<', 'p'] = ['<', 'p'] := by decide
    rw [hclose, Url.showSlashes_append_cons (by decide), hlast, hopen, List.append_assoc,
      List.singleton_append, Url.showSlashes_append_cons (by decide), hfirst]
    simp
  have htags : '{' ∉ "<p>".toList ++ Url.showSlashes s ++ "</p>".toList := by
    have hschemes : ∀ scheme ∈ Url.hiddenSchemes, '{' ∉ scheme ++ "://".toList := by decide
    rw [← hshow]
    exact within_ne_iff.1 (Url.showSlashes_within
      (fun scheme hscheme => within_ne_iff.2 (hschemes scheme hscheme))
      (within_ne_iff.2 (hnotMem hbrace (by decide) (by decide))))
  rw [restore, htrim, happly, hshow, InlineTag.decodeQuotes]
  exact InlineTag.mapTags_of_not_hasPart (hasPart_of_notMem htags)

end Docpress
