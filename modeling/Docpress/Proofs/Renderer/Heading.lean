import Docpress.Proofs.Html.Anchor
import Docpress.Proofs.Markdown.Composed
import Docpress.Proofs.Renderer.History
/-!
Giving headings identifiers. The option reaches the tags of headings alone, so two renderers that
differ in it read and highlight alike, and their HTML differs in the identifiers, which the steps
after Markdown keep as they are.
-/

namespace Docpress

open Text Markdown Highlight Html

namespace Markdown

variable {headings : List Heading} {plain named : List (Event (List Span))}

/-! ### Writing with identifiers and without -/

/-- Whether a line ends before what follows does not depend on identifiers. -/
theorem Identified.endsLine_eq (h : Identified headings plain named) (e : Element) :
    endsLine e named = endsLine e plain := by
  cases h with
  | nil => rfl
  | heading => rfl
  | @other _ event => cases event <;> rfl

theorem Identified.fences_eq (h : Identified headings plain named) :
    fences named = fences plain := by
  induction h with
  | nil => rfl
  | heading _ _ _ ih => exact ih
  | @other _ event _ _ _ _ ih =>
    cases event with
    | fence info content => exact congrArg ((fenceLanguage info, content) :: ·) ih
    | _ => exact ih

/-- The opening tag of an element, without the line end that may follow it. -/
def Element.openTag (e : Element) : Text :=
  '<' :: e.tag ++ e.attributes ++ ['>']

theorem Heading.openTag_eq (h : Heading) : h.openTag = (Element.heading h.level none).openTag := by
  have hnone : (Element.heading h.level none).attributes = [] := rfl
  rw [Element.openTag, hnone, List.append_nil]
  rfl

theorem Heading.anchoredTag_eq {h : Heading} (hname : Within IsNameChar h.id) :
    h.anchoredTag = (Element.heading h.level (some h.id)).openTag := by
  have hid : (Element.heading h.level (some h.id)).attributes =
      " id=\"".toList ++ h.id ++ ['"'] := by
    have hlead : ' ' :: "id".toList ++ "=\"".toList = " id=\"".toList := by decide
    change attr "id" h.id = _
    rw [attr, escape_of_isName hname]
    exact congrArg (· ++ h.id ++ ['"']) hlead
  have htag : (Element.heading h.level (some h.id)).tag = 'h' :: Text.ofNat h.level := rfl
  rw [Element.openTag, hid, htag, Heading.anchoredTag]
  simp only [List.cons_append, List.append_assoc]

/-- A heading and its running text, with an identifier or without. -/
theorem writeEvents_heading (breaks hidden : Bool) (replies : List Text) (level : Nat)
    (id : Option Text) (spans : List Span) (rest : List (Event (List Span))) :
    writeEvents breaks hidden replies (.start (.heading level id) :: .inline spans :: rest) =
      (if hidden then ['\n'] else []) ++ (Element.heading level id).openTag ++
        (spans.flatMap (Span.write breaks) ++ writeEvents breaks false replies rest) := by
  simp [writeEvents, endsLine, Element.isHidden, Element.openTag]

/-- Events that differ in the identifiers of headings are written as texts that differ in them. -/
theorem writeEvents_anchored (h : Identified headings plain named)
    (hnames : ∀ h ∈ headings, Within IsNameChar h.id) (breaks hidden : Bool)
    (replies : List Text) :
    Anchored headings (writeEvents breaks hidden replies named)
      (writeEvents breaks hidden replies plain) := by
  induction h generalizing hidden replies with
  | nil => exact .same _
  | heading _ _ _ ih =>
    obtain ⟨hname, hnames⟩ := List.forall_mem_cons.1 hnames
    rw [writeEvents_heading, writeEvents_heading, ← Heading.openTag_eq,
      ← Heading.anchoredTag_eq hname]
    exact .heading _ hname ((ih hnames false replies).prepend _)
  | @other headings event plain named _ hrest ih =>
    have ih := ih hnames
    cases event with
    | start e =>
      rw [writeEvents, writeEvents, hrest.endsLine_eq]
      exact (ih _ _).prepend _
    | _ => exact (ih _ _).prepend _

end Markdown

/-! ### Rendering -/

/-- The steps after Markdown keep identifiers where they are. -/
theorem restore_anchored {headings : List Heading} {anchored plain : Text}
    (h : Anchored headings anchored plain) :
    Anchored headings (restore anchored) (restore plain) :=
  h.trimBlankEnd.decodeApostrophes.showSlashes.decodeQuotes

/-- Two renderers whose events differ in identifiers fail alike, or their HTML differs in
    identifiers. -/
theorem Renderer.html_renderWith_anchored {on off : Renderer} {source : Text}
    {headings : List Heading} (hwrap : on.config.hardwrap = off.config.hardwrap)
    (hidentified : Identified headings (off.config.document (protect source))
      (on.config.document (protect source)))
    (hnames : ∀ h ∈ headings, Within IsNameChar h.id) (backend : Option Backend)
    (state : LoadState) :
    (∃ e, (on.renderWith backend state source).html = .error e ∧
        (off.renderWith backend state source).html = .error e) ∨
      ∃ html html', (on.renderWith backend state source).html = .ok html ∧
        (off.renderWith backend state source).html = .ok html' ∧
        Anchored headings html html' := by
  have hwritten (replies : List Text) :=
    restore_anchored (writeEvents_anchored hidentified hnames off.config.hardwrap false replies)
  simp only [Renderer.renderWith, Renderer.engineWith, hwrap]
  cases backend with
  | none => exact .inr ⟨_, _, rfl, rfl, hwritten []⟩
  | some b =>
    dsimp only
    rw [hidentified.fences_eq]
    cases (highlightAll b state (fences (off.config.document (protect source)))).result with
    | error e => exact .inl ⟨e, rfl, rfl⟩
    | ok replies => exact .inr ⟨_, _, rfl, rfl, hwritten replies⟩

/-- What a renderer with identifiers in headings makes of each of its sources: the headings of the
    source have in turn the first slug that no heading before them has, so no two have the same;
    the identifiers are made of word characters and hyphens; and the HTML is that of a new renderer
    without the option, but for the identifiers in the tags of the headings, or both fail alike. -/
theorem Renderer.renderAll_idInHeadings {config : MarkdownConfig} {on off : Renderer}
    (hon : (Renderer.ofConfig { config with idInHeadings := true }).1 = some on)
    (hoff : (Renderer.ofConfig { config with idInHeadings := false }).1 = some off)
    (i : Installation) (sources : List Text) :
    (on.renderAll (on.backend i) {} sources).length = sources.length ∧
      ∀ (k : Nat) (source : Text), sources[k]? = some source →
        ∃ rendering headings, (on.renderAll (on.backend i) {} sources)[k]? = some rendering ∧
          Identified headings (off.config.document (protect source))
            (on.config.document (protect source)) ∧
          (∀ earlier h later, headings = earlier ++ h :: later →
            Slug.IsFirstFree (earlier.map Heading.id) (Slug.ofTitle h.title) h.id) ∧
          (headings.map Heading.id).Nodup ∧
          (∀ h ∈ headings, 1 ≤ h.level ∧ h.level ≤ 6 ∧ Within IsNameChar h.id) ∧
          ((∃ e, rendering.html = .error e ∧ (off.render i {} source).html = .error e) ∨
            ∃ html html', rendering.html = .ok html ∧ (off.render i {} source).html = .ok html' ∧
              Anchored headings html html') := by
  rw [Renderer.fst_ofConfig, Option.map_eq_some_iff] at hon hoff
  obtain ⟨parser, -, hon⟩ := hon
  obtain ⟨parser', -, hoff⟩ := hoff
  have hwrap : on.config.hardwrap = off.config.hardwrap := by rw [← hon, ← hoff]
  have hbackend : off.backend i = on.backend i := by
    rw [← hon, ← hoff]
    rfl
  have hplain (text : Text) : off.config.document text = document text := by
    rw [← hoff]
    rfl
  have hnamed (text : Text) : on.config.document text = identifyHeadings [] (document text) := by
    rw [← hon]
    rfl
  refine ⟨Renderer.length_renderAll _ _ _ _, fun k source hk => ?_⟩
  obtain ⟨headings, hidentified, hfree⟩ :=
    identifyHeadings_identified (document_headed (protect source)) []
  rw [← hnamed, ← hplain] at hidentified
  refine ⟨_, headings, Renderer.renderAll_getElem? _ _ _ _ _ _ hk, hidentified, ?_,
    hfree.nodup, fun h hh => ?_, ?_⟩
  · rintro earlier h later rfl
    simpa using hfree.isFirstFree
  · obtain ⟨hlow, hhigh⟩ := hidentified.level h hh
    exact ⟨hlow, hhigh, hfree.isName h hh⟩
  · rw [Renderer.html_renderWith_stateAfter, Renderer.render, hbackend]
    exact Renderer.html_renderWith_anchored hwrap hidentified hfree.isName _ {}

/-- A title that comes twice, and one with code, in a quote, whose slug is the numbered form of the
    first; rendered after a source with the first title. -/
theorem Renderer.renderAll_idInHeadings_collision :
    let on : Renderer := ⟨{ idInHeadings := true }, .marked, none⟩
    let off : Renderer := ⟨{}, .marked, none⟩
    let i : Installation := ⟨none, none⟩
    let source := "# A\n# a\n> \x60a\x60 1\n> -".toList
    ∃ rendering headings,
      (on.renderAll (on.backend i) {} ["# a".toList, source])[1]? = some rendering ∧
      rendering.html = .ok ("<h1 id=\"a\">A</h1>\n<h1 id=\"a-1\">a</h1>\n<blockquote>\n" ++
        "<h2 id=\"a-1-1\"><code>a</code> 1</h2>\n</blockquote>").toList ∧
      (headings.map Heading.id).Nodup ∧
      ∃ html html', rendering.html = .ok html ∧ (off.render i {} source).html = .ok html' ∧
        html ≠ html' ∧ Anchored headings html html' := by
  intro on off i source
  have hon : (Renderer.ofConfig { ({} : MarkdownConfig) with idInHeadings := true }).1 =
      some on := rfl
  have hoff : (Renderer.ofConfig { ({} : MarkdownConfig) with idInHeadings := false }).1 =
      some off := rfl
  obtain ⟨-, hall⟩ := Renderer.renderAll_idInHeadings hon hoff i ["# a".toList, source]
  obtain ⟨rendering, headings, hrendering, -, -, hnodup, -, hhtml⟩ := hall 1 source rfl
  have hshown : ((on.renderAll (on.backend i) {} ["# a".toList, source])[1]?).map Rendering.html =
      some (.ok ("<h1 id=\"a\">A</h1>\n<h1 id=\"a-1\">a</h1>\n<blockquote>\n" ++
        "<h2 id=\"a-1-1\"><code>a</code> 1</h2>\n</blockquote>").toList) := by
    decide +kernel
  rw [hrendering, Option.map_some, Option.some.injEq] at hshown
  refine ⟨rendering, headings, hrendering, hshown, hnodup, ?_⟩
  rcases hhtml with ⟨e, herror, -⟩ | ⟨html, html', hhtml, hplain, hanchored⟩
  · rw [hshown] at herror
    cases herror
  · refine ⟨html, html', hhtml, hplain, ?_, hanchored⟩
    rintro rfl
    rw [hshown] at hhtml
    exact absurd (hhtml.trans hplain.symm) (by decide +kernel)

end Docpress
