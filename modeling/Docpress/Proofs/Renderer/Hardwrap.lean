import Docpress.Proofs.Html.LineBreak
import Docpress.Proofs.Markdown.Ending
import Docpress.Proofs.Renderer.Plain
/-!
Showing the line ends within paragraphs. The option reaches the writing of running text alone, so
two renderers that differ in it read and highlight alike, and their HTML differs in breaks.
-/

namespace Docpress

open Text Markdown Highlight Html

namespace Markdown

/-! ### The tags of code -/

theorem mem_markSource {html : Text} (h : '<' ∈ html) : '<' ∈ markSource html := by
  have htag : '<' ∈ sourceTag := by decide
  unfold markSource replaceFirst
  split
  · exact List.mem_append_left _ (List.mem_append_right _ htag)
  · exact h

theorem mem_codeHtml (content : Text) : '<' ∈ codeHtml content := by
  have htag : '<' ∈ "<pre><code>".toList := by decide
  exact List.mem_append_left _ (List.mem_append_left _ htag)

/-- Whatever a highlighter replies, there is a tag around the code. -/
theorem mem_fenceHtml (info content reply : Text) : '<' ∈ fenceHtml info content reply := by
  have htag : '<' ∈ "<pre><code".toList := by decide
  unfold fenceHtml
  dsimp only
  generalize (if reply.isEmpty then Html.escape content else reply) = code
  split
  · rename_i hpre
    obtain ⟨rest, hcode⟩ := startsWith_iff.1 hpre
    rw [hcode]
    exact List.mem_append_left _ (List.mem_append_left _ (by decide))
  · exact List.mem_append_left _ (List.mem_append_left _ (List.mem_append_left _ htag))

/-! ### Writing with breaks and without -/

theorem Span.write_broken (span : Span) : Broken (span.write true) (span.write false) := by
  have hbreak : lineBreak = breakTag ++ ['\n'] := by decide
  cases span with
  | softBreak =>
    change Broken lineBreak ['\n']
    rw [hbreak]
    exact .lineEnd [] (.same [])
  | _ => exact .same _

/-- What is written for an event, and how writing goes on after it: with breaks as without, but for
    the breaks themselves. An event that may be the last one is written as a tag, and alike. -/
theorem writeEvents_cons_broken (hidden : Bool) (replies : List Text) (event : Event (List Span))
    (rest : List (Event (List Span))) :
    ∃ (broken plain : Text) (hidden' : Bool) (replies' : List Text),
      writeEvents true hidden replies (event :: rest) =
        broken ++ writeEvents true hidden' replies' rest ∧
      writeEvents false hidden replies (event :: rest) =
        plain ++ writeEvents false hidden' replies' rest ∧
      Broken broken plain ∧ (event.IsFinal → broken = plain ∧ '<' ∈ plain) := by
  cases event with
  | start e => exact ⟨_, _, _, _, rfl, rfl, .same _, False.elim⟩
  | stop e =>
    refine ⟨_, _, _, _, rfl, rfl, .same _, fun hfinal => ⟨rfl, ?_⟩⟩
    have hshown : e.isHidden = false := hfinal
    rw [hshown, if_neg Bool.false_ne_true]
    exact List.mem_cons_self
  | inline spans => exact ⟨_, _, _, _, rfl, rfl, .flatMap Span.write_broken spans, False.elim⟩
  | rule =>
    have htag : '<' ∈ "<hr />\n".toList := by decide
    exact ⟨_, _, _, _, rfl, rfl, .same _, fun _ => ⟨rfl, List.mem_append_right _ htag⟩⟩
  | code content =>
    exact ⟨_, _, _, _, rfl, rfl, .same _, fun _ => ⟨rfl, mem_markSource (mem_codeHtml content)⟩⟩
  | fence info content =>
    exact ⟨_, _, _, _, rfl, rfl, .same _, fun _ => ⟨rfl, mem_markSource (mem_fenceHtml _ _ _)⟩⟩
  | html content => exact ⟨_, _, _, _, rfl, rfl, .same _, fun hfinal => ⟨rfl, hfinal⟩⟩

/-- Events that end well are written alike but for breaks, which all stand before a last part that
    has a tag. -/
theorem writeEvents_broken {events : List (Event (List Span))} (hends : EndsFinal events)
    (hne : events ≠ []) (hidden : Bool) (replies : List Text) :
    ∃ broken plain last : Text, Broken broken plain ∧ '<' ∈ last ∧
      writeEvents true hidden replies events = broken ++ last ∧
      writeEvents false hidden replies events = plain ++ last := by
  induction events generalizing hidden replies with
  | nil => exact absurd rfl hne
  | cons event rest ih =>
    obtain ⟨broken, plain, hidden', replies', hon, hoff, hbroken, hfinal⟩ :=
      writeEvents_cons_broken hidden replies event rest
    obtain ⟨hevent, hrest⟩ := endsFinal_cons.1 hends
    by_cases hlast : rest = []
    · subst hlast
      obtain ⟨rfl, htag⟩ := hfinal (hevent rfl)
      refine ⟨[], [], broken, .same [], htag, ?_, ?_⟩
      · rw [hon, writeEvents, List.append_nil, List.nil_append]
      · rw [hoff, writeEvents, List.append_nil, List.nil_append]
    · obtain ⟨more, plainMore, last, hmore, htag, honMore, hoffMore⟩ :=
        ih hrest hlast hidden' replies'
      refine ⟨broken ++ more, plain ++ plainMore, last, hbroken.append hmore, htag, ?_, ?_⟩
      · rw [hon, honMore, List.append_assoc]
      · rw [hoff, hoffMore, List.append_assoc]

end Markdown

/-! ### Rendering -/

/-- The steps after Markdown keep breaks where they are, as long as none is at the end of the
    text, where line ends are trimmed. -/
theorem restore_broken {broken plain last : Text} (h : Broken broken plain) (htag : '<' ∈ last) :
    Broken (restore (broken ++ last)) (restore (plain ++ last)) := by
  have htrim (s : Text) : trimBlankEnd (s ++ last) = s ++ trimBlankEnd last :=
    trimEnd_append_of_mem htag (by decide) s
  rw [restore, restore, htrim, htrim]
  exact (h.append (.same _)).decodeApostrophes.showSlashes.decodeQuotes

theorem MarkdownConfig.document_endsFinal (config : MarkdownConfig) (source : Text) :
    EndsFinal (config.document source) := by
  unfold MarkdownConfig.document
  dsimp only
  split
  · exact identifyHeadings_endsFinal (Markdown.document_endsFinal source)
  · exact Markdown.document_endsFinal source

/-- Without its breaks a document is the same whether line ends are shown or not. -/
theorem eraseBreaks_restore_writeDocument {events : List (Event (List Span))}
    (hends : EndsFinal events) (replies : List Text) :
    eraseBreaks (restore (writeDocument true replies events)) =
      eraseBreaks (restore (writeDocument false replies events)) := by
  by_cases hne : events = []
  · subst hne
    rfl
  · obtain ⟨broken, plain, last, hbroken, htag, hon, hoff⟩ :=
      writeEvents_broken hends hne false replies
    rw [writeDocument, writeDocument, hon, hoff]
    exact (restore_broken hbroken htag).eraseBreaks_eq

/-- Showing line ends adds breaks and does nothing else: with all other options alike, the reports
    about the options, the reports about the source and the commands are the same, neither
    rendering fails, and the HTML without its breaks is the same. -/
theorem Renderer.render_hardwrap {config : MarkdownConfig} {on off : Renderer}
    (hon : (Renderer.ofConfig { config with hardwrap := true }).1 = some on)
    (hoff : (Renderer.ofConfig { config with hardwrap := false }).1 = some off)
    (i : Installation)
    (hlibrary : ∀ highlight ∈ i.library, ∀ code language e,
      highlight code language = .error e → e.kind.isHighlight = true) (source : Text) :
    (Renderer.ofConfig { config with hardwrap := true }).2 =
        (Renderer.ofConfig { config with hardwrap := false }).2 ∧
      (on.render i {} source).logs = (off.render i {} source).logs ∧
      (on.render i {} source).commands = (off.render i {} source).commands ∧
      ∃ html html', (on.render i {} source).html = .ok html ∧
        (off.render i {} source).html = .ok html' ∧ eraseBreaks html = eraseBreaks html' := by
  have hreports : (Renderer.ofConfig { config with hardwrap := true }).2 =
      (Renderer.ofConfig { config with hardwrap := false }).2 := by
    unfold Renderer.ofConfig
    cases resolveParser config.parser with
    | none => rfl
    | some parser =>
      dsimp only
      split <;> rfl
  refine ⟨hreports, ?_⟩
  rw [Renderer.fst_ofConfig, Option.map_eq_some_iff] at hon hoff
  obtain ⟨parser, hparser, rfl⟩ := hon
  obtain ⟨parser', hparser', rfl⟩ := hoff
  obtain rfl : parser = parser' := Option.some.inj (hparser.symm.trans hparser')
  -- Reading does not look at the option, so both have the same events and fences.
  have hends := config.document_endsFinal (protect source)
  cases resolveHighlighter config.highlight with
  | none =>
    simp only [Renderer.render, Renderer.backend]
    exact ⟨rfl, rfl, _, _, rfl, rfl, eraseBreaks_restore_writeDocument hends []⟩
  | some name =>
    obtain ⟨replies, hreplies⟩ := highlightAll_of_isBenign
      (Backend.isBenign_ofName hlibrary name) {} (fences (config.document (protect source)))
    exact ⟨rfl, rfl, _, _, Renderer.html_renderWith_of_replies _ hreplies,
      Renderer.html_renderWith_of_replies _ hreplies,
      eraseBreaks_restore_writeDocument hends replies⟩

/-- A paragraph of two lines in a list, and a fence that the library refuses. -/
theorem Renderer.render_hardwrap_list :
    let on : Renderer := ⟨{ highlight := .flag true, hardwrap := true }, .marked, some .highlightJs⟩
    let off : Renderer := ⟨{ highlight := .flag true }, .marked, some .highlightJs⟩
    let i : Installation := ⟨some plainLibrary, none⟩
    let source := "- *a\nb* \x7b@c \"d\"\x7d\n\n\x60\x60\x60js\ne\n\x60\x60\x60".toList
    (on.render i {} source).logs = (off.render i {} source).logs ∧
      ∃ html html', (on.render i {} source).html = .ok html ∧
        (off.render i {} source).html = .ok html' ∧ html ≠ html' ∧
        eraseBreaks html = eraseBreaks html' := by
  intro on off i source
  let config : MarkdownConfig := { highlight := .flag true }
  have hon : (Renderer.ofConfig { config with hardwrap := true }).1 = some on := rfl
  have hoff : (Renderer.ofConfig { config with hardwrap := false }).1 = some off := rfl
  have hlibrary : ∀ highlight ∈ i.library, ∀ code language e,
      highlight code language = .error e → e.kind.isHighlight = true := by
    rintro highlight ⟨⟩ code language e he
    unfold plainLibrary at he
    split at he
    · cases he
    · cases he
      rfl
  obtain ⟨-, hlogs, -, html, html', hhtml, hhtml', herase⟩ :=
    Renderer.render_hardwrap hon hoff i hlibrary source
  refine ⟨hlogs, html, html', hhtml, hhtml', ?_, herase⟩
  rintro rfl
  exact absurd (hhtml.trans hhtml'.symm) (by decide +kernel)

end Docpress
