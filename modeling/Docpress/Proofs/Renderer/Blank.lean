import Docpress.Proofs.Markdown.Blank
import Docpress.Proofs.Renderer.BareUrl
import Docpress.Proofs.Renderer.Hardwrap
import Docpress.Proofs.Renderer.Line
import Docpress.Proofs.Renderer.Program
/-!
Blank sources. They are not rendered at all, and that is no shortcut for all of them: white space
that is content of a line to Markdown has HTML.
-/

namespace Docpress

open Text Markdown Highlight

/-- Events have HTML with a tag in it, and that stays. -/
theorem restore_writeDocument_eq_nil_iff (config : MarkdownConfig) (text : Text)
    (replies : List Text) :
    restore (writeDocument config.hardwrap replies (config.document text)) = [] ↔
      config.document text = [] := by
  constructor
  · intro hnil
    by_contra hne
    obtain ⟨broken, plain, last, -, htag, hon, hoff⟩ :=
      writeEvents_broken (config.document_endsFinal text) hne false replies
    have hmem : '<' ∈ writeDocument config.hardwrap replies (config.document text) := by
      rw [writeDocument]
      cases config.hardwrap with
      | true => exact hon ▸ List.mem_append_right _ htag
      | false => exact hoff ▸ List.mem_append_right _ htag
    have hcount := count_restore (writeDocument config.hardwrap replies (config.document text))
    rw [hnil] at hcount
    exact absurd hcount.symm (List.count_pos_iff.2 hmem).ne'
  · intro hnil
    rw [hnil]
    rfl

/-- White space is not protected from Markdown. -/
theorem protect_of_blank {source : Text} (h : Within (isBlank · = true) source) :
    protect source = source := by
  have hnotMem : ∀ c, isBlank c = false → c ∉ source := by
    intro c hc hmem
    exact Bool.false_ne_true (hc.symm.trans (h c hmem))
  exact protect_of_notMem (hnotMem '{' (by decide)) (hnotMem ':' (by decide))

/-- A blank source is rendered without a highlighter, and it has HTML unless all its white space is
    no content of a line. -/
theorem Renderer.render_of_blank (r : Renderer) (i : Installation) (state : LoadState)
    {source : Text} (h : Within (isBlank · = true) source) :
    ∃ html, r.render i state source = { html := .ok html, state, logs := [], commands := [] } ∧
      (html = [] ↔ source.all isLineSpace = true) := by
  obtain ⟨hfence, hnil⟩ := document_of_blank h
  have hfences : r.fencesOf source = [] := by
    have hevents : ∀ e ∈ r.config.document source, e.isFence = false :=
      r.config.document_forall (P := fun e => e.isFence = false) (fun _ _ _ => rfl) hfence
    rw [Renderer.fencesOf, protect_of_blank h, fences_eq_filterMap, List.filterMap_eq_nil_iff]
    intro e he
    cases e with
    | fence info content => cases hevents _ he
    | _ => rfl
  have hconfig : r.config.document source = [] ↔ Markdown.document source = [] := by
    unfold MarkdownConfig.document
    dsimp only
    split
    · exact identifyHeadings_eq_nil_iff
    · exact Iff.rfl
  refine ⟨_, Renderer.render_of_fenceless hfences i state, ?_⟩
  rw [protect_of_blank h, restore_writeDocument_eq_nil_iff, hconfig, hnil]

/-- Rendering a source if it is not blank gives what rendering it gives, exactly if the source is not
    blank or has no other white space than spaces, tabs and line ends. A blank source with other
    white space has HTML that is left out then; nothing else is different. -/
theorem renderMarkdown_eq_render_iff (r : Renderer) (i : Installation) (state : LoadState)
    (source : Text) :
    (renderMarkdown (some r) i state source = r.render i state source ↔
      (source.all isBlank = true → source.all isLineSpace = true)) ∧
    (source.all isBlank = true →
      renderMarkdown (some r) i state source =
          { html := .ok [], state, logs := [], commands := [] } ∧
        ∃ html, r.render i state source = { html := .ok html, state, logs := [], commands := [] } ∧
          (html = [] ↔ source.all isLineSpace = true)) := by
  cases hblank : source.all isBlank with
  | false =>
    refine ⟨iff_of_true ?_ nofun, nofun⟩
    rw [renderMarkdown, hblank]
    rfl
  | true =>
    obtain ⟨html, hrender, hnil⟩ := r.render_of_blank i state (List.all_eq_true.1 hblank)
    have hskipped : renderMarkdown (some r) i state source =
        { html := .ok [], state, logs := [], commands := [] } := by
      rw [renderMarkdown, hblank]
      rfl
    refine ⟨?_, fun _ => ⟨hskipped, html, hrender, hnil⟩⟩
    rw [hskipped, hrender, ← hnil]
    constructor
    · intro heq _
      exact (Except.ok.inj (congrArg Rendering.html heq)).symm
    · intro hempty
      rw [hempty rfl]

/-- Line ends of all kinds and indentation are rendered as nothing, too. -/
theorem renderMarkdown_eq_render_lineEnds :
    let r : Renderer := ⟨{}, .marked, none⟩
    let source := " \t\n\r\n    \n".toList
    source.all isBlank = true ∧
      renderMarkdown (some r) ⟨none, none⟩ {} source = r.render ⟨none, none⟩ {} source ∧
      (renderMarkdown (some r) ⟨none, none⟩ {} source).html = .ok [] := by
  intro r source
  have hblank : source.all isBlank = true := by decide
  obtain ⟨heq, hall⟩ := renderMarkdown_eq_render_iff r ⟨none, none⟩ {} source
  exact ⟨hblank, heq.2 fun _ => by decide, congrArg Rendering.html (hall hblank).1⟩

/-- A space that is not to be broken is a paragraph, from which Markdown trims it. -/
theorem render_noBreakSpace_ne_nil :
    let r : Renderer := ⟨{}, .marked, none⟩
    let source : Text := [Char.ofNat 0xA0]
    source.all isBlank = true ∧ (renderMarkdown (some r) ⟨none, none⟩ {} source).html = .ok [] ∧
      (r.render ⟨none, none⟩ {} source).html = .ok "<p></p>".toList := by
  decide

end Docpress
