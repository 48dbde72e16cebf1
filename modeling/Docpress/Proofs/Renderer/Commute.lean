import Docpress.Proofs.InlineTag.Quote
import Docpress.Proofs.Url.Slashes
import Docpress.Renderer
import Mathlib.Data.List.Pairwise
import Mathlib.Logic.Function.Conjugate
/-!
The order of the steps around Markdown. The two steps before it may be taken in either order, and the
four after it in any order: none of them makes, spoils or moves anything that another one changes.
-/

namespace Docpress

open Text InlineTag

/-! ### What the steps spare -/

/-- The characters that no rule has: what tags are told by, and white space. -/
def isSpared (c : Char) : Bool :=
  isEdge c || isBlank c

theorem spares_hideSlashes : Spares isSpared Url.hideSlashes := by
  rw [Url.hideSlashes_eq_substitute]
  exact spares_substitute (by decide)

theorem spares_showSlashes : Spares isSpared Url.showSlashes := by
  rw [Url.showSlashes_eq_substitute]
  exact spares_substitute (by decide)

theorem spares_decodeApostrophes : Spares isSpared Html.decodeApostrophes := by
  rw [Html.decodeApostrophes_eq_substitute]
  exact spares_substitute (by decide)

theorem isSpared_of_isEdge {c : Char} (h : isEdge c = true) : isSpared c = true := by
  rw [isSpared, h, Bool.true_or]

theorem isSpared_of_isBlank {c : Char} (h : isBlank c = true) : isSpared c = true := by
  rw [isSpared, h, Bool.or_true]

/-! ### Before Markdown -/

/-- No URL begins where none began before the underscores were guarded. -/
theorem hideSlashes_cons_guardUnderscores {s : Text}
    (h : Url.hideSlashes ('h' :: s) = 'h' :: Url.hideSlashes s) :
    Url.hideSlashes ('h' :: guardUnderscores false s) =
      'h' :: Url.hideSlashes (guardUnderscores false s) := by
  refine substitute_cons_of_none (Option.eq_none_iff_forall_ne_some.2 fun found hclaim => ?_)
  obtain ⟨scheme, hscheme, separator, hseparator, rest, heq, -⟩ := Url.separatorTo_eq_some hclaim
  obtain rfl := List.mem_singleton.1 hseparator
  -- Guarding looks at no character of a scheme with its slashes, so they were there before.
  have hplain : ∀ scheme ∈ Url.hiddenSchemes,
      (scheme ++ "://".toList).all (fun c => c != '_' && c != '\\') = true := by decide
  have hlead := (spares_guardUnderscores (p := fun c => c != '_' && c != '\\') rfl rfl).dropLead?
    (List.all_eq_true.1 (hplain scheme hscheme)) ('h' :: s)
  rw [show guardUnderscores false ('h' :: s) = 'h' :: guardUnderscores false s from rfl, heq,
    dropLead?_eq_some.2 rfl] at hlead
  obtain ⟨more, hmore, -⟩ := Option.map_eq_some_iff.1 hlead.symm
  have hs := dropLead?_eq_some.1 hmore
  rw [hs, Url.hideSlashes_scheme hscheme] at h
  rcases Url.mem_hiddenSchemes.1 hscheme with rfl | rfl
  · obtain rfl := (List.cons.inj hs).2
    cases h
  · obtain rfl := (List.cons.inj hs).2
    cases h

/-- A backslash that is written before an underscore makes no URL and breaks none. -/
theorem guardUnderscores_hideSlashes (guarded : Bool) (s : Text) :
    guardUnderscores guarded (Url.hideSlashes s) = Url.hideSlashes (guardUnderscores guarded s) := by
  induction s using Url.hideSlashes_induction generalizing guarded with
  | nil => rfl
  | scheme scheme hscheme s ih =>
    have hurl : ∀ separator ∈ ["://".toList, Url.hiddenSlashes], ∀ t,
        guardUnderscores guarded (scheme ++ separator ++ t) =
          scheme ++ separator ++ guardUnderscores false t := by
      rcases Url.mem_hiddenSchemes.1 hscheme with rfl | rfl <;>
        simp [guardUnderscores, Url.hiddenSlashes]
    rw [Url.hideSlashes_scheme hscheme, hurl _ (by simp), hurl _ (by simp),
      Url.hideSlashes_scheme hscheme, ih]
  | char c s hhide ih =>
    rw [hhide, guardUnderscores, guardUnderscores, ih, ih]
    split
    · rw [Url.hideSlashes_cons_of_ne (by decide), Url.hideSlashes_cons_of_ne (by decide)]
    · by_cases hc : c = 'h'
      · subst hc
        exact (hideSlashes_cons_guardUnderscores hhide).symm
      · rw [Url.hideSlashes_cons_of_ne hc]

/-- The steps before Markdown may be taken in either order. -/
theorem hideSlashes_escapeUnderscores (s : Text) :
    Url.hideSlashes (escapeUnderscores s) = escapeUnderscores (Url.hideSlashes s) :=
  (mapTags_comm (spares_guardUnderscores rfl rfl)
    (spares_hideSlashes.mono fun _ => isSpared_of_isEdge) (guardUnderscores_hideSlashes false)
    s).symm

/-! ### After Markdown -/

/-- The steps after Markdown, in the order in which they are taken. -/
def restoreSteps : List (Text → Text) :=
  [trimBlankEnd, Html.decodeApostrophes, Url.showSlashes, decodeQuotes]

theorem restore_eq_foldl (html : Text) :
    restore html = restoreSteps.foldl (fun html step => step html) html :=
  rfl

theorem decodeApostrophes_showSlashes (s : Text) :
    Html.decodeApostrophes (Url.showSlashes s) = Url.showSlashes (Html.decodeApostrophes s) := by
  have hapart : Apart Url.showRules [Html.apostropheRule] := by decide
  rw [Url.showSlashes_eq_substitute, Html.decodeApostrophes_eq_substitute]
  exact hapart.comm s

/-- Decoding the quotes of tags goes with replacing by rules that keep out of a quote's way. -/
theorem decodeQuotes_substitute {rules : List Rule} (hapart : Apart rules [Html.quoteRule])
    (hspares : Spares isSpared (substitute (claim rules))) (s : Text) :
    decodeQuotes (substitute (claim rules) s) = substitute (claim rules) (decodeQuotes s) := by
  refine mapTags_comm spares_decodeQuote (hspares.mono fun _ => isSpared_of_isEdge) (fun s => ?_) s
  rw [replaceAll_eq_substitute]
  exact hapart.comm s

theorem decodeQuotes_decodeApostrophes (s : Text) :
    decodeQuotes (Html.decodeApostrophes s) = Html.decodeApostrophes (decodeQuotes s) := by
  have hspares := spares_decodeApostrophes
  rw [Html.decodeApostrophes_eq_substitute] at hspares ⊢
  exact decodeQuotes_substitute (by decide) hspares s

theorem decodeQuotes_showSlashes (s : Text) :
    decodeQuotes (Url.showSlashes s) = Url.showSlashes (decodeQuotes s) := by
  have hspares := spares_showSlashes
  rw [Url.showSlashes_eq_substitute] at hspares ⊢
  exact decodeQuotes_substitute (by decide) hspares s

theorem trimBlankEnd_decodeQuotes (s : Text) :
    trimBlankEnd (decodeQuotes s) = decodeQuotes (trimBlankEnd s) :=
  trimEnd_mapTags spares_decodeQuote rfl rfl s

/-- White space at the end is cut off before or after a change that spares it. -/
theorem trimBlankEnd_comm {f : Text → Text} (h : Spares isSpared f) (s : Text) :
    trimBlankEnd (f s) = f (trimBlankEnd s) :=
  (h.mono fun _ => isSpared_of_isBlank).trimEnd_comm s

theorem pairwise_restoreSteps : restoreSteps.Pairwise Function.Commute := by
  simp only [restoreSteps, List.pairwise_cons, List.forall_mem_cons]
  exact ⟨⟨trimBlankEnd_comm spares_decodeApostrophes, trimBlankEnd_comm spares_showSlashes,
      trimBlankEnd_decodeQuotes, List.forall_mem_nil _⟩,
    ⟨decodeApostrophes_showSlashes, fun s => (decodeQuotes_decodeApostrophes s).symm,
      List.forall_mem_nil _⟩,
    ⟨fun s => (decodeQuotes_showSlashes s).symm, List.forall_mem_nil _⟩,
    List.forall_mem_nil _, .nil⟩

theorem restoreSteps_commute {step other : Text → Text} (hstep : step ∈ restoreSteps)
    (hother : other ∈ restoreSteps) : Function.Commute step other := by
  have : Std.Symm (Function.Commute (α := Text)) := ⟨fun _ _ h => h.symm⟩
  exact pairwise_restoreSteps.forall_of_forall (fun step _ => .refl step) hstep hother

/-- Restored text ends in no white space: it is what trimming makes of something. -/
theorem getLast?_restore (html : Text) : ∀ c ∈ (restore html).getLast?, isBlank c = false := by
  intro c hc
  have htrimmed : restore html =
      trimBlankEnd (decodeQuotes (Url.showSlashes (Html.decodeApostrophes html))) := by
    rw [trimBlankEnd_decodeQuotes, trimBlankEnd_comm spares_showSlashes,
      trimBlankEnd_comm spares_decodeApostrophes, restore]
  obtain ⟨t, ht⟩ := List.getLast?_eq_some_iff.1 hc
  exact not_of_trimEnd_eq_concat (htrimmed.symm.trans ht)

/-- The two steps before Markdown may change places, and so may any two of the four after it. So all
    their orders give the same, and what is rendered ends in no white space. -/
theorem steps_comm :
    (∀ s, Url.hideSlashes (escapeUnderscores s) = escapeUnderscores (Url.hideSlashes s)) ∧
    (∀ step ∈ restoreSteps, ∀ other ∈ restoreSteps, ∀ s, step (other s) = other (step s)) ∧
    (∀ steps : List (Text → Text), steps.Perm restoreSteps → ∀ html,
      steps.foldl (fun html step => step html) html = restore html) ∧
    ∀ (r : Renderer) backend state source html,
      (r.renderWith backend state source).html = .ok html →
        ∀ c ∈ html.getLast?, isBlank c = false := by
  refine ⟨hideSlashes_escapeUnderscores, fun step hstep other hother s => ?_,
    fun steps hsteps html => ?_, fun r backend state source html hrendered => ?_⟩
  · exact restoreSteps_commute hstep hother s
  · rw [restore_eq_foldl]
    refine hsteps.foldl_eq' (fun step hstep other hother s => ?_) html
    exact restoreSteps_commute (hsteps.mem_iff.1 hother) (hsteps.mem_iff.1 hstep) s
  · cases hengine : (r.engineWith backend state (protect source)).html with
    | error failure =>
      rw [Renderer.renderWith, hengine] at hrendered
      cases hrendered
    | ok engineHtml =>
      rw [Renderer.renderWith, hengine] at hrendered
      cases hrendered
      exact getLast?_restore engineHtml

/-- The steps after Markdown in the opposite order, and a source that becomes a link. -/
theorem steps_comm_link :
    let r : Renderer := ⟨{}, .marked, none⟩
    let source := "\x7b@link a_b \"c\"\x7d isn't <https://d>\n\n".toList
    let written := "<p>\x7b@link a_b &quot;c&quot;\x7d isn&#39;t http:\\/\\/d &quot;</p>\n".toList
    let restored := "<p>\x7b@link a_b \"c\"\x7d isn't http://d &quot;</p>".toList
    restoreSteps.reverse.foldl (fun html step => step html) written = restored ∧
      ∃ html, (r.renderWith none {} source).html = .ok html ∧
        ∀ c ∈ html.getLast?, isBlank c = false := by
  intro r source written restored
  obtain ⟨-, -, horder, hend⟩ := steps_comm
  refine ⟨?_, _, rfl, hend r none {} source _ rfl⟩
  rw [horder _ restoreSteps.reverse_perm]
  decide +kernel

end Docpress
