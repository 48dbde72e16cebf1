import Docpress.Proofs.Markdown.Unmarked
import Docpress.Proofs.Renderer.Tags
/-!
The markers that protect inline tags and URLs. A protected source is guarded, so Markdown resolves
its markers or keeps them where they are shown again; the steps after Markdown show them, and none
is left unless something was copied as it stood.
-/

namespace Docpress

open Text Url Markdown Highlight

/-! ### Protecting -/

/-- The characters that a source without markers is made of. -/
def IsFree (c : Char) : Prop :=
  c ≠ '\\' ∧ c ≠ '%' ∧ c ≠ '&'

theorem isFree_of_isAlphanum {c : Char} (h : c.isAlphanum = true) : IsFree c := by
  refine ⟨?_, ?_, ?_⟩ <;>
  · rintro rfl
    exact absurd h (by decide)

theorem guarded_of_free {s : Text} (h : Within IsFree s) : Guarded s := by
  induction s with
  | nil => exact .nil
  | cons c s ih =>
    obtain ⟨hc, hs⟩ := within_cons.1 h
    exact .char hc (ih hs)

theorem guardUnderscores_guarded {s : Text} (h : Within IsFree s) :
    Guarded (InlineTag.guardUnderscores false s) := by
  induction s with
  | nil => exact .nil
  | cons c s ih =>
    obtain ⟨hc, hs⟩ := within_cons.1 h
    have hslash : (c == '\\') = false := by simpa using hc.1
    rw [InlineTag.guardUnderscores, hslash]
    split
    · exact .guard (.inl rfl) (ih hs)
    · exact .char hc (ih hs)

theorem escapeUnderscores_guarded {s : Text} (h : Within IsFree s) :
    Guarded (InlineTag.escapeUnderscores s) := by
  refine h.substitute_of .nil .char .append fun s new more hs hfind => ?_
  obtain ⟨tag, htag, heq⟩ := Option.map_eq_some_iff.1 hfind
  obtain ⟨rfl, -⟩ := Prod.mk.inj heq
  obtain ⟨body, rest, -, -, -, rfl⟩ := InlineTag.lead?_eq_some htag
  exact guardUnderscores_guarded (hs.of_subset (List.subset_append_left tag rest))

theorem hideSlashes_guarded {s : Text} (h : Guarded s) : Guarded (hideSlashes s) := by
  have hschemes : ∀ scheme ∈ hiddenSchemes, IsWord scheme := by decide
  induction s using hideSlashes_induction with
  | nil => exact .nil
  | scheme scheme hscheme s ih =>
    rw [hideSlashes_scheme hscheme]
    have hname : Guarded scheme :=
      guarded_of_free fun c hc => isFree_of_isAlphanum (hschemes scheme hscheme c hc)
    have hlead : Guarded (scheme ++ [':']) := hname.append (.char (by decide) .nil)
    have hslashes : Guarded ['\\', '/', '\\', '/'] := .guard (.inr rfl) (.guard (.inr rfl) .nil)
    have hform : scheme ++ hiddenSlashes = (scheme ++ [':']) ++ ['\\', '/', '\\', '/'] := by
      rw [List.append_assoc]
      rfl
    rw [hform]
    exact (hlead.append hslashes).append (ih h.right)
  | char c s hhide ih =>
    rw [hhide]
    cases h with
    | char hc hs => exact .char hc (ih hs)
    | @guard d s hd hs =>
      have hletter : d ≠ 'h' := by rcases hd with rfl | rfl <;> decide
      have hrest := ih (.char (Guarded.ne_of_guarded hd) hs)
      rw [hideSlashes_cons_of_ne hletter] at hrest ⊢
      exact .guard hd hrest.tail

theorem protect_guarded {source : Text} (hslash : '\\' ∉ source) (hamp : '&' ∉ source)
    (hpercent : '%' ∉ source) : Guarded (protect source) :=
  hideSlashes_guarded (escapeUnderscores_guarded fun _ hc =>
    ⟨fun heq => hslash (heq ▸ hc), fun heq => hpercent (heq ▸ hc), fun heq => hamp (heq ▸ hc)⟩)

/-! ### After Markdown -/

/-- The part of a text before blanks, if a part of it without blanks is known. -/
theorem eq_append_of_blanks {s t lead u : Text} (ht : ∀ c ∈ t, isBlank c = true)
    (hlead : ∀ c ∈ lead, isBlank c = false) (h : s ++ t = lead ++ u) :
    ∃ s', s = lead ++ s' ∧ s' ++ t = u := by
  rcases List.append_eq_append_iff.1 h with ⟨more, rfl, rfl⟩ | ⟨more, rfl, rfl⟩
  · cases more with
    | nil => exact ⟨[], by simp, rfl⟩
    | cons c more =>
      have hblank := ht c (by simp)
      rw [hlead c (by simp)] at hblank
      cases hblank
  · exact ⟨more, rfl, rfl⟩

theorem Url.Masked.left_of_blanks {s t : Text} (h : Masked (s ++ t))
    (ht : ∀ c ∈ t, isBlank c = true) : Masked s := by
  generalize hu : s ++ t = u at h
  induction h generalizing s with
  | nil =>
    rw [(List.append_eq_nil_iff.1 hu).1]
    exact .nil
  | @char c u hc _ ih =>
    cases s with
    | nil => exact .nil
    | cons d s =>
      rw [List.cons_append, List.cons.injEq] at hu
      rw [hu.1]
      exact .char hc (ih hu.2)
  | @byte a b u ha hb hne _ ih =>
    have hdigit : ∀ d ∈ hexDigits, isBlank d = false := List.all_iff_forall_prop.1 (by decide)
    have hplain : ∀ d ∈ ['%', a, b], isBlank d = false := by
      simp [hdigit a ha, hdigit b hb, show isBlank '%' = false by decide]
    obtain ⟨s, rfl, hs⟩ := eq_append_of_blanks ht hplain hu
    exact .byte ha hb hne (ih hs)
  | @hidden scheme form u hscheme hform _ ih =>
    have hplain : ∀ scheme ∈ hiddenSchemes, ∀ form ∈ hiddenForms,
        (scheme ++ form).all (!isBlank ·) = true := by decide
    have hplain := List.all_eq_true.1 (hplain scheme hscheme form hform)
    obtain ⟨s, rfl, hs⟩ := eq_append_of_blanks ht (fun d hd => by simpa using hplain d hd) hu
    exact .hidden hscheme hform (ih hs)

/-- Turning entities back into apostrophes goes through what is masked piece by piece. -/
theorem Url.Masked.decodeApostrophes {s : Text} (h : Masked s) :
    Masked (Html.decodeApostrophes s) := by
  have hentity : "&#39;".toList = '&' :: "#39;".toList := by decide
  induction hn : s.length using Nat.strongRecOn generalizing s with
  | _ n ih =>
    cases h with
    | nil => exact .nil
    | @char c s hc hs =>
      by_cases hstart : ∃ rest, c :: s = "&#39;".toList ++ rest
      · obtain ⟨rest, heq⟩ := hstart
        rw [hentity, List.cons_append, List.cons.injEq] at heq
        obtain ⟨rfl, rfl⟩ := heq
        have hreplace : Html.decodeApostrophes ('&' :: ("#39;".toList ++ rest)) =
            ['\''] ++ Html.decodeApostrophes rest := replaceAll_append_self (by decide)
        rw [hreplace]
        refine .char (by decide) (ih rest.length ?_ (hs.right_of_append (by decide)) rfl)
        rw [← hn, List.length_cons, List.length_append]
        omega
      · rw [Html.decodeApostrophes, replaceAll_cons_of_not (not_exists.1 hstart)]
        exact .char hc (ih s.length (by simp [← hn]) hs rfl)
    | @byte a b s ha hb hne hs =>
      have hdigit : ∀ d ∈ hexDigits, '&' ≠ d := List.all_iff_forall_prop.1 (by decide)
      have hnone : '&' ∉ ['%', a, b] := by simp [hdigit a ha, hdigit b hb]
      have hreplace : Html.decodeApostrophes (['%', a, b] ++ s) =
          ['%', a, b] ++ Html.decodeApostrophes s := by
        rw [Html.decodeApostrophes, hentity, replaceAll_append_of_notMem hnone]
        rfl
      exact hreplace ▸ .byte ha hb hne (ih s.length (by simp [← hn]; omega) hs rfl)
    | @hidden scheme form s hscheme hform hs =>
      have hnone : ∀ scheme ∈ hiddenSchemes, ∀ form ∈ hiddenForms, '&' ∉ scheme ++ form := by
        decide
      have hreplace : Html.decodeApostrophes (scheme ++ form ++ s) =
          scheme ++ form ++ Html.decodeApostrophes s := by
        rw [Html.decodeApostrophes, hentity,
          replaceAll_append_of_notMem (hnone scheme hscheme form hform)]
        rfl
      rw [hreplace]
      refine .hidden hscheme hform (ih s.length ?_ hs rfl)
      rw [← hn, exists_cons_of_mem_hiddenSchemes scheme hscheme]
      simp only [List.length_append, List.length_cons]
      omega

/-- What stands at the start after decoding stood there before, if it holds no quote. -/
theorem startsWith_of_decodes {lead before s t : Text} (hlead : '"' ∉ lead)
    (h : InlineTag.Decodes before s t) (ht : startsWith t lead = true) :
    startsWith s lead = true := by
  induction lead generalizing before s t with
  | nil => rfl
  | cons p lead ih =>
    obtain ⟨hp, hlead⟩ := not_or.1 (mt List.mem_cons.2 hlead)
    cases h with
    | nil => exact ht
    | @keep _ c s t _ hrest =>
      by_cases hc : p = c
      · have ht : startsWith t lead = true := by simpa [startsWith, dropLead?, hc] using ht
        simpa [startsWith, dropLead?, hc] using ih hlead hrest ht
      · rw [startsWith_cons_of_ne (Ne.symm hc)] at ht
        cases ht
    | decode =>
      rw [startsWith_cons_of_ne hp] at ht
      cases ht

/-- Turning entities back into quotes brings no marker together. -/
theorem isUnmarked_of_decodes {before s t : Text} (h : InlineTag.Decodes before s t)
    (hs : IsUnmarked s) : IsUnmarked t := by
  induction h with
  | nil => exact hs
  | @keep before c s t hplain hrest ih =>
    have hstart : startsWith (c :: t) "%5C".toList = true →
        startsWith (c :: s) "%5C".toList = true :=
      startsWith_of_decodes (by decide) (.keep hplain hrest)
    obtain ⟨hslash, hencoded⟩ := hs
    have hpart : "%5C".toList = '%' :: "5C".toList := by decide
    rw [hpart, hasPart_cons, Bool.or_eq_false_iff, ← hpart] at hencoded
    obtain ⟨hc, hslash⟩ := not_or.1 (mt List.mem_cons.2 hslash)
    obtain ⟨hslash', hencoded'⟩ := ih ⟨hslash, hencoded.2⟩
    refine ⟨List.not_mem_cons_of_ne_of_not_mem hc hslash', ?_⟩
    rw [hpart, hasPart_cons, Bool.or_eq_false_iff, ← hpart]
    exact ⟨Bool.eq_false_iff.2 (mt hstart (Bool.eq_false_iff.1 hencoded.1)), hencoded'⟩
  | decode hinside hrest ih =>
    rw [isUnmarked_append (by decide)] at hs
    exact (isUnmarked_cons (by decide)).2 ⟨by decide, ih hs⟩

theorem restore_isUnmarked {html : Text} (h : Masked html) : IsUnmarked (restore html) := by
  obtain ⟨blanks, hhtml, hblanks⟩ := Text.trimEnd_append isBlank html
  rw [hhtml] at h
  exact isUnmarked_of_decodes (InlineTag.decodeQuotes_decodes _)
    (h.left_of_blanks hblanks).decodeApostrophes.isUnmarked_showSlashes

/-! ### Rendering -/

theorem writeDocument_masked (config : MarkdownConfig) {text : Text} (h : Guarded text)
    (hclean : ∀ copy ∈ copies text, copy.IsClean) :
    Masked (writeDocument config.hardwrap [] (config.document text)) := by
  have hevents : ∀ e ∈ config.document text, e.IsMasked :=
    config.document_forall heading_masked (document_masked h hclean)
  exact writeEvents_masked _ false hevents

/-- A source without backslashes, ampersands and percent signs is rendered to HTML without any
    marker, neither as a backslash nor as an encoded one, if every stretch of the protected source
    that Markdown copies as it stands is without markers once hidden slashes are shown. -/
theorem Renderer.render_isUnmarked {r : Renderer} (hoff : r.highlighter = none) (i : Installation)
    (state : LoadState) {source : Text} (hslash : '\\' ∉ source) (hamp : '&' ∉ source)
    (hpercent : '%' ∉ source) (hclean : ∀ copy ∈ copies (protect source), copy.IsClean) :
    ∃ html, (r.render i state source).html = .ok html ∧ IsUnmarked html := by
  refine ⟨restore (writeDocument r.config.hardwrap [] (r.config.document (protect source))), ?_,
    restore_isUnmarked (writeDocument_masked _ (protect_guarded hslash hamp hpercent) hclean)⟩
  rw [Renderer.html_render, Renderer.engine_of_off hoff]
  rfl

/-- Markers are gone from a heading, a target, a title, an image and a cell of a table, and from the
    address in angle brackets that was copied. -/
theorem Renderer.render_isUnmarked_constructs :
    let r : Renderer := ⟨{}, .marked, none⟩
    let source := ("# \x7b@link a_b\x7d\n\n[x](http://e.f '\x7b@g h_i\x7d') ![\x7b@j k_l\x7d](u)\n\n" ++
      "| \x7b@m n_o\x7d | `p` <https://q.r> |\n|---|---|\n").toList
    r.highlighter = none ∧ '\\' ∉ source ∧ '&' ∉ source ∧ '%' ∉ source ∧
      copies (protect source) = [.verbatim "p".toList, .verbatim "https:%5C/%5C/q.r".toList,
        .verbatim "https:\\/\\/q.r".toList] ∧
      ∃ html, (r.render ⟨none, none⟩ {} source).html = .ok html ∧ IsUnmarked html := by
  intro r source
  have hcopies : copies (protect source) = [.verbatim "p".toList,
      .verbatim "https:%5C/%5C/q.r".toList, .verbatim "https:\\/\\/q.r".toList] := by
    decide +kernel
  have hslash : '\\' ∉ source := by decide +kernel
  have hamp : '&' ∉ source := by decide +kernel
  have hpercent : '%' ∉ source := by decide +kernel
  refine ⟨rfl, hslash, hamp, hpercent, hcopies, ?_⟩
  refine Renderer.render_isUnmarked rfl ⟨none, none⟩ {} hslash hamp hpercent ?_
  rw [hcopies]
  decide

/-- The marker of an underscore in a code span is shown. -/
theorem Renderer.render_keeps_marker_in_code :
    let r : Renderer := ⟨{}, .marked, none⟩
    let source := "\x60\x7b@link a_b\x7d\x60".toList
    let html := "<p><code>\x7b@link a\\_b\x7d</code></p>".toList
    r.highlighter = none ∧ '\\' ∉ source ∧ '&' ∉ source ∧ '%' ∉ source ∧
      (r.render ⟨none, none⟩ {} source).html = .ok html ∧ ¬ IsUnmarked html := by
  intro r source html
  have hwritten : writeDocument false [] (r.config.document (protect source)) = html ++ ['\n'] := by
    decide +kernel
  have hrestored : restore (html ++ ['\n']) = html := by decide +kernel
  refine ⟨rfl, by decide, by decide, by decide, ?_, by decide⟩
  rw [Renderer.html_render, Renderer.engine_of_off rfl]
  exact congrArg Except.ok ((congrArg restore hwritten).trans hrestored)

end Docpress
