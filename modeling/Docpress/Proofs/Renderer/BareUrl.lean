import Docpress.Proofs.Markdown.HiddenUrl
import Docpress.Proofs.Renderer.Autolink
/-!
A bare URL, from the source to the HTML. Its slashes are hidden from Markdown and shown again, but
the rest of it is not protected: where Markdown finds emphasis or another address there, the HTML
has tags that the URL has not.
-/

namespace Docpress

open Text Markdown Highlight

/-! ### Brackets of tags -/

/-- A replacement that takes as often as it gives a character keeps their number. -/
theorem Text.count_substitute {find : Text → Option (Text × Nat)} {c : Char}
    (hfind : ∀ here new more, find here = some (new, more) →
      new.count c = (here.take (more + 1)).count c) (s : Text) :
    (substitute find s).count c = s.count c := by
  refine substitute_induction (motive := fun s t => t.count c = s.count c) rfl
    (fun d s _ ih => ?_) (fun d s new more hclaim ih => ?_) s
  · rw [List.count_cons, List.count_cons, ih]
  · have hsplit : d :: s = (d :: s).take (more + 1) ++ s.drop more := by
      rw [List.take_succ_cons, List.cons_append, List.take_append_drop]
    rw [List.count_append, ih, hfind _ _ _ hclaim, hsplit, List.count_append, ← hsplit]

theorem Html.count_decodeApostrophes (s : Text) :
    (decodeApostrophes s).count '<' = s.count '<' := by
  refine count_substitute (fun here new more hclaim => ?_) s
  split at hclaim
  · rename_i hstarts
    obtain ⟨rest, rfl⟩ := startsWith_iff.1 hstarts
    obtain ⟨rfl, rfl⟩ := Prod.mk.inj (Option.some.inj hclaim)
    have hlength : "&#39;".toList.length - 1 + 1 = "&#39;".toList.length := by decide
    rw [hlength, List.take_left]
    decide
  · cases hclaim

theorem Url.count_showSlashes (s : Text) : (showSlashes s).count '<' = s.count '<' := by
  have hforms : ∀ scheme ∈ hiddenSchemes, ∀ form ∈ hiddenForms,
      (scheme ++ form).count '<' = 0 ∧ (scheme ++ "://".toList).count '<' = 0 ∧
        scheme.length + form.length - 1 + 1 = (scheme ++ form).length := by
    decide
  refine count_substitute (fun here new more hclaim => ?_) s
  obtain ⟨scheme, hscheme, form, hform, rest, rfl, rfl, rfl⟩ := separatorTo_eq_some hclaim
  obtain ⟨hhidden, hshown, hlength⟩ := hforms scheme hscheme form hform
  rw [hlength, List.take_left, hhidden, hshown]

theorem InlineTag.Decodes.count {before s t : Text} (h : Decodes before s t) :
    t.count '<' = s.count '<' := by
  induction h with
  | nil => rfl
  | keep _ _ ih => rw [List.count_cons, List.count_cons, ih]
  | decode _ _ ih =>
    have hentity : quoteEntity.count '<' = 0 := by decide
    rw [List.count_append, hentity, Nat.zero_add, ← ih]
    rfl

/-- The steps after Markdown keep the number of tags. -/
theorem count_restore (html : Text) : (restore html).count '<' = html.count '<' := by
  have htrim : (trimBlankEnd html).count '<' = html.count '<' := by
    obtain ⟨cut, heq, hcut⟩ := trimEnd_append isBlank html
    have hnone : cut.count '<' = 0 :=
      List.count_eq_zero.2 fun hmem => absurd (hcut _ hmem) (by decide)
    conv_rhs => rw [heq, List.count_append, hnone]
    rfl
  rw [restore, (InlineTag.decodeQuotes_decodes _).count, Url.count_showSlashes,
    Html.count_decodeApostrophes, htrim]

/-! ### The URL -/

/-- Of the characters of an address only underscores have a meaning in running text. -/
theorem Url.unmarked_of_isAddressChar {u : Text} (hu : ∀ c ∈ u, isAddressChar c = true) :
    ∀ c ∈ u, c = '_' ∨ c ∉ inlineMarks ∧ c ≠ ':' := by
  have hmarks : ∀ c ∈ ':' :: inlineMarks, isAddressChar c = true → c = '_' :=
    List.all_iff_forall_prop.1 (by decide)
  refine fun c hc => or_iff_not_imp_left.2 fun hne => ⟨fun hmem => hne ?_, fun heq => hne ?_⟩
  · exact hmarks c (List.mem_cons_of_mem _ hmem) (hu c hc)
  · exact hmarks c (heq ▸ List.mem_cons_self) (hu c hc)

theorem Url.isSlashed_of_isAddressChar {u : Text} (hu : ∀ c ∈ u, isAddressChar c = true) :
    BareLink.IsSlashed u :=
  ⟨fun c hc => (isSafe_of_isAddressChar hu c hc).1, notMem_of_isAddressChar hu (by decide),
    notMem_of_isAddressChar hu (by decide)⟩

section

variable {scheme : Text} (hscheme : scheme ∈ Url.hiddenSchemes) {u : Text}
  (hu : ∀ c ∈ u, Url.isAddressChar c = true)

include hscheme hu

theorem notMem_bareUrl {c : Char} (hc : c ∈ ['<', '&', '{']) :
    c ∉ scheme ++ "://".toList ++ u := by
  have hlead : ∀ c ∈ ['<', '&', '{'], Url.isAddressChar c = false ∧
      ∀ scheme ∈ Url.hiddenSchemes, c ∉ scheme ++ "://".toList :=
    List.all_iff_forall_prop.1 (by decide)
  exact fun hmem => (List.mem_append.1 hmem).elim ((hlead c hc).2 scheme hscheme)
    (Url.notMem_of_isAddressChar hu (hlead c hc).1)

/-- The slashes of a bare URL are hidden, and nothing else is protected in it. -/
theorem protect_bareUrl :
    protect (scheme ++ "://".toList ++ u) = scheme ++ Url.hiddenSlashes ++ u := by
  have hbrace := notMem_bareUrl hscheme hu (c := '{') (by simp)
  rw [protect, InlineTag.escapeUnderscores,
    InlineTag.mapTags_of_not_hasPart (hasPart_of_notMem hbrace), Url.hideSlashes_scheme hscheme,
    Url.hideSlashes_of_notMem (Url.notMem_of_isAddressChar hu (by decide))]

/-- It is one line of running text. -/
theorem isLoneLine_bareUrl (hne : u ≠ []) : IsLoneLine (scheme ++ Url.hiddenSlashes ++ u) := by
  have hlead : ∀ scheme ∈ Url.hiddenSchemes, scheme ++ Url.hiddenSlashes =
      'h' :: (scheme ++ Url.hiddenSlashes).drop 1 := by decide
  have hnone : ∀ c ∈ ['\r', '\n', Char.ofNat 0], c ∉ scheme ++ Url.hiddenSlashes ++ u := by
    have hends : ∀ c ∈ ['\r', '\n', Char.ofNat 0], Url.isAddressChar c = false ∧
        ∀ scheme ∈ Url.hiddenSchemes, c ∉ scheme ++ Url.hiddenSlashes :=
      List.all_iff_forall_prop.1 (by decide)
    intro c hc hmem
    exact (List.mem_append.1 hmem).elim ((hends c hc).2 scheme hscheme)
      (Url.notMem_of_isAddressChar hu (hends c hc).1)
  have hnormal : IsNormal (scheme ++ Url.hiddenSlashes ++ u) := fun c hc =>
    ⟨fun heq => hnone _ (by simp) (heq ▸ hc), fun heq => hnone _ (by simp) (heq ▸ hc)⟩
  have hmarks : ∀ d ∈ lineMarks, 'h' ≠ d := List.all_iff_forall_prop.1 (by decide)
  obtain ⟨front, last, rfl⟩ := (List.eq_nil_or_concat' u).resolve_left hne
  have hlast : isSpaceSeparator last = false := by
    have haddress : ∀ c ∈ ['.', '/', '-', '_', '?', '=', '#'], isSpaceSeparator c = false :=
      List.all_iff_forall_prop.1 (by decide)
    rcases Bool.or_eq_true_iff.1 (hu last (by simp)) with hword | hmark
    · exact isSpaceSeparator_of_isAlphanum hword
    · exact haddress last (List.contains_iff_mem.1 hmark)
  have hsingle := hnone '\n' (by simp)
  have hend : ∃ lead c, scheme ++ Url.hiddenSlashes ++ (front ++ [last]) = lead ++ [c] ∧
      isSpaceSeparator c = false := ⟨_, last, (List.append_assoc _ _ _).symm, hlast⟩
  rw [hlead scheme hscheme, List.cons_append] at hnormal hsingle hend ⊢
  refine ⟨⟨'h', _, rfl, by decide, hmarks⟩, hend, ?_, ?_, hnormal, hsingle⟩
  · refine marker?_eq_none (by decide) fun d hd => ?_
    obtain rfl : 'h' = d := by simpa using hd
    decide
  · rw [Html.blockStart?]
    simp

theorem document_bareUrl (hne : u ≠ []) :
    Markdown.document (protect (scheme ++ "://".toList ++ u)) = Event.leaf (.paragraph false)
      (Markdown.readText (blocksOf (scheme ++ Url.hiddenSlashes ++ u)).references
        (scheme ++ Url.hiddenSlashes ++ u)) := by
  rw [protect_bareUrl hscheme hu, (isLoneLine_bareUrl hscheme hu hne).document_eq]

/-- What the pieces of a URL that stands as it is written are written as. -/
theorem flatMap_write_bareUrl (breaks : Bool) :
    (schemeSpans scheme ++ [Span.text u]).flatMap (Span.write breaks) =
      scheme ++ "://".toList ++ u := by
  have hscheme? : ∀ scheme ∈ Url.hiddenSchemes, Html.IsUnescaped (scheme ++ [':']) := by decide
  have hform : "://".toList = [':', '/', '/'] := by decide
  have hwrite : (schemeSpans scheme ++ [Span.text u]).flatMap (Span.write breaks) =
      Html.escape (scheme ++ [':']) ++ ('/' :: '/' :: (Html.escape u ++ [])) := rfl
  rw [hwrite, Html.escape_of_isUnescaped (hscheme? scheme hscheme),
    Html.escape_of_isUnescaped (Url.isUnescaped_of_isAddressChar hu), hform]
  simp only [List.append_assoc, List.cons_append, List.nil_append, List.append_nil]

end

/-- A bare URL is rendered as it is written exactly if what follows its slashes stands as it is
    written. -/
theorem Renderer.render_bareUrl_iff (r : Renderer) (i : Installation) (state : LoadState)
    {scheme u : Text} (hscheme : scheme ∈ Url.hiddenSchemes)
    (hu : ∀ c ∈ u, Url.isAddressChar c = true) (hne : u ≠ []) :
    let url := scheme ++ "://".toList ++ u
    (r.render i state url).html = .ok ("<p>".toList ++ url ++ "</p>".toList) ↔
      StandsAsWritten u := by
  intro url
  have hnone {c : Char} (hc : c ∈ ['<', '&', '{']) : c ∉ url := notMem_bareUrl hscheme hu hc
  rw [r.html_render_of_paragraph (document_bareUrl hscheme hu hne)]
  rcases readText_hidden_cases hscheme (blocksOf (scheme ++ Url.hiddenSlashes ++ u)).references
    (Url.unmarked_of_isAddressChar hu) (Url.isSlashed_of_isAddressChar hu) hne with
    ⟨hstands, heq⟩ | ⟨hchanged, span, hspan, htag⟩
  · refine iff_of_true ?_ hstands
    rw [heq, flatMap_write_bareUrl hscheme hu, restore_paragraph (hnone (by simp))
      (hnone (by simp)), Url.showSlashes_shown hscheme,
      Url.showSlashes_of_notMem (Url.notMem_of_isAddressChar hu (by decide))]
  · -- The URL has no bracket of its own, so the one of the tag that is opened is one too many.
    refine iff_of_false (fun hhtml => ?_) hchanged
    have hcount := congrArg (List.count '<') (Except.ok.inj hhtml)
    have hbracket : '<' ∈ span.write r.config.hardwrap := by
      rcases htag with ⟨kind, rfl⟩ | ⟨target, rfl⟩
      · exact List.mem_cons_self
      · exact List.mem_append_left _ (List.mem_append_left _ (List.mem_append_left _ (by decide)))
    have hmore := List.count_pos_iff.2 (List.mem_flatMap.2 ⟨span, hspan, hbracket⟩)
    have hopen : "<p>".toList.count '<' = 1 := by decide
    have hclose : "</p>".toList.count '<' = 1 := by decide
    have hlast : "</p>\n".toList.count '<' = 1 := by decide
    rw [count_restore, List.count_append, List.count_append, List.count_append, List.count_append,
      hopen, hclose, hlast, List.count_eq_zero.2 (hnone (by simp))] at hcount
    omega

/-- The underscore in the path of this URL is no emphasis: it stands in a word. -/
theorem Renderer.render_bareUrl_underscore :
    let r : Renderer := ⟨{}, .marked, none⟩
    (r.render ⟨none, none⟩ {} "https://example.com/x_y".toList).html =
      .ok "<p>https://example.com/x_y</p>".toList := by
  intro r
  let u := "example.com/x_y".toList
  have hscheme : "https".toList ∈ Url.hiddenSchemes := by decide
  have hu : ∀ c ∈ u, Url.isAddressChar c = true := List.all_eq_true.1 (by decide)
  have hsource : "https://example.com/x_y".toList = "https".toList ++ "://".toList ++ u := by
    decide
  have hhtml : "<p>https://example.com/x_y</p>".toList =
      "<p>".toList ++ ("https".toList ++ "://".toList ++ u) ++ "</p>".toList := by
    decide
  rw [hsource, hhtml]
  exact (r.render_bareUrl_iff ⟨none, none⟩ {} hscheme hu (by decide)).2
    (standsAsWritten_of_inWords (Url.isSlashed_of_isAddressChar hu) (by unfold InWords; decide)
      (by decide))

/-- A word between underscores is emphasized behind the slashes of a URL as it is elsewhere. -/
theorem Renderer.render_bareUrl_emphasized :
    let r : Renderer := ⟨{}, .marked, none⟩
    (r.render ⟨none, none⟩ {} "https://_a_".toList).html =
        .ok "<p>https://<em>a</em></p>".toList ∧
      "<p>https://<em>a</em></p>".toList ≠ "<p>https://_a_</p>".toList := by
  decide +kernel

end Docpress
