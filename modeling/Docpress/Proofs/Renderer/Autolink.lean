import Docpress.Proofs.Markdown.AngleLink
import Docpress.Proofs.Renderer.Line
/-!
A URL in angle brackets, from the source to the HTML. Its hidden slashes come out in two forms, as
they were hidden in the link's text and percent-encoded in its target, and both are shown again.
-/

namespace Docpress

open Text Markdown Highlight

/-- A letter, a digit or one of the marks between the parts of a URL. -/
def Url.isAddressChar (c : Char) : Bool :=
  c.isAlphanum || ['.', '/', '-', '_', '?', '=', '#'].contains c

theorem Url.isSafe_of_isAddressChar {u : Text} (hu : ∀ c ∈ u, isAddressChar c = true) :
    IsSafe u := by
  have hmarks : ∀ c ∈ ['.', '/', '-', '_', '?', '=', '#'], c.toNat < 128 ∧ isUrlSafe c = true :=
    List.all_iff_forall_prop.1 (by decide)
  intro c hc
  rcases Bool.or_eq_true_iff.1 (hu c hc) with hword | hmark
  · refine ⟨?_, by rw [isUrlSafe, hword, Bool.true_or]⟩
    have hhigh := (toNat_of_isAlphanum hword).2
    omega
  · exact hmarks c (List.contains_iff_mem.1 hmark)

theorem Url.notMem_of_isAddressChar {u : Text} (hu : ∀ c ∈ u, isAddressChar c = true) {c : Char}
    (hc : isAddressChar c = false) : c ∉ u :=
  fun hmem => Bool.false_ne_true (hc.symm.trans (hu c hmem))

theorem Url.isUnescaped_of_isAddressChar {u : Text} (hu : ∀ c ∈ u, isAddressChar c = true) :
    Html.IsUnescaped u := by
  intro c hc
  rcases Html.escapeChar_cases c with hsame | ⟨hspecial, -⟩
  · exact hsame
  · have hnone : ∀ d ∈ ['&', '<', '>', '"'], isAddressChar d = false :=
      List.all_iff_forall_prop.1 (by decide)
    exact absurd hc (notMem_of_isAddressChar hu (hnone c hspecial))

/-- Slashes of a URL in angle brackets are hidden, and nothing else is protected in it. -/
theorem protect_angled {scheme u : Text} (hscheme : scheme ∈ Url.hiddenSchemes)
    (hu : ∀ c ∈ u, Url.isAddressChar c = true) :
    protect ('<' :: (scheme ++ "://".toList ++ u) ++ ['>']) = angled scheme u := by
  have hlead : ∀ scheme ∈ Url.hiddenSchemes, '{' ∉ '<' :: (scheme ++ "://".toList) := by decide
  have hbrace : '{' ∉ '<' :: (scheme ++ "://".toList ++ u) ++ ['>'] := by
    rw [← List.cons_append, List.append_assoc, List.mem_append, not_or]
    refine ⟨hlead scheme hscheme, fun hmem => ?_⟩
    exact (List.mem_append.1 hmem).elim (Url.notMem_of_isAddressChar hu (by decide)) (by decide)
  have hcolon : ':' ∉ u := Url.notMem_of_isAddressChar hu (by decide)
  rw [protect, InlineTag.escapeUnderscores,
    InlineTag.mapTags_of_not_hasPart (hasPart_of_notMem hbrace),
    Url.hideSlashes_append_cons (by decide), Url.hideSlashes_cons_of_ne (by decide),
    Url.hideSlashes_scheme hscheme, Url.hideSlashes_of_notMem hcolon]
  rfl

/-- The tag of a link up to its target. -/
def linkLead : Text :=
  "<a href=".toList

/-- A link as HTML. -/
def linkHtml (target text : Text) : Text :=
  linkLead ++ '"' :: (target ++ '"' :: '>' :: (text ++ '<' :: "/a>".toList))

theorem flatMap_write_link (breaks broken : Bool) {target text : Text}
    (htarget : Html.IsUnescaped target) (htext : Html.IsUnescaped text) :
    [Span.openLink ⟨target, [], broken⟩, .text text, .closeLink].flatMap (Span.write breaks) =
      linkHtml target text := by
  have hopen : "<a".toList ++ attr "href" target = linkLead ++ '"' :: target ++ ['"'] := by
    have hlead : linkLead = "<a".toList ++ ' ' :: "href".toList ++ ['='] := by decide
    have hmid : "=\"".toList = ['=', '"'] := by decide
    rw [attr, Html.escape_of_isUnescaped htarget, hlead, hmid]
    simp only [List.append_assoc, List.cons_append, List.nil_append]
  have hclose : "</a>".toList = '<' :: "/a>".toList := by decide
  have hwrite : [Span.openLink ⟨target, [], broken⟩, .text text, .closeLink].flatMap (Span.write breaks) =
      "<a".toList ++ attr "href" target ++ [] ++ ['>'] ++
        (Html.escape text ++ ("</a>".toList ++ [])) := rfl
  rw [hwrite, hopen, hclose, Html.escape_of_isUnescaped htext, linkHtml]
  simp only [List.append_assoc, List.cons_append, List.nil_append, List.append_nil]

/-- A link has neither an ampersand nor a brace if there is none in its target and its text. -/
theorem notMem_linkHtml {c : Char} (hc : c ∈ ['&', '{']) {target text : Text}
    (htarget : c ∉ target) (htext : c ∉ text) : c ∉ linkHtml target text := by
  have htags : ∀ c ∈ ['&', '{'], c ∉ linkLead ∧ c ≠ '"' ∧ c ≠ '>' ∧ c ≠ '<' ∧ c ∉ "/a>".toList :=
    List.all_iff_forall_prop.1 (by decide)
  obtain ⟨hopen, hquote, hbracket, hclose, hname⟩ := htags c hc
  simp only [linkHtml, List.mem_append, List.mem_cons, not_or]
  exact ⟨hopen, hquote, htarget, hquote, hbracket, htext, hclose, hname⟩

/-- Slashes are shown in the target and in the text of a link. -/
theorem showSlashes_linkHtml (target text : Text) :
    Url.showSlashes (linkHtml target text) =
      linkHtml (Url.showSlashes target) (Url.showSlashes text) := by
  have hfirst : Url.showSlashes linkLead = linkLead := by decide
  have hlast : Url.showSlashes "/a>".toList = "/a>".toList := by decide
  have htext : Url.showSlashes (text ++ '<' :: "/a>".toList) =
      Url.showSlashes text ++ '<' :: "/a>".toList := by
    rw [Url.showSlashes_append_cons (by decide), hlast]
  have htarget (rest : Text) : Url.showSlashes (target ++ '"' :: '>' :: rest) =
      Url.showSlashes target ++ '"' :: '>' :: Url.showSlashes rest := by
    rw [Url.showSlashes_append_cons (by decide), Url.showSlashes_cons_of_ne (by decide)]
  rw [linkHtml, Url.showSlashes_append_cons (by decide), hfirst, htarget, htext, linkHtml]

/-- A URL in angle brackets is rendered as a link to the URL, with the URL as its text. -/
theorem Renderer.render_angled (r : Renderer) (i : Installation) (state : LoadState)
    {scheme u : Text} (hscheme : scheme ∈ Url.hiddenSchemes)
    (hu : ∀ c ∈ u, Url.isAddressChar c = true) :
    let url := scheme ++ "://".toList ++ u
    (r.render i state ('<' :: url ++ ['>'])).html =
      .ok ("<p><a href=\"".toList ++ url ++ "\">".toList ++ url ++ "</a></p>".toList) := by
  intro url
  have hdocument := document_angled hscheme (Url.isSafe_of_isAddressChar hu)
  rw [← protect_angled hscheme hu] at hdocument
  have hunescaped (form : Text) (hform : form ∈ Url.hiddenForms) :
      Html.IsUnescaped (scheme ++ form ++ u) := by
    have hlead : ∀ scheme ∈ Url.hiddenSchemes, ∀ form ∈ Url.hiddenForms,
        Html.IsUnescaped (scheme ++ form) := by decide
    exact List.forall_mem_append.2 ⟨hlead scheme hscheme form hform,
      Url.isUnescaped_of_isAddressChar hu⟩
  have hshow (form : Text) (hform : form ∈ Url.hiddenForms) :
      Url.showSlashes (scheme ++ form ++ u) = url := by
    rw [Url.showSlashes_scheme hscheme hform,
      Url.showSlashes_of_notMem (Url.notMem_of_isAddressChar hu (by decide))]
  have hnone {c : Char} (hc : c ∈ ['&', '{']) : c ∉ linkHtml (scheme ++ ":%5C/%5C/".toList ++ u)
      (scheme ++ Url.hiddenSlashes ++ u) := by
    have hlead : ∀ c ∈ ['&', '{'], (∀ scheme ∈ Url.hiddenSchemes, ∀ form ∈ Url.hiddenForms,
        c ∉ scheme ++ form) ∧ Url.isAddressChar c = false :=
      List.all_iff_forall_prop.1 (by decide)
    obtain ⟨hurl, hmark⟩ := hlead c hc
    have hform (form : Text) (hform : form ∈ Url.hiddenForms) : c ∉ scheme ++ form ++ u := by
      rw [List.mem_append, not_or]
      exact ⟨hurl scheme hscheme form hform, Url.notMem_of_isAddressChar hu hmark⟩
    exact notMem_linkHtml hc (hform _ (by decide)) (hform _ (by decide))
  have hopen : "<p><a href=\"".toList = "<p>".toList ++ linkLead ++ ['"'] := by decide
  have hmid : "\">".toList = ['"', '>'] := by decide
  have hclose : "</a></p>".toList = '<' :: "/a>".toList ++ "</p>".toList := by decide
  rw [r.html_render_of_paragraph hdocument,
    flatMap_write_link _ _ (hunescaped _ (by decide)) (hunescaped _ (by decide)), restore_paragraph
    (hnone (by simp)) (hnone (by simp)), showSlashes_linkHtml, hshow _ (by decide),
    hshow _ (by decide), hopen, hmid, hclose, linkHtml]
  simp only [List.append_assoc, List.cons_append, List.nil_append]

/-- A URL with all kinds of marks, among them such as Markdown takes for emphasis elsewhere. -/
theorem Renderer.render_angled_marks :
    let r : Renderer := ⟨{}, .marked, none⟩
    (r.render ⟨none, none⟩ {} "<https://a.b/-_c_?d=//e#f>".toList).html =
      .ok ("<p><a href=\"https://a.b/-_c_?d=//e#f\">".toList ++
        "https://a.b/-_c_?d=//e#f</a></p>".toList) := by
  intro r
  let url := "https".toList ++ "://".toList ++ "a.b/-_c_?d=//e#f".toList
  have hscheme : "https".toList ∈ Url.hiddenSchemes := by decide
  have hu : ∀ c ∈ "a.b/-_c_?d=//e#f".toList, Url.isAddressChar c = true :=
    List.all_eq_true.1 (by decide)
  have hsource : "<https://a.b/-_c_?d=//e#f>".toList = '<' :: url ++ ['>'] := by decide
  have hhtml : "<p><a href=\"https://a.b/-_c_?d=//e#f\">".toList ++
      "https://a.b/-_c_?d=//e#f</a></p>".toList =
        "<p><a href=\"".toList ++ url ++ "\">".toList ++ url ++ "</a></p>".toList := by
    decide
  rw [hsource, hhtml]
  exact r.render_angled ⟨none, none⟩ {} hscheme hu

end Docpress
