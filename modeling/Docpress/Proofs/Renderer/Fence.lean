import Docpress.Proofs.Renderer.Protect
/-!
Fenced code, from the source to the HTML. Whatever the lines of a fence hold, they come out as they
were written, with the characters escaped that HTML gives a meaning.
-/

namespace Docpress

open Text Markdown Highlight

/-! ### The source -/

/-- A line of code that a fence keeps: one line, which opens no inline tag, does not begin with the
    fence's mark and has no slashes that are hidden already. -/
structure IsCodeLine (l : Text) : Prop where
  single : '\r' ∉ l ∧ '\n' ∉ l ∧ Char.ofNat 0 ∉ l
  noTag : hasPart InlineTag.opening l = false
  notMark : startsWith (l.dropWhile isIndent) fenceMark = false
  shown : Url.showSlashes l = l

instance (l : Text) : Decidable (IsCodeLine l) :=
  decidable_of_iff (('\r' ∉ l ∧ '\n' ∉ l ∧ Char.ofNat 0 ∉ l) ∧
      hasPart InlineTag.opening l = false ∧
      startsWith (l.dropWhile isIndent) fenceMark = false ∧ Url.showSlashes l = l)
    ⟨fun ⟨h₁, h₂, h₃, h₄⟩ => ⟨h₁, h₂, h₃, h₄⟩, fun ⟨h₁, h₂, h₃, h₄⟩ => ⟨h₁, h₂, h₃, h₄⟩⟩

/-- Nothing but slashes is protected in the line. -/
theorem IsCodeLine.protect_eq {l : Text} (h : IsCodeLine l) : protect l = Url.hideSlashes l := by
  rw [protect, InlineTag.escapeUnderscores, InlineTag.mapTags_of_not_hasPart h.noTag]

/-- The line is one that Markdown keeps, with its slashes hidden. -/
theorem IsCodeLine.isFenceLine {l : Text} (h : IsCodeLine l) :
    IsFenceLine (Url.hideSlashes l) := by
  have hwritten : IsWrittenLine l := ⟨h.single, h.notMark⟩
  rw [← h.protect_eq]
  exact hwritten.isFenceLine

/-- Protecting a fence hides the slashes in its lines and changes nothing else. -/
theorem protect_fenced {info : Text} {lines : List Text} (ended : Bool)
    (hinfo : IsWord info) (hlines : ∀ l ∈ lines, IsCodeLine l) :
    protect (fenced info lines ended) = fenced info (lines.map Url.hideSlashes) ended := by
  rw [protect_fenced_lines hinfo, List.map_congr_left fun l hl => (hlines l hl).protect_eq]

/-! ### The HTML -/

/-- The tags before fenced code in a language, which may be empty, but for the last bracket. -/
def fencedLead (lang : Text) : Text :=
  "<pre class=\"source\"><code".toList ++
    if lang.isEmpty then [] else " class=\"language-".toList ++ lang ++ ['"']

/-- The tags after fenced code. -/
def fencedTail : Text :=
  "</code></pre>".toList

/-- Fenced code as HTML, given each of its lines as HTML. -/
def fencedHtml (lang : Text) (lines : List Text) : Text :=
  fencedLead lang ++ '>' :: (lines.flatMap (· ++ ['\n']) ++ fencedTail)

/-- A word as an info text is the language. -/
theorem fenceLanguage_of_isWord {info : Text} (hinfo : IsWord info) :
    fenceLanguage info = info := by
  have hunescape : unescape info = info := by
    induction info with
    | nil => rfl
    | cons c info ih =>
      obtain ⟨hc, hinfo⟩ := List.forall_mem_cons.1 hinfo
      have hescape : c ≠ '\\' := by
        rintro rfl
        exact absurd hc (by decide)
      have hreference : c ≠ '&' := by
        rintro rfl
        exact absurd hc (by decide)
      rw [unescape, substitute_cons_of_none (by simp [unescapeLead?, hescape, hreference])]
      exact congrArg (c :: ·) (ih hinfo)
  rw [fenceLanguage, hunescape]
  cases info with
  | nil => rfl
  | cons c info =>
    have hword : words isBlank (Text.join [' '] [c :: info]) = [c :: info] := by
      refine words_join (by decide) fun name hname => ?_
      obtain rfl := List.mem_singleton.1 hname
      exact ⟨by simp, fun d hd => isBlank_of_isAlphanum (hinfo d hd)⟩
    rw [Text.join] at hword
    rw [hword]
    rfl

/-- The class that a language gives to code. -/
theorem languageClass_of_isWord {info : Text} (hinfo : IsWord info) :
    languageClass info =
      if info.isEmpty then [] else " class=\"language-".toList ++ info ++ ['"'] := by
  have hplain : Html.IsUnescaped ("language-".toList ++ info) :=
    List.forall_mem_append.2
      ⟨List.all_iff_forall_prop.1 (by decide), Html.isUnescaped_of_isWord hinfo⟩
  have hlead : " class=\"language-".toList = ' ' :: "class".toList ++ "=\"".toList ++ "language-".toList := by
    decide
  rw [languageClass, fenceLanguage_of_isWord hinfo, attr, Html.escape_of_isUnescaped hplain,
    hlead]
  simp only [List.append_assoc, List.cons_append]

/-- A document that is a fence, as Markdown writes it. -/
theorem writeDocument_fenced (config : MarkdownConfig) {info : Text} {lines : List Text}
    (ended : Bool) (hinfo : IsWord info) (hlines : ∀ l ∈ lines, IsFenceLine l) :
    writeDocument config.hardwrap [] (config.document (fenced info lines ended)) =
      fencedHtml info (lines.map Html.escape) ++ ['\n'] := by
  have hevents : config.document (fenced info lines ended) =
      [.fence info (lines.flatMap (· ++ ['\n']))] := by
    rw [MarkdownConfig.document, document_fenced ended hinfo hlines]
    split <;> rfl
  have hescape : Html.escape (lines.flatMap (· ++ ['\n'])) =
      (lines.map Html.escape).flatMap (· ++ ['\n']) := by
    rw [Html.escape, List.flatMap_assoc, List.flatMap_map]
    exact congrArg (List.flatMap · lines) (funext fun l => Html.escape_append l ['\n'])
  have hopen : "<pre class=\"source\"><code".toList = sourceTag ++ '<' :: "code".toList := by
    decide
  have hclose : "</code></pre>\n".toList = fencedTail ++ ['\n'] := by decide
  rw [hevents, writeDocument, writeEvents, writeEvents, List.headD_nil, fenceHtml_nil,
    markSource_pre, hescape, languageClass_of_isWord hinfo, fencedHtml, hclose]
  unfold fencedLead
  rw [hopen]
  simp only [List.append_assoc, List.cons_append, List.append_nil]

/-! ### The steps after Markdown -/

theorem notMem_fencedLead {lang : Text} (hlang : IsWord lang) {c : Char}
    (hc : c ∈ ['&', '\x7b', ':']) : c ∉ fencedLead lang := by
  have hnone : ∀ c ∈ ['&', '\x7b', ':'], c ∉ "<pre class=\"source\"><code".toList ∧
      c ∉ " class=\"language-".toList ∧ c ∉ ['"'] ∧ Char.isAlphanum c = false :=
    List.all_iff_forall_prop.1 (by decide)
  obtain ⟨hopen, hclass, hquote, hword⟩ := hnone c hc
  intro h
  rcases List.mem_append.1 h with h | h
  · exact hopen h
  · split at h
    · cases h
    · rcases List.mem_append.1 h with h | h
      · exact (List.mem_append.1 h).elim hclass (hlang.notMem hword)
      · exact hquote h

theorem notMem_fencedTail : ∀ c ∈ ['&', '\x7b', ':'], c ∉ fencedTail :=
  List.all_iff_forall_prop.1 (by decide)

/-- A part that is in no line of the code is not in its HTML. -/
theorem hasPart_fencedHtml {p : Char} {part : Text} (hpart : '>' ∉ p :: part ∧ '\n' ∉ p :: part)
    (hp : p ∈ ['&', '\x7b', ':']) {lang : Text} (hlang : IsWord lang) {lines : List Text}
    (hlines : ∀ l ∈ lines, hasPart (p :: part) l = false) :
    hasPart (p :: part) (fencedHtml lang lines) = false := by
  rw [fencedHtml, hasPart_append_cons hpart.1, hasPart_of_notMem (notMem_fencedLead hlang hp),
    hasPart_lines_append hpart.2 hlines, hasPart_of_notMem (notMem_fencedTail p hp)]
  rfl

/-- Slashes are shown in each line by itself. -/
theorem showSlashes_fencedHtml {lang : Text} (hlang : IsWord lang) (lines : List Text) :
    Url.showSlashes (fencedHtml lang lines) = fencedHtml lang (lines.map Url.showSlashes) := by
  have hbody : ∀ t, Url.showSlashes (lines.flatMap (· ++ ['\n']) ++ t) =
      (lines.map Url.showSlashes).flatMap (· ++ ['\n']) ++ Url.showSlashes t := by
    intro t
    induction lines with
    | nil => rfl
    | cons l lines ih =>
      simp only [List.map_cons, List.flatMap_cons, List.append_assoc, List.cons_append,
        List.nil_append]
      rw [Url.showSlashes_append_cons (by decide), ih]
  rw [fencedHtml, Url.showSlashes_append_cons (by decide), hbody,
    Url.showSlashes_of_notMem (notMem_fencedLead hlang (by simp)),
    Url.showSlashes_of_notMem (notMem_fencedTail ':' (by simp)), fencedHtml]

/-- The steps after Markdown show the slashes in the lines again, and that is all they do to
    fenced code. -/
theorem restore_fencedHtml {lang : Text} {lines : List Text} (hlang : IsWord lang)
    (hlines : ∀ l ∈ lines, IsCodeLine l) :
    restore (fencedHtml lang ((lines.map Url.hideSlashes).map Html.escape) ++ ['\n']) =
      fencedHtml lang (lines.map Html.escape) := by
  have htrim : ∀ lines, trimBlankEnd (fencedHtml lang lines ++ ['\n']) = fencedHtml lang lines := by
    intro lines
    have hend : fencedTail = "</code></pre".toList ++ ['>'] := by decide
    have hlast : fencedHtml lang lines = (fencedLead lang ++
        '>' :: (lines.flatMap (· ++ ['\n']) ++ "</code></pre".toList)) ++ ['>'] := by
      rw [fencedHtml, hend]
      simp only [List.append_assoc, List.cons_append]
    rw [hlast, List.append_assoc, List.singleton_append, trimBlankEnd,
      trimEnd_append_cons (by decide) (List.all_eq_true.1 (by decide))]
  have happly : Html.decodeApostrophes
      (fencedHtml lang ((lines.map Url.hideSlashes).map Html.escape)) =
        fencedHtml lang ((lines.map Url.hideSlashes).map Html.escape) := by
    have hpart : "&#39;".toList = '&' :: "#39;".toList := by decide
    refine replaceAll_of_not_hasPart ?_
    rw [hpart]
    refine hasPart_fencedHtml (by decide) (by simp) hlang fun l hl => ?_
    obtain ⟨source, -, rfl⟩ := List.mem_map.1 hl
    rw [← hpart]
    exact Html.hasPart_apostrophe_escape source
  have hshow : ((lines.map Url.hideSlashes).map Html.escape).map Url.showSlashes =
      lines.map Html.escape := by
    rw [List.map_map, List.map_map]
    refine List.map_congr_left fun l hl => ?_
    exact Url.showSlashes_escape_hideSlashes (hlines l hl).shown
  have htags : InlineTag.decodeQuotes (fencedHtml lang (lines.map Html.escape)) =
      fencedHtml lang (lines.map Html.escape) := by
    refine InlineTag.mapTags_of_not_hasPart ?_
    refine hasPart_fencedHtml (by decide) (by simp) hlang fun l hl => ?_
    obtain ⟨source, hsource, rfl⟩ := List.mem_map.1 hl
    rw [Html.hasPart_escape (by decide) (by decide)]
    exact (hlines source hsource).noTag
  rw [restore, htrim, happly, showSlashes_fencedHtml hlang, hshow, htags]

/-- Fenced code is rendered as it was written: each line with the characters escaped that HTML gives
    a meaning, and a line end after it. -/
theorem Renderer.render_fenced {r : Renderer} (hoff : r.highlighter = none) (i : Installation)
    (state : LoadState) {lang : Text} {lines : List Text} (ended : Bool) (hlang : IsWord lang)
    (hlines : ∀ l ∈ lines, IsCodeLine l) :
    (r.render i state (fenced lang lines ended)).html =
      .ok (fencedHtml lang (lines.map Html.escape)) := by
  have hkept : ∀ l ∈ lines.map Url.hideSlashes, IsFenceLine l := by
    intro l hl
    obtain ⟨source, hsource, rfl⟩ := List.mem_map.1 hl
    exact (hlines source hsource).isFenceLine
  rw [Renderer.html_render, Renderer.engine_of_off hoff, protect_fenced ended hlang hlines,
    writeDocument_fenced r.config ended hlang hkept, Except.map, restore_fencedHtml hlang hlines]

/-- An address, an apostrophe and a tag that is spelled out, in code of a language. -/
theorem Renderer.render_fenced_script :
    let r : Renderer := ⟨{}, .marked, none⟩
    let lines := ["get https://a.b/c?x=1&y=\"2\"".toList, "# it's <pre>".toList, []]
    (r.render ⟨none, none⟩ {} (fenced "sh".toList lines true)).html =
      .ok ("<pre class=\"source\"><code class=\"language-sh\">".toList ++
        "get https://a.b/c?x=1&amp;y=&quot;2&quot;\n# it's &lt;pre&gt;\n\n</code></pre>".toList) := by
  intro r lines
  have hlines : ∀ l ∈ lines, IsCodeLine l := by decide
  have hhtml : fencedHtml "sh".toList (lines.map Html.escape) =
      "<pre class=\"source\"><code class=\"language-sh\">".toList ++
        "get https://a.b/c?x=1&amp;y=&quot;2&quot;\n# it's &lt;pre&gt;\n\n</code></pre>".toList := by
    decide
  rw [← hhtml]
  exact Renderer.render_fenced (r := r) rfl ⟨none, none⟩ {} true (by decide) hlines

end Docpress
