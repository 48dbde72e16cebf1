import Docpress.Proofs.Markdown.Transcript
import Docpress.Proofs.Renderer.Marker
import Docpress.Proofs.Renderer.Untouched
/-!
Rendering text that has neither inline tags nor URLs. There is nothing to protect in it, and the
steps after Markdown change the HTML only where Markdown itself has written what they look for.
-/

namespace Docpress

open Text Url Markdown Highlight

/-! ### Before Markdown -/

theorem protect_eq_self {source : Text} (htags : hasPart InlineTag.opening source = false)
    (hurls : ¬ HasScheme ["://".toList] source) : protect source = source := by
  rw [protect, InlineTag.escapeUnderscores, InlineTag.mapTags_of_not_hasPart htags]
  exact substitute_separatorTo_of_not hurls

/-! ### What Markdown writes -/

/-- A text in front of which nothing changes the property `P` of what follows it. -/
def Leaves (P : Text → Prop) (s : Text) : Prop :=
  ∀ t, P t → P (s ++ t)

theorem Leaves.nil {P : Text → Prop} : Leaves P [] := fun _ ht => ht

theorem Leaves.append {P : Text → Prop} {s t : Text} (hs : Leaves P s) (ht : Leaves P t) :
    Leaves P (s ++ t) := fun u hu => by
  rw [List.append_assoc]
  exact hs _ (ht u hu)

theorem Leaves.flatMap {α : Type} {P : Text → Prop} {f : α → Text} {l : List α}
    (h : ∀ a ∈ l, Leaves P (f a)) : Leaves P (l.flatMap f) := by
  induction l with
  | nil => exact .nil
  | cons a l ih =>
    obtain ⟨ha, hl⟩ := List.forall_mem_cons.1 h
    exact ha.append (ih hl)

theorem Markdown.IsMarkupChar.isFree {c : Char} (h : IsMarkupChar c) : IsFree c :=
  ⟨h.ne (by decide), h.ne (by decide), h.ne (by decide)⟩

theorem isAlphabet_free : IsAlphabet IsFree where
  own := by constructor <;> (unfold IsFree; decide)
  url := HoldsOfUrl.and (holdsOfUrl_ne (by decide)) (HoldsOfUrl.and (holdsOfUrl_ne (by decide))
    (holdsOfUrl_ne (by decide)))
  noReference h := h.2.2 rfl
  noEscape h := h.2.1 rfl

/-- The alphabet without one more character, of those that a tag with a quote is made of. -/
theorem isAlphabet_ne {d : Char} (hd : d ∈ ['\x7b', '@', '\x7d', '"']) :
    IsAlphabet fun c => IsFree c ∧ c ≠ d := by
  have hmarks : ∀ d ∈ ['\x7b', '@', '\x7d', '"'], (d.isAlphanum = false ∧ d.toNat < 128 ∧
      d ∉ ":/.-[]".toList) ∧ ' ' ≠ d ∧ '\n' ≠ d ∧ '|' ≠ d ∧ Char.ofNat 0xFFFD ≠ d :=
    List.all_iff_forall_prop.1 (by decide)
  obtain ⟨hurl, hspace, hlineEnd, hbar, hreplacement⟩ := hmarks d hd
  have hfree := isAlphabet_free
  exact {
    own := ⟨⟨hfree.own.space, hspace⟩, ⟨hfree.own.lineEnd, hlineEnd⟩, ⟨hfree.own.bar, hbar⟩,
      ⟨hfree.own.replacement, hreplacement⟩⟩
    url := HoldsOfUrl.and hfree.url (holdsOfUrl_ne hurl)
    noReference := fun h => hfree.noReference h.1
    noEscape := fun h => hfree.noEscape h.1 }

/-- The escapes of bytes have no character that HTML has an entity for. -/
theorem Html.escape_bytes {bytes : List Nat} (h : ∀ b ∈ bytes, b < 256) :
    Html.escape (bytes.flatMap escapeByte) = bytes.flatMap escapeByte := by
  have hdigit : ∀ d ∈ Url.hexDigits, Html.escapeChar d = [d] :=
    List.all_iff_forall_prop.1 (by decide)
  refine Html.escape_of_isUnescaped fun c hc => ?_
  obtain ⟨b, hb, hc⟩ := List.mem_flatMap.1 hc
  have hlow := h b hb
  simp only [escapeByte, List.mem_cons, List.not_mem_nil, or_false] at hc
  rcases hc with rfl | rfl | rfl
  · rfl
  · exact hdigit _ (hexUpper_mem _ (by omega))
  · exact hdigit _ (hexUpper_mem _ (Nat.mod_lt _ (by decide)))

/-- A property that neither entities nor the escapes of bytes change is not changed by an encoded
    part of a URL. -/
theorem leaves_percentEncode {p : Char → Prop} (hp : IsAlphabet p) (hslash : ¬ p '\\')
    {P : Text → Prop} (hentity : ∀ {c t}, p c → P t → P (Html.escapeChar c ++ t))
    (hbyte : ∀ {b t}, b < 256 → b ≠ '\\'.toNat → P t → P (escapeByte b ++ t)) {s : Text}
    (hs : Within p s) : Leaves P (Html.escape (percentEncode s)) := by
  have hnone : '%' ∉ s := fun hmem => hp.noEscape (hs _ hmem)
  rw [percentEncode_of_notMem hnone]
  clear hnone
  induction s with
  | nil => exact .nil
  | cons c s ih =>
    obtain ⟨hc, hs⟩ := within_cons.1 hs
    rw [List.flatMap_cons, Html.escape_append]
    refine .append ?_ (ih hs)
    rcases encodeUrlChar_cases c with hsame | ⟨bytes, heq, hb⟩
    · rw [hsame, Html.escape_cons, Html.escape_nil, List.append_nil]
      exact fun t ht => hentity hc ht
    · rw [heq, Html.escape_bytes fun b hmem => (hb b hmem).1]
      refine .flatMap fun b hmem t ht => hbyte (hb b hmem).1 ?_ ht
      exact fun hbackslash => hslash ((hb b hmem).2 hbackslash ▸ hc)

/-- A property that no character of a document or of a tag, no entity and no escape of a byte
    changes is not changed by the document's HTML. -/
theorem transcribes_leaves {p : Char → Prop} (hp : IsAlphabet p) (hslash : ¬ p '\\')
    {P : Text → Prop} (hmarkup : ∀ {c t}, IsMarkupChar c → P t → P (c :: t))
    (hchar : ∀ {c t}, p c → P t → P (c :: t))
    (hentity : ∀ {c t}, p c → P t → P (Html.escapeChar c ++ t))
    (hbyte : ∀ {b t}, b < 256 → b ≠ '\\'.toNat → P t → P (escapeByte b ++ t)) :
    Transcribes p (Leaves P) where
  toIsAlphabet := hp
  nil := .nil
  append := .append
  markup := fun hc t ht => hmarkup hc ht
  verbatim := fun hc t ht => hchar hc ht
  escaped := fun hc t ht => hentity hc ht
  target := fun {url} h => by
    have hparts := (Parts.Within.ofText hp.url h).recode fun _ _ hhost hnew =>
      hostToAscii_within hp.url hhost hnew
    have hbracket {c : Char} (hc : p c) (hsame : Html.escape [c] = [c]) :
        Leaves P (Html.escape [c]) := hsame.symm ▸ fun t ht => hchar hc ht
    have hencode {s : Text} (hs : Within p s) : Leaves P (Html.escape (percentEncode s)) :=
      leaves_percentEncode hp hslash hentity hbyte hs
    refine Parts.formatWith_of (P := fun s => Leaves P (Html.escape s)) (fun s t hs ht => ?_)
      ⟨hbracket hp.url.brackets.1 rfl, hbracket hp.url.brackets.2 rfl⟩
      (hencode (hparts.lead hp.url)) (hencode hparts.host) (hencode (hparts.tail hp.url))
    rw [Html.escape_append]
    exact hs.append ht

/-! ### What is not in the HTML -/

/-- A character that Markdown does not write of its own and that no entity or escape holds. -/
theorem transcribes_notMem {d : Char} (hd : d ∈ ['\x7b', '@', '\x7d']) :
    Transcribes (fun c => IsFree c ∧ c ≠ d) (Leaves fun t => d ∉ t) := by
  have hentities : ∀ d ∈ ['\x7b', '@', '\x7d'], d ≠ '%' ∧ d ∉ Url.hexDigits ∧
      ∀ name ∈ Html.entityNames, d ∉ '&' :: name := List.all_iff_forall_prop.1 (by decide)
  obtain ⟨hpercent, hdigits, hnames⟩ := hentities d hd
  have hcons {c : Char} {t : Text} (hc : c ≠ d) (ht : d ∉ t) : d ∉ c :: t :=
    List.not_mem_cons_of_ne_of_not_mem (Ne.symm hc) ht
  have hown : ∀ d ∈ ['\x7b', '@', '\x7d'], ¬ IsMarkupChar d :=
    List.all_iff_forall_prop.1 (by decide)
  refine transcribes_leaves (isAlphabet_ne (List.mem_append_left ['"'] hd)) (fun h => h.1.1 rfl)
    (fun hc ht => hcons (hc.ne (hown d hd)) ht) (fun hc ht => hcons hc.2 ht)
    (fun {c t} hc ht => ?_) (fun {b t} hb _ ht => ?_)
  · rcases Html.escapeChar_cases c with hsame | ⟨-, name, hname, hsame⟩
    · rw [hsame]
      exact hcons hc.2 ht
    · rw [hsame, List.mem_append, not_or]
      exact ⟨hnames name hname, ht⟩
  · have hhigh : hexUpper (b / 16) ≠ d :=
      fun heq => hdigits (heq ▸ hexUpper_mem _ (by omega))
    have hlow : hexUpper (b % 16) ≠ d :=
      fun heq => hdigits (heq ▸ hexUpper_mem _ (Nat.mod_lt _ (by decide)))
    exact hcons (Ne.symm hpercent) (hcons hhigh (hcons hlow ht))

/-- No entity is written that stands for none of the characters. -/
theorem transcribes_lacksEntity {p : Char → Prop} (hp : IsAlphabet p) (hslash : ¬ p '\\') (d : Char)
    (part : Text)
    (hd : ∀ {c name}, p c → Html.escapeChar c = '&' :: name → name.head? ≠ some d) :
    Transcribes p (Leaves fun t => hasPart ('&' :: d :: part) t = false) := by
  have hcons {c : Char} {t : Text} (hc : c ≠ '&') (ht : hasPart ('&' :: d :: part) t = false) :
      hasPart ('&' :: d :: part) (c :: t) = false := by
    rw [hasPart_cons, startsWith_cons_of_ne hc, ht]
    rfl
  have hchar {c : Char} (hc : p c) : c ≠ '&' := fun heq => hp.noReference (heq ▸ hc)
  have hnames : ∀ name ∈ Html.entityNames, '&' ∉ name ∧ name ≠ [] := by decide
  refine transcribes_leaves hp hslash (fun hc ht => hcons hc.isFree.2.2 ht)
    (fun hc ht => hcons (hchar hc) ht) (fun {c t} hc ht => ?_) (fun {b t} hb _ ht => ?_)
  · rcases Html.escapeChar_cases c with hsame | ⟨-, name, hname, hsame⟩
    · rw [hsame]
      exact hcons (hchar hc) ht
    · have hhead := hd hc hsame
      obtain ⟨hamp, hne⟩ := hnames name hname
      obtain ⟨first, rest, rfl⟩ := List.exists_cons_of_ne_nil hne
      have hfirst : first ≠ d := by simpa using hhead
      have hstarts : startsWith ('&' :: (first :: rest ++ t)) ('&' :: d :: part) = false :=
        startsWith_cons_of_ne hfirst _ _
      rw [hsame, List.cons_append, hasPart_cons, hstarts, hasPart_append_of_notMem hamp, ht]
      rfl
  · have hdigit : ∀ d ∈ Url.hexDigits, d ≠ '&' := List.all_iff_forall_prop.1 (by decide)
    have hhigh := hdigit _ (hexUpper_mem (b / 16) (by omega))
    have hlow := hdigit _ (hexUpper_mem (b % 16) (Nat.mod_lt _ (by decide)))
    exact hcons (by decide) (hcons hhigh (hcons hlow ht))

theorem transcribes_lacksApostrophe :
    Transcribes IsFree (Leaves fun t => hasPart "&#39;".toList t = false) := by
  have hnames : ∀ name ∈ Html.entityNames, name.head? ≠ some '#' := by decide
  refine transcribes_lacksEntity isAlphabet_free (fun h => h.1 rfl) '#' "39;".toList
    fun {c name} hc heq => ?_
  rcases Html.escapeChar_cases c with hsame | ⟨-, other, hother, hsame⟩
  · obtain ⟨rfl, -⟩ := List.cons.inj (hsame.symm.trans heq)
    exact absurd rfl hc.2.2
  · obtain ⟨-, rfl⟩ := List.cons.inj (hsame.symm.trans heq)
    exact hnames other hother

/-- Without quotes no entity of a quote is written. -/
theorem transcribes_lacksQuote : Transcribes (fun c => IsFree c ∧ c ≠ '"')
    (Leaves fun t => hasPart "&quot;".toList t = false) := by
  have hothers : ∀ c ∈ ['<', '>'], (Html.escapeChar c)[1]? ≠ some 'q' :=
    List.all_iff_forall_prop.1 (by decide)
  refine transcribes_lacksEntity (isAlphabet_ne (by decide)) (fun h => h.1.1 rfl) 'q' "uot;".toList
    fun {c name} hc heq hhead => ?_
  rcases Html.escapeChar_cases c with hsame | ⟨hspecial, -⟩
  · obtain ⟨rfl, -⟩ := List.cons.inj (hsame.symm.trans heq)
    exact absurd rfl hc.1.2.2
  · have hc' : c ∈ ['<', '>'] := by
      simp only [List.mem_cons, List.not_mem_nil, or_false] at hspecial ⊢
      exact (hspecial.resolve_left hc.1.2.2).imp_right fun h => h.resolve_right hc.2
    refine hothers c hc' ?_
    rw [heq, List.getElem?_cons_succ, ← List.head?_eq_getElem?, hhead]

/-- No marker is written. -/
theorem transcribes_unmarked : Transcribes IsFree (Leaves IsUnmarked) := by
  have hcons {c : Char} {t : Text} (hc : IsFree c) (ht : IsUnmarked t) : IsUnmarked (c :: t) :=
    (isUnmarked_cons hc.2.1).2 ⟨hc.1, ht⟩
  have hnames : ∀ name ∈ Html.entityNames, IsClear ('&' :: name) := by decide
  refine transcribes_leaves isAlphabet_free (fun h => h.1 rfl) (fun hc ht => hcons hc.isFree ht)
    hcons (fun {c t} hc ht => ?_) (fun hb hne ht => ?_)
  · rcases Html.escapeChar_cases c with hsame | ⟨-, name, hname, hsame⟩
    · rw [hsame]
      exact hcons hc ht
    · rw [hsame]
      exact (isUnmarked_append (hnames name hname)).2 ht
  · exact (isUnmarked_byte (hexUpper_mem _ (by omega))
      (hexUpper_mem _ (Nat.mod_lt _ (by decide)))).2 ⟨hexUpper_ne hb hne, ht⟩

/-! ### The HTML of a document -/

/-- What is left alone by the HTML of a document holds of it. -/
theorem writeDocument_leaves (config : MarkdownConfig) {p : Char → Prop} {P : Text → Prop}
    (hQ : Transcribes p (Leaves P)) (hnil : P []) {text : Text} (h : Within p text) :
    P (writeDocument config.hardwrap [] (config.document text)) := by
  have hevents : ∀ e ∈ config.document text, e.IsMadeOf (Leaves P) config.hardwrap :=
    config.document_forall (heading_attributes hQ.toHoldsOfMarkup) (document_isMadeOf hQ _ h)
  have hwritten := writeEvents_composed hQ.toHoldsOfMarkup config.hardwrap false hevents [] hnil
  rwa [List.append_nil] at hwritten

/-- A part of what is left when white space is cut off at the end. -/
theorem hasPart_of_trimBlankEnd {part s : Text} (hpart : part ≠ [])
    (h : hasPart part (Text.trimBlankEnd s) = true) : hasPart part s = true := by
  obtain ⟨blanks, hs, -⟩ := trimEnd_append isBlank s
  obtain ⟨before, after, heq⟩ := (hasPart_iff hpart).1 h
  refine (hasPart_iff hpart).2 ⟨before, after ++ blanks, ?_⟩
  rw [hs, ← List.append_assoc]
  exact congrArg (· ++ blanks) heq

/-- An inline tag with a quote has all characters that such a tag is made of. -/
theorem InlineTag.Encloses.mem {before after : Text} (h : Encloses before after) :
    '\x7b' ∈ before ∧ '@' ∈ before ∧ '\x7d' ∈ after := by
  obtain ⟨⟨start, body, rfl, -⟩, inner, rest, rfl, -⟩ := h
  exact ⟨by simp, by simp, by simp⟩

theorem Url.IsUnmarked.not_hasScheme {s : Text} (h : IsUnmarked s) :
    ¬ HasScheme hiddenForms s := by
  rintro ⟨scheme, hscheme, form, hform, hpart⟩
  have hne : scheme ++ form ≠ [] := by
    rw [exists_cons_of_mem_hiddenSchemes scheme hscheme]
    exact List.cons_ne_nil _ _
  obtain ⟨before, after, rfl⟩ := (hasPart_iff hne).1 hpart
  rcases mem_hiddenForms.1 hform with rfl | rfl
  · exact h.backslash (by simp [hiddenSlashes])
  · refine Bool.eq_false_iff.1 h.encoded ((hasPart_iff (by decide)).2
      ⟨before ++ scheme ++ [':'], "/%5C/".toList ++ after, ?_⟩)
    have hform : ":%5C/%5C/".toList = [':'] ++ "%5C".toList ++ "/%5C/".toList := by decide
    rw [hform]
    simp only [List.append_assoc]

/-- Markdown writes nothing that the steps after it would change, if the text has no backslash, no
    percent sign and no ampersand, and lacks one of the characters of a tag with a quote. -/
theorem writeDocument_isUntouched (config : MarkdownConfig) {text : Text} (h : Within IsFree text)
    {d : Char} (hd : d ∈ ['\x7b', '@', '\x7d', '"']) (hnone : d ∉ text) :
    IsUntouched
      (Text.trimBlankEnd (writeDocument config.hardwrap [] (config.document text))) := by
  have hne : Within (fun c => IsFree c ∧ c ≠ d) text :=
    fun c hc => ⟨h c hc, fun heq => hnone (heq ▸ hc)⟩
  have hunmarked := writeDocument_leaves config transcribes_unmarked isUnmarked_nil h
  have happly := writeDocument_leaves config transcribes_lacksApostrophe rfl h
  have hquotes : ¬ ∃ before after, Text.trimBlankEnd
      (writeDocument config.hardwrap [] (config.document text)) =
        before ++ "&quot;".toList ++ after ∧ InlineTag.Encloses before after := by
    rintro ⟨before, after, heq, hinside⟩
    obtain ⟨hbrace, hat, hclose⟩ := hinside.mem
    obtain ⟨blanks, hhtml, -⟩ := trimEnd_append isBlank
      (writeDocument config.hardwrap [] (config.document text))
    have hmem {c : Char} (hc : c ∈ before ++ "&quot;".toList ++ after) :
        c ∈ writeDocument config.hardwrap [] (config.document text) := by
      rw [← heq] at hc
      rw [hhtml]
      exact List.mem_append_left blanks hc
    have hcharacter {c : Char} (hc : c ∈ ['\x7b', '@', '\x7d'])
        (hwritten : c ∈ before ++ "&quot;".toList ++ after) : d ≠ c := by
      rintro rfl
      exact writeDocument_leaves config (transcribes_notMem hc) List.not_mem_nil hne
        (hmem hwritten)
    simp only [List.mem_cons, List.not_mem_nil, or_false] at hd
    rcases hd with rfl | rfl | rfl | rfl
    · exact hcharacter (by decide) (by simp [hbrace]) rfl
    · exact hcharacter (by decide) (by simp [hat]) rfl
    · exact hcharacter (by decide) (by simp [hclose]) rfl
    · refine Bool.eq_false_iff.1 (writeDocument_leaves config transcribes_lacksQuote rfl hne) ?_
      exact hasPart_of_trimBlankEnd (by decide) ((hasPart_iff (by decide)).2 ⟨before, after, heq⟩)
  refine ⟨Bool.eq_false_iff.2 fun hpart => ?_, ?_, hquotes⟩
  · exact Bool.eq_false_iff.1 happly (hasPart_of_trimBlankEnd (by decide) hpart)
  · rintro ⟨scheme, hscheme, form, hform, hpart⟩
    refine hunmarked.not_hasScheme ⟨scheme, hscheme, form, hform,
      hasPart_of_trimBlankEnd ?_ hpart⟩
    rw [exists_cons_of_mem_hiddenSchemes scheme hscheme]
    exact List.cons_ne_nil _ _

/-! ### Rendering -/

/-- A source with neither an inline tag nor a URL is given to Markdown as it is. The outcome is what
    Markdown makes of it, without the white space at its end, exactly if the steps after Markdown
    find nothing in that: no entity of an apostrophe, no URL with hidden slashes, and no entity of a
    quote in an inline tag. Without a highlighter they find nothing in the HTML of any source that
    has no backslash, no percent sign and no ampersand, and lacks one of the characters of an inline
    tag with a quote. -/
theorem Renderer.render_eq_engine_iff (r : Renderer) (i : Installation) (state : LoadState)
    {source : Text} (htags : hasPart InlineTag.opening source = false)
    (hurls : ¬ HasScheme ["://".toList] source) :
    (r.render i state source).state = (r.engine i state source).state ∧
    (r.render i state source).logs = (r.engine i state source).logs ∧
    (r.render i state source).commands = (r.engine i state source).commands ∧
    ((r.render i state source).html = (r.engine i state source).html.map Text.trimBlankEnd ↔
      ∀ html, (r.engine i state source).html = .ok html → IsUntouched (Text.trimBlankEnd html)) ∧
    (r.highlighter = none → Within IsFree source →
      (∃ c ∈ ['\x7b', '@', '\x7d', '"'], c ∉ source) →
        (r.render i state source).html = (r.engine i state source).html.map Text.trimBlankEnd) := by
  have hprotect := protect_eq_self htags hurls
  have hhtml : (r.render i state source).html = (r.engine i state source).html.map restore := by
    rw [Renderer.html_render, hprotect]
  have hiff : (r.render i state source).html =
      (r.engine i state source).html.map Text.trimBlankEnd ↔
        ∀ html, (r.engine i state source).html = .ok html →
          IsUntouched (Text.trimBlankEnd html) := by
    rw [hhtml]
    cases (r.engine i state source).html with
    | error failure => exact ⟨fun _ _ h => (nomatch h), fun _ => rfl⟩
    | ok html =>
      simp only [Except.map, Except.ok.injEq, forall_eq', restore_eq_trimBlankEnd_iff]
  refine ⟨?_, ?_, ?_, hiff, fun hoff hfree hlacks => hiff.2 fun html hengine => ?_⟩
  · exact congrArg (fun text => (r.engine i state text).state) hprotect
  · exact congrArg (fun text => (r.engine i state text).logs) hprotect
  · exact congrArg (fun text => (r.engine i state text).commands) hprotect
  · obtain ⟨c, hc, hnone⟩ := hlacks
    rw [Renderer.engine_of_off hoff] at hengine
    obtain rfl := Except.ok.inj hengine
    exact writeDocument_isUntouched r.config hfree hc hnone

/-- Quotes and braces in prose, code and a title come out as Markdown has written them. -/
theorem Renderer.render_eq_engine_prose :
    let r : Renderer := ⟨{}, .marked, none⟩
    let source := "# A \"b\"\n\n\x60\x7bc: \"d\"\x7d\x60 _e_ [f](g 'h \"i\"')\n".toList
    let html := ("<h1>A &quot;b&quot;</h1>\n<p><code>\x7bc: &quot;d&quot;\x7d</code> <em>e</em> " ++
      "<a href=\"g\" title=\"h &quot;i&quot;\">f</a></p>").toList
    hasPart InlineTag.opening source = false ∧ ¬ HasScheme ["://".toList] source ∧
      r.highlighter = none ∧ Within IsFree source ∧ '@' ∉ source ∧
      (r.render ⟨none, none⟩ {} source).html = .ok html := by
  intro r source html
  have htags : hasPart InlineTag.opening source = false := by decide
  have hurls : ¬ HasScheme ["://".toList] source := by decide
  have hfree : Within IsFree source := by
    have hall : (source.all fun c => c != '\\' && c != '%' && c != '&') = true := by decide
    intro c hc
    simpa [IsFree, and_assoc] using List.all_eq_true.1 hall c hc
  have hat : '@' ∉ source := by decide
  obtain ⟨-, -, -, -, hsame⟩ := Renderer.render_eq_engine_iff r ⟨none, none⟩ {} htags hurls
  have hwritten : writeDocument false [] (r.config.document source) = html ++ ['\n'] := by
    decide +kernel
  have htrimmed : Text.trimBlankEnd (html ++ ['\n']) = html := by decide +kernel
  refine ⟨htags, hurls, rfl, hfree, hat, ?_⟩
  rw [hsame rfl hfree ⟨'@', by decide, hat⟩, Renderer.engine_of_off rfl]
  exact congrArg Except.ok ((congrArg Text.trimBlankEnd hwritten).trans htrimmed)

/-- Slashes that were escaped in the source itself are taken for hidden ones, and lose their
    backslashes in code; and a brace whose at sign was escaped begins an inline tag in the HTML. -/
theorem Renderer.render_ne_engine_escaped :
    let r : Renderer := ⟨{}, .marked, none⟩
    let code := "\x60http:\\/\\/x\x60".toList
    let tag := "\x7b\\@a \"b\"\x7d".toList
    (r.engine ⟨none, none⟩ {} code).html = .ok "<p><code>http:\\/\\/x</code></p>\n".toList ∧
    (r.render ⟨none, none⟩ {} code).html = .ok "<p><code>http://x</code></p>".toList ∧
    (r.engine ⟨none, none⟩ {} tag).html = .ok "<p>\x7b@a &quot;b&quot;\x7d</p>\n".toList ∧
    (r.render ⟨none, none⟩ {} tag).html = .ok "<p>\x7b@a \"b\"\x7d</p>".toList ∧
    ∀ source ∈ [code, tag], hasPart InlineTag.opening source = false ∧
      ¬ HasScheme ["://".toList] source ∧ hasPart "&#39;".toList source = false ∧
      (r.render ⟨none, none⟩ {} source).html ≠
        (r.engine ⟨none, none⟩ {} source).html.map Text.trimBlankEnd := by
  intro r code tag
  have hengine (text : Text) : (r.engine ⟨none, none⟩ {} text).html =
      .ok (writeDocument false [] (r.config.document text)) := Renderer.engine_of_off rfl _ _ _
  have hrender (source : Text) : (r.render ⟨none, none⟩ {} source).html =
      .ok (restore (writeDocument false [] (r.config.document (protect source)))) := by
    rw [Renderer.html_render, hengine]
    rfl
  have hdiffer : ∀ source ∈ [code, tag], hasPart InlineTag.opening source = false ∧
      ¬ HasScheme ["://".toList] source ∧ hasPart "&#39;".toList source = false ∧
      restore (writeDocument false [] (r.config.document (protect source))) ≠
        Text.trimBlankEnd (writeDocument false [] (r.config.document source)) := by
    decide
  refine ⟨?_, ?_, ?_, ?_, fun source hsource => ?_⟩
  · rw [hengine]
    exact congrArg Except.ok (by decide)
  · rw [hrender]
    exact congrArg Except.ok (by decide)
  · rw [hengine]
    exact congrArg Except.ok (by decide)
  · rw [hrender]
    exact congrArg Except.ok (by decide)
  · obtain ⟨htags, hurls, hentity, hne⟩ := hdiffer source hsource
    refine ⟨htags, hurls, hentity, ?_⟩
    rw [hrender, hengine]
    exact fun heq => hne (Except.ok.inj heq)

end Docpress
