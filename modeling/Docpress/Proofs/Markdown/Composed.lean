import Docpress.Proofs.Markdown.Passes
import Docpress.Proofs.Markdown.Written
/-!
The HTML of a document is put together: escaped texts and attribute values stand between tags of
Markdown's own. What holds of all of these, and of whatever is joined of them, holds of the HTML.
-/

namespace Docpress.Markdown

open Text

/-- A character of the tags and of the attributes that Markdown writes of its own. -/
def IsMarkupChar (c : Char) : Prop :=
  isWord c = true ∨ c ∈ " <>/=\":-\n".toList

instance (c : Char) : Decidable (IsMarkupChar c) :=
  inferInstanceAs (Decidable (_ ∨ _))

instance (s : Text) : Decidable (Within IsMarkupChar s) :=
  List.decidableBAll IsMarkupChar s

theorem IsMarkupChar.ne {c d : Char} (hc : IsMarkupChar c) (hd : ¬ IsMarkupChar d) : c ≠ d := by
  rintro rfl
  exact hd hc

theorem within_isMarkupChar_of_isWord {s : Text} (h : IsWord s) : Within IsMarkupChar s := by
  intro c hc
  have hascii : c.toNat < 128 := Nat.lt_of_le_of_lt (toNat_of_isAlphanum (h c hc)).2 (by decide)
  refine .inl ?_
  rw [isWord, if_pos hascii, h c hc]
  rfl

theorem Within.isMarkupChar_of_isName {name : Text} (h : Within IsNameChar name) :
    Within IsMarkupChar name := by
  intro c hc
  rcases h c hc with hword | rfl
  · exact .inl hword
  · exact .inr (by decide)

/-- A name is not changed by escaping. -/
theorem escape_of_isName {name : Text} (h : Within IsNameChar name) : Html.escape name = name := by
  have hnone : ∀ d ∈ ['&', '<', '>', '"'], ¬ (isWord d = true ∨ d = '-') :=
    List.all_iff_forall_prop.1 (by decide +kernel)
  refine Html.escape_of_isUnescaped fun c hc => ?_
  rcases Html.escapeChar_cases c with hsame | ⟨hspecial, -⟩
  · exact hsame
  · exact absurd (h c hc) (hnone c hspecial)

theorem fenceLanguage_within {q : Char → Prop} {info : Text} (h : Within q (unescape info)) :
    Within q (fenceLanguage info) := by
  have hwords : ∀ word ∈ Text.words isBlank (unescape info), Within q word :=
    fun word hword => h.splitBy _ word (List.mem_filter.1 hword).1
  unfold fenceLanguage
  cases hlist : Text.words isBlank (unescape info) with
  | nil => exact .nil
  | cons word rest => exact hwords word (hlist ▸ List.mem_cons_self)

/-- `Q` holds of Markdown's own tags, and of all that is joined of texts of which it holds. -/
structure HoldsOfMarkup (Q : Text → Prop) : Prop where
  nil : Q []
  append {s t : Text} : Q s → Q t → Q (s ++ t)
  markup {c : Char} : IsMarkupChar c → Q [c]

namespace HoldsOfMarkup

variable {Q : Text → Prop} {s : Text}

theorem flatMap {α : Type} {f : α → Text} {l : List α} (h : HoldsOfMarkup Q)
    (hf : ∀ a ∈ l, Q (f a)) : Q (l.flatMap f) := by
  induction l with
  | nil => exact h.nil
  | cons a l ih =>
    obtain ⟨ha, hl⟩ := List.forall_mem_cons.1 hf
    exact h.append ha (ih hl)

/-- What holds of each character of a text holds of the text. -/
theorem of_forall (h : HoldsOfMarkup Q) (hs : ∀ c ∈ s, Q [c]) : Q s := by
  induction s with
  | nil => exact h.nil
  | cons c s ih =>
    obtain ⟨hc, hs⟩ := List.forall_mem_cons.1 hs
    exact h.append hc (ih hs)

theorem markupText (h : HoldsOfMarkup Q) (hs : Within IsMarkupChar s) : Q s :=
  h.of_forall fun c hc => h.markup (hs c hc)

/-- A value that escaping does not change. -/
theorem plainValue (h : HoldsOfMarkup Q) (hs : Html.escape s = s)
    (hmarkup : Within IsMarkupChar s) : Q (Html.escape s) :=
  hs.symm ▸ h.markupText hmarkup

theorem word (h : HoldsOfMarkup Q) (hs : IsWord s) : Q (Html.escape s) :=
  h.plainValue (Html.escape_of_isUnescaped (Html.isUnescaped_of_isWord hs))
    (within_isMarkupChar_of_isWord hs)

end HoldsOfMarkup

section

variable {Q : Text → Prop} (hQ : HoldsOfMarkup Q)

include hQ

/-! ### Tags -/

theorem attr_composed (name : String) (hname : Within IsMarkupChar name.toList) {value : Text}
    (hvalue : Q (Html.escape value)) : Q (attr name value) := by
  have hspace : Within IsMarkupChar [' '] := by decide
  have hequals : Within IsMarkupChar "=\"".toList := by decide
  have hclose : Within IsMarkupChar ['"'] := by decide
  have hlead : Q (' ' :: name.toList ++ "=\"".toList) :=
    hQ.markupText ((hspace.append hname).append hequals)
  exact hQ.append (hQ.append hlead hvalue) (hQ.markupText hclose)

theorem titleAttribute_composed {title : Text} (h : Q (Html.escape title)) :
    Q (titleAttribute title) := by
  unfold titleAttribute
  split
  · exact hQ.nil
  · exact attr_composed hQ _ (by decide) h

/-- A tag and what follows it. -/
theorem tag_composed {name attributes after : Text} (hname : Within IsMarkupChar name)
    (hattributes : Q attributes) (hafter : Q after) :
    Q ('<' :: name ++ attributes ++ '>' :: after) := by
  have hopen : Q ('<' :: name) :=
    hQ.markupText (within_cons.2 ⟨(by decide : IsMarkupChar '<'), hname⟩)
  have hclose : Q ('>' :: after) := hQ.append (hQ.markup (by decide)) hafter
  exact hQ.append (hQ.append hopen hattributes) hclose

/-- Without an identifier the attributes of an element are fixed texts and numbers. -/
theorem Element.IsUnnamed.attributes {e : Element} (h : e.IsUnnamed) : Q e.attributes := by
  unfold Element.attributes
  split
  · refine hQ.append ?_ ?_
    · split
      · split
        · exact hQ.nil
        · exact attr_composed hQ _ (by decide) (hQ.word (isWord_ofNat _))
      · exact hQ.nil
    · split
      · exact attr_composed hQ _ (by decide) (hQ.plainValue (by decide) (by decide))
      · exact hQ.nil
  · exact attr_composed hQ _ (by decide) (hQ.plainValue (by decide) (by decide))
  · exact h.elim
  · rename_i align
    refine attr_composed hQ _ (by decide) ?_
    cases align <;> exact hQ.plainValue (by decide) (by decide)
  · exact hQ.nil

theorem heading_attributes (level : Nat) {name : Text} (h : Within IsNameChar name) :
    Q (Element.attributes (.heading level (some name))) :=
  attr_composed hQ "id" (by decide)
    (hQ.plainValue (escape_of_isName h) (Within.isMarkupChar_of_isName h))

/-! ### Running text -/

/-- `Q` holds of what the piece is written as between tags. -/
def Span.IsMadeOf (Q : Text → Prop) : Span → Prop
  | .text s => Q (Html.escape s)
  | .literal s => Q (Html.escape s)
  | .code s => Q (Html.escape s)
  | .html s => Q s
  | .openLink target => Q (Html.escape target.url) ∧ Q (Html.escape target.title)
  | .image target alt _ =>
    Q (Html.escape target.url) ∧ Q (Html.escape target.title) ∧ Q (Html.escape alt)
  | _ => True

theorem Span.IsMadeOf.write (breaks : Bool) {s : Span} (h : s.IsMadeOf Q) :
    Q (s.write breaks) := by
  have hbreak : Within IsMarkupChar lineBreak := by decide
  cases s with
  | text => exact h
  | literal => exact h
  | code s =>
    have hopen : Within IsMarkupChar "<code>".toList := by decide
    have hclose : Within IsMarkupChar "</code>".toList := by decide
    exact hQ.append (hQ.append (hQ.markupText hopen) h) (hQ.markupText hclose)
  | html => exact h
  | softBreak =>
    cases breaks with
    | false => exact hQ.markup (by decide)
    | true => exact hQ.markupText hbreak
  | hardBreak => exact hQ.markupText hbreak
  | openEmphasis kind =>
    have htag : ∀ kind : Emphasis, Within IsMarkupChar ('<' :: kind.tag ++ ['>']) := by
      rintro (_ | _ | _) <;> decide
    exact hQ.markupText (htag kind)
  | closeEmphasis kind =>
    have htag : ∀ kind : Emphasis, Within IsMarkupChar ('<' :: '/' :: kind.tag ++ ['>']) := by
      rintro (_ | _ | _) <;> decide
    exact hQ.markupText (htag kind)
  | openLink target =>
    obtain ⟨hurl, htitle⟩ := h
    have hopen : Within IsMarkupChar "<a".toList := by decide
    have hhref := attr_composed hQ "href" (by decide) hurl
    exact hQ.append (hQ.append (hQ.append (hQ.markupText hopen) hhref)
      (titleAttribute_composed hQ htitle)) (hQ.markup (by decide))
  | closeLink =>
    have hclose : Within IsMarkupChar "</a>".toList := by decide
    exact hQ.markupText hclose
  | image target alt innerAlt =>
    obtain ⟨hurl, htitle, halt⟩ := h
    have hopen : Within IsMarkupChar "<img".toList := by decide
    have hclose : Within IsMarkupChar " />".toList := by decide
    have hsrc := attr_composed hQ "src" (by decide) hurl
    have halt := attr_composed hQ "alt" (by decide) halt
    exact hQ.append (hQ.append (hQ.append (hQ.append (hQ.markupText hopen) hsrc) halt)
      (titleAttribute_composed hQ htitle)) (hQ.markupText hclose)

/-! ### Blocks -/

theorem writeCode_composed {content : Text} (h : Q (Html.escape content)) :
    Q (markSource (codeHtml content)) := by
  have hopen : Within IsMarkupChar (sourceTag ++ "<code>".toList) := by decide
  have hclose : Within IsMarkupChar "</code></pre>\n".toList := by decide
  have hcode : codeHtml content = "<pre>".toList ++
      ("<code>".toList ++ Html.escape content ++ "</code></pre>\n".toList) := rfl
  rw [hcode, markSource_pre, ← List.append_assoc, ← List.append_assoc]
  exact hQ.append (hQ.append (hQ.markupText hopen) h) (hQ.markupText hclose)

theorem writeFence_composed {info content : Text}
    (hlanguage : Q (Html.escape (fenceLanguage info))) (h : Q (Html.escape content)) :
    Q (markSource (fenceHtml info content [])) := by
  have hsource : Within IsMarkupChar sourceTag := by decide
  have hclose : Within IsMarkupChar "</code></pre>\n".toList := by decide
  have hclass : Q (languageClass info) := by
    unfold languageClass
    split
    · exact hQ.nil
    · refine attr_composed hQ _ (by decide) ?_
      rw [Html.escape_append]
      exact hQ.append (hQ.plainValue (by decide) (by decide)) hlanguage
  rw [fenceHtml_nil, markSource_pre]
  exact hQ.append (hQ.markupText hsource)
    (tag_composed hQ (by decide) hclass (hQ.append h (hQ.markupText hclose)))

/-- `Q` holds of what the event is written as between tags. -/
def Event.IsMadeOf (Q : Text → Prop) (breaks : Bool) : Event (List Span) → Prop
  | .start e => Q e.attributes
  | .inline spans => Q (spans.flatMap (Span.write breaks))
  | .code content => Q (Html.escape content)
  | .fence info content => Q (Html.escape (fenceLanguage info)) ∧ Q (Html.escape content)
  | .html content => Q content
  | _ => True

/-- What is written without a highlighter's replies is put together of what each event is made
    of. -/
theorem writeEvents_composed (breaks hidden : Bool) {events : List (Event (List Span))}
    (h : ∀ e ∈ events, e.IsMadeOf Q breaks) : Q (writeEvents breaks hidden [] events) := by
  have hnewLine (b : Bool) : Q (if b then ['\n'] else []) := by
    cases b
    · exact hQ.nil
    · exact hQ.markup (by decide)
  induction events generalizing hidden with
  | nil => exact hQ.nil
  | cons event rest ih =>
    obtain ⟨hevent, hrest⟩ := List.forall_mem_cons.1 h
    unfold writeEvents
    cases event with
    | start e =>
      refine hQ.append ?_ (ih _ hrest)
      split
      · exact hQ.nil
      · have htag := tag_composed hQ (within_isMarkupChar_of_isWord e.tag_isWord) hevent
          (hnewLine (endsLine e rest))
        have hline := hQ.append (hnewLine hidden) htag
        simpa using hline
    | stop e =>
      refine hQ.append ?_ (ih _ hrest)
      split
      · exact hQ.nil
      · have hopen : Within IsMarkupChar ['<', '/'] := by decide
        have hclose : Within IsMarkupChar ['>', '\n'] := by decide
        exact hQ.markupText
          ((hopen.append (within_isMarkupChar_of_isWord e.tag_isWord)).append hclose)
    | inline spans => exact hQ.append hevent (ih _ hrest)
    | rule =>
      have hrule : Within IsMarkupChar "<hr />\n".toList := by decide
      exact hQ.append (hQ.append (hnewLine hidden) (hQ.markupText hrule)) (ih _ hrest)
    | code content => exact hQ.append (writeCode_composed hQ hevent) (ih _ hrest)
    | html content => exact hQ.append hevent (ih _ hrest)
    | fence info content =>
      exact hQ.append (writeFence_composed hQ hevent.1 hevent.2) (ih _ hrest)

end

end Docpress.Markdown
