import Docpress.Markdown.Html
import Docpress.Proofs.Markdown.Document
/-!
A document without raw HTML is written as well-formed HTML: texts and attribute values are escaped,
so that every angle bracket and every double quote belongs to a tag of the document's structure.
-/

namespace Docpress.Markdown

open Html

/-! ### Tags -/

theorem attr_isTagInner {name : String} (hname : IsPlain name.toList) (value : Text) :
    IsTagInner (attr name value) := by
  have hstart : IsPlain (' ' :: name.toList ++ ['=']) := by
    refine IsPlain.append ?_ (by decide)
    exact List.forall_mem_cons.2 ⟨by decide, hname⟩
  have hattr : attr name value =
      (' ' :: name.toList ++ ['=']) ++ ('"' :: escape value ++ ['"']) := by
    have hequals : "=\"".toList = ['=', '"'] := rfl
    rw [attr, hequals]
    simp
  rw [hattr]
  exact hstart.isTagInner.append (escape_isPlain value).isTagInner_quoted

theorem titleAttribute_isTagInner (title : Text) : IsTagInner (titleAttribute title) := by
  unfold titleAttribute
  split
  · rfl
  · exact attr_isTagInner (by decide) title

/-- Elements have names of letters and digits. -/
theorem Element.tag_isWord (e : Element) : Text.IsWord e.tag := by
  have hnames : ∀ name ∈ ["blockquote", "ul", "ol", "li", "p", "table", "thead", "tbody", "tr",
      "th", "td"], Text.IsWord name.toList := by decide
  cases e with
  | quote => exact hnames "blockquote" (by simp)
  | list first tasks =>
    cases first with
    | none => exact hnames "ul" (by simp)
    | some n => exact hnames "ol" (by simp)
  | item task => exact hnames "li" (by simp)
  | paragraph tight => exact hnames "p" (by simp)
  | heading level id => exact List.forall_mem_cons.2 ⟨by decide, Text.isWord_ofNat level⟩
  | table => exact hnames "table" (by simp)
  | head => exact hnames "thead" (by simp)
  | body => exact hnames "tbody" (by simp)
  | row => exact hnames "tr" (by simp)
  | cell header alignment =>
    cases header with
    | false => exact hnames "td" (by simp)
    | true => exact hnames "th" (by simp)

theorem Element.tag_isPlain (e : Element) : IsPlain e.tag :=
  isPlain_of_isWord e.tag_isWord

theorem Element.attributes_isTagInner (e : Element) : IsTagInner e.attributes := by
  unfold Element.attributes
  split
  · refine IsTagInner.append ?_ ?_
    · split
      · split
        · rfl
        · exact attr_isTagInner (by decide) _
      · rfl
    · split
      · exact attr_isTagInner (by decide) _
      · rfl
  · exact attr_isTagInner (by decide) _
  · exact attr_isTagInner (by decide) _
  · exact attr_isTagInner (by decide) _
  · rfl

/-! ### Running text -/

theorem Emphasis.tag_isPlain (kind : Emphasis) : IsPlain kind.tag := by
  cases kind <;> decide

theorem lineBreak_isMarkup : IsMarkup lineBreak := by decide

/-- A tag with nothing after it. -/
theorem isMarkup_tag {inner : Text} (h : IsTagInner inner) : IsMarkup ('<' :: inner ++ ['>']) :=
  h.isMarkup rfl

/-- An image as one tag. -/
theorem Span.write_image (breaks : Bool) (target : LinkTarget) (alt innerAlt : Text) :
    Span.write breaks (.image target alt innerAlt) =
      '<' :: ("img".toList ++ attr "src" target.url ++ attr "alt" alt ++
        titleAttribute target.title ++ " /".toList) ++ ['>'] := by
  have hwrite : Span.write breaks (.image target alt innerAlt) =
      '<' :: "img".toList ++ attr "src" target.url ++ attr "alt" alt ++
        titleAttribute target.title ++ (" /".toList ++ ['>']) := rfl
  rw [hwrite]
  simp

theorem Span.write_isMarkup (breaks : Bool) {span : Span} (h : span.IsSound) :
    IsMarkup (span.write breaks) := by
  cases span with
  | text s => exact (escape_isPlain s).isMarkup
  | literal s => exact (escape_isPlain s).isMarkup
  | code s =>
    have hopen : IsMarkup "<code>".toList := by decide
    have hclose : IsMarkup "</code>".toList := by decide
    exact (hopen.append (escape_isPlain s).isMarkup).append hclose
  | html s => exact h
  | softBreak =>
    cases breaks with
    | true => exact lineBreak_isMarkup
    | false => rfl
  | hardBreak => exact lineBreak_isMarkup
  | openEmphasis kind => exact isMarkup_tag kind.tag_isPlain.isTagInner
  | closeEmphasis kind =>
    have hname : IsPlain ('/' :: kind.tag) :=
      List.forall_mem_cons.2 ⟨by decide, kind.tag_isPlain⟩
    exact isMarkup_tag hname.isTagInner
  | openLink target =>
    have hname : IsTagInner ['a'] := rfl
    have hhref : IsPlain "href".toList := by decide
    have hinner := (hname.append (attr_isTagInner hhref target.url)).append
      (titleAttribute_isTagInner target.title)
    exact isMarkup_tag hinner
  | closeLink =>
    have hclose : IsMarkup "</a>".toList := by decide
    exact hclose
  | image target alt innerAlt =>
    have hname : IsTagInner "img".toList := by decide
    have hsrc : IsPlain "src".toList := by decide
    have halt : IsPlain "alt".toList := by decide
    have hend : IsTagInner " /".toList := by decide
    have hinner := (((hname.append (attr_isTagInner hsrc target.url)).append
      (attr_isTagInner halt alt)).append
        (titleAttribute_isTagInner target.title)).append hend
    rw [Span.write_image]
    exact isMarkup_tag hinner

/-! ### Blocks -/

/-- The opening tag of a block of code is the first one that is marked. -/
theorem markSource_pre (html : Text) : markSource ("<pre>".toList ++ html) = sourceTag ++ html :=
  rfl

theorem code_isMarkup (content : Text) : IsMarkup (markSource (codeHtml content)) := by
  have hopen : IsMarkup (sourceTag ++ "<code>".toList) := by decide
  have hclose : IsMarkup "</code></pre>\n".toList := by decide
  have hcode : codeHtml content =
      "<pre>".toList ++ ("<code>".toList ++ escape content ++ "</code></pre>\n".toList) := rfl
  rw [hcode, markSource_pre, ← List.append_assoc, ← List.append_assoc]
  exact (hopen.append (escape_isPlain content).isMarkup).append hclose

theorem startsWith_escape (content : Text) :
    Text.startsWith (escape content) "<pre".toList = false := by
  have hplain := escape_isPlain content
  cases hcontent : escape content with
  | nil => rfl
  | cons c s =>
    have hc : c ≠ '<' := (hplain c (by rw [hcontent]; simp)).1
    simp [Text.startsWith, Text.dropLead?, Ne.symm hc]

/-- The class of a fence's code. -/
def languageClass (info : Text) : Text :=
  if (fenceLanguage info).isEmpty then []
  else attr "class" ("language-".toList ++ fenceLanguage info)

theorem languageClass_isTagInner (info : Text) : IsTagInner (languageClass info) := by
  unfold languageClass
  split
  · rfl
  · exact attr_isTagInner (by decide) _

/-- A fence whose reply is no element of its own, as the tag that is marked and what follows it. -/
theorem fenceHtml_of_not_startsWith (info content : Text) {reply : Text}
    (h : Text.startsWith reply "<pre".toList = false) :
    fenceHtml info content reply = "<pre>".toList ++ ('<' :: ("code".toList ++ languageClass info) ++
      '>' :: ((if reply.isEmpty then escape content else reply) ++ "</code></pre>\n".toList)) := by
  have hshown : Text.startsWith (if reply.isEmpty then escape content else reply)
      "<pre".toList = false := by
    split
    · exact startsWith_escape content
    · exact h
  have hlead : "<pre><code".toList = "<pre>".toList ++ '<' :: "code".toList := rfl
  unfold fenceHtml
  dsimp only
  rw [if_neg (by rw [hshown]; exact Bool.false_ne_true), hlead, languageClass]
  simp only [List.append_assoc, List.cons_append]

/-- A reply that is an element of its own is taken whole. -/
theorem fenceHtml_of_startsWith (info content : Text) {reply : Text}
    (h : Text.startsWith reply "<pre".toList = true) :
    fenceHtml info content reply = reply ++ ['\n'] := by
  have hreply : reply.isEmpty = false := by
    cases reply with
    | nil => cases h
    | cons c reply => rfl
  unfold fenceHtml
  rw [hreply]
  exact if_pos h

/-- A fence without a reply, as the tag that is marked and what follows it. -/
theorem fenceHtml_nil (info content : Text) :
    fenceHtml info content [] = "<pre>".toList ++ ('<' :: ("code".toList ++ languageClass info) ++
      '>' :: (escape content ++ "</code></pre>\n".toList)) :=
  fenceHtml_of_not_startsWith info content rfl

theorem fence_isMarkup (info content : Text) :
    IsMarkup (markSource (fenceHtml info content [])) := by
  have hpre : IsMarkup sourceTag := by decide
  have hname : IsTagInner "code".toList := by decide
  have hclose : IsMarkup "</code></pre>\n".toList := by decide
  have hinner := hname.append (languageClass_isTagInner info)
  rw [fenceHtml_nil, markSource_pre]
  exact hpre.append (hinner.isMarkup ((escape_isPlain content).isMarkup.append hclose))

/-- Without replies of a highlighter, events whose raw HTML is well formed are written as
    well-formed HTML. -/
theorem writeEvents_isMarkup (breaks hidden : Bool) {events : List (Event (List Span))}
    (h : ∀ e ∈ events, e.IsSound) : IsMarkup (writeEvents breaks hidden [] events) := by
  have hnewLine (b : Bool) : IsMarkup (if b then ['\n'] else []) := by
    cases b <;> rfl
  induction events generalizing hidden with
  | nil => rfl
  | cons event rest ih =>
    obtain ⟨hevent, hrest⟩ := List.forall_mem_cons.1 h
    unfold writeEvents
    cases event with
    | start e =>
      refine IsMarkup.append ?_ (ih _ hrest)
      split
      · rfl
      · have hinner := e.tag_isPlain.isTagInner.append e.attributes_isTagInner
        have htag := hinner.isMarkup (hnewLine (endsLine e rest))
        have hline := (hnewLine hidden).append htag
        simpa using hline
    | stop e =>
      refine IsMarkup.append ?_ (ih _ hrest)
      split
      · rfl
      · have hname : IsPlain ('/' :: e.tag) :=
          List.forall_mem_cons.2 ⟨by decide, e.tag_isPlain⟩
        exact hname.isTagInner.isMarkup (t := ['\n']) rfl
    | inline spans =>
      refine IsMarkup.append (IsMarkup.flatMap fun span hspan => ?_) (ih _ hrest)
      exact Span.write_isMarkup breaks (hevent span hspan)
    | rule =>
      have hrule : IsMarkup "<hr />\n".toList := by decide
      exact ((hnewLine hidden).append hrule).append (ih _ hrest)
    | code content => exact (code_isMarkup content).append (ih _ hrest)
    | html content => exact IsMarkup.append hevent (ih _ hrest)
    | fence info content => exact (fence_isMarkup info content).append (ih _ hrest)

end Docpress.Markdown
