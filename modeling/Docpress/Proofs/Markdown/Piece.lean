import Docpress.Markdown.Html
import Docpress.Proofs.Markdown.Guarded
import Docpress.Proofs.Markdown.Mark
/-!
Pieces of running text without markers but those that are shown again. Joining texts, putting
emphasis in place and making bare addresses links keep them so.
-/

namespace Docpress.Markdown

open Text Url

/-- The piece has no markers but those that are shown again. Text has none at all, for bare
    addresses are looked for in it. -/
def Span.IsMasked : Span → Prop
  | .text s => IsClear s
  | .literal s => IsClear s
  | .code s => Masked s
  | .html s => Masked s
  | .openLink target => target.IsMasked
  | .image target alt innerAlt => target.IsMasked ∧ Masked alt ∧ Masked innerAlt
  | _ => True

/-- All pieces are masked, and so is the text of an address, which alone may hold hidden slashes. -/
inductive MaskedSpans : List Span → Prop where
  | nil : MaskedSpans []
  | piece {s rest} (hs : s.IsMasked) (hrest : MaskedSpans rest) : MaskedSpans (s :: rest)
  | address {url broken shown rest} (hurl : Masked url) (hshown : Masked shown)
      (hrest : MaskedSpans rest) :
      MaskedSpans (.openLink ⟨url, [], broken⟩ :: .text shown :: .closeLink :: rest)

theorem isMasked_of_url {url : Text} (h : Masked url) (broken : Bool) :
    LinkTarget.IsMasked ⟨url, [], broken⟩ :=
  ⟨h, .nil⟩

theorem Span.IsMark.isMasked {s : Span} (h : s.IsMark) : s.IsMasked := by
  cases s with
  | text => exact h
  | openEmphasis => trivial
  | closeEmphasis => trivial
  | _ => exact h.elim

namespace MaskedSpans

variable {spans : List Span}

theorem append {more : List Span} (h : MaskedSpans spans) (hmore : MaskedSpans more) :
    MaskedSpans (spans ++ more) := by
  induction h with
  | nil => exact hmore
  | piece hs _ ih => exact .piece hs ih
  | address hurl hshown _ ih => exact .address hurl hshown ih

/-! ### What pieces are written as -/

theorem flatMap {f : Span → Text} (hpiece : ∀ {s : Span}, s.IsMasked → Masked (f s))
    (htext : ∀ {s : Text}, Masked s → Masked (f (.text s))) (h : MaskedSpans spans) :
    Masked (spans.flatMap f) := by
  induction h with
  | nil => exact .nil
  | piece hs _ ih => exact (hpiece hs).append ih
  | @address url broken _ _ hurl hshown _ ih =>
    have hlink := hpiece (s := .openLink ⟨url, [], broken⟩) (isMasked_of_url hurl broken)
    have hclose : Masked (f .closeLink) := hpiece trivial
    exact hlink.append ((htext hshown).append (hclose.append ih))

end MaskedSpans

theorem Span.IsMasked.alt {s : Span} (h : s.IsMasked) : Masked s.alt := by
  cases s with
  | text => exact IsClear.masked h
  | literal => exact IsClear.masked h
  | code => exact h
  | html => exact h
  | softBreak => exact .char (by decide) .nil
  | hardBreak => exact .char (by decide) .nil
  | image => exact h.2.2
  | _ => exact .nil

theorem Span.IsMasked.innerAlt {s : Span} (h : s.IsMasked) : Masked s.innerAlt := by
  unfold Span.innerAlt
  split
  · exact .nil
  · exact h.alt

namespace MaskedSpans

variable {spans : List Span}

theorem alt (h : MaskedSpans spans) : Masked (spans.flatMap Span.alt) :=
  h.flatMap Span.IsMasked.alt id

theorem innerAlt (h : MaskedSpans spans) : Masked (spans.flatMap Span.innerAlt) :=
  h.flatMap Span.IsMasked.innerAlt id

/-! ### What becomes of pieces -/

theorem joinTexts (h : MaskedSpans spans) : MaskedSpans (Markdown.joinTexts spans) := by
  induction h with
  | nil => exact .nil
  | @piece s rest hs hrest ih =>
    cases s with
    | text s =>
      rw [Markdown.joinTexts]
      split
      · rename_i t more heq
        rw [heq] at ih
        cases ih with
        | piece ht hmore => exact .piece (Within.append hs ht) hmore
      · exact .piece hs ih
    | _ => exact .piece hs ih
  | address hurl hshown _ ih => exact .address hurl hshown ih

/-- A mark in the place of another one makes no difference. -/
theorem of_sameButMarks {after : List Span} (h : MaskedSpans spans)
    (hsame : SameButMarks spans.toArray after.toArray) : MaskedSpans after := by
  induction h generalizing after with
  | nil =>
    rw [hsame.eq_nil]
    exact .nil
  | piece hs _ ih =>
    obtain ⟨t, more, rfl, ht, hmore⟩ := hsame.exists_cons
    rcases ht with rfl | ⟨-, ht⟩
    · exact .piece hs (ih hmore)
    · exact .piece ht.isMasked (ih hmore)
  | @address url broken shown rest hurl hshown _ ih =>
    obtain ⟨link, _, rfl, hlink, hafterLink⟩ := hsame.exists_cons
    obtain ⟨t, _, rfl, ht, hafterText⟩ := hafterLink.exists_cons
    obtain ⟨close, _, rfl, hclose, hrest⟩ := hafterText.exists_cons
    rw [hlink.resolve_right fun h => h.1, hclose.resolve_right fun h => h.1]
    rcases ht with rfl | ⟨-, ht⟩
    · exact .address hurl hshown (ih hrest)
    · exact .piece (isMasked_of_url hurl _) (.piece ht.isMasked (.piece trivial (ih hrest)))

end MaskedSpans

end Docpress.Markdown
