import Docpress.Proofs.InlineTag.Tag
import Docpress.Proofs.Url.Slashes
/-!
Texts that differ in line breaks only. A break stands before a line end, and neither inline tags nor
URLs nor entities reach over a line end, so the steps after Markdown treat two such texts alike.
-/

namespace Docpress.Html

open Text

/-- The tag of a line break. -/
def breakTag : Text :=
  "<br />".toList

/-- The text without the tags of line breaks. -/
def eraseBreaks (html : Text) : Text :=
  replaceAll breakTag [] html

/-- The first text is the second one with breaks before some of its line ends. -/
inductive Broken : (broken plain : Text) → Prop where
  | same (s : Text) : Broken s s
  | lineEnd (lead : Text) {s t : Text} (h : Broken s t) :
      Broken (lead ++ breakTag ++ '\n' :: s) (lead ++ '\n' :: t)

namespace Broken

variable {s t s' t' : Text}

theorem prepend (lead : Text) (h : Broken s t) : Broken (lead ++ s) (lead ++ t) := by
  cases h with
  | same => exact .same _
  | lineEnd first h =>
    rw [← List.append_assoc, ← List.append_assoc, ← List.append_assoc]
    exact .lineEnd _ h

theorem append (h : Broken s t) (h' : Broken s' t') : Broken (s ++ s') (t ++ t') := by
  induction h with
  | same s => exact h'.prepend s
  | lineEnd lead _ ih =>
    rw [List.append_assoc _ _ s', List.cons_append, List.append_assoc _ _ t', List.cons_append]
    exact .lineEnd lead ih

theorem flatMap {α : Type} {f g : α → Text} (h : ∀ a, Broken (f a) (g a)) (l : List α) :
    Broken (l.flatMap f) (l.flatMap g) := by
  induction l with
  | nil => exact .same []
  | cons a l ih => exact (h a).append ih

/-- What goes through lines apart, and does not see a break at the end of a line, keeps breaks where
    they are. -/
theorem map {f : Text → Text} (hline : ∀ s t, f (s ++ '\n' :: t) = f s ++ '\n' :: f t)
    (hbreak : ∀ s, f (s ++ breakTag) = f s ++ breakTag) (h : Broken s t) :
    Broken (f s) (f t) := by
  induction h with
  | same s => exact .same _
  | lineEnd lead _ ih =>
    rw [hline, hline, hbreak]
    exact .lineEnd _ ih

/-- Without their breaks the texts are the same. -/
theorem eraseBreaks_eq (h : Broken s t) : eraseBreaks s = eraseBreaks t := by
  have herase : ∀ s, eraseBreaks s = replaceAll ('<' :: "br />".toList) [] s := fun _ => rfl
  have hline : ∀ s t, eraseBreaks (s ++ '\n' :: t) = eraseBreaks s ++ '\n' :: eraseBreaks t := by
    intro s t
    rw [herase, replaceAll_append_cons (by decide)]
    rfl
  have hbreak : ∀ s, eraseBreaks (s ++ breakTag) = eraseBreaks s := by
    intro s
    have htag : s ++ breakTag = s ++ '<' :: "br />".toList ++ [] := (List.append_nil _).symm
    rw [htag, herase, replaceAll_append_append (by decide), List.append_nil, replaceAll_nil,
      List.append_nil]
    rfl
  induction h with
  | same => rfl
  | lineEnd lead _ ih => rw [hline, hline, hbreak, ih]

/-! ### The steps after Markdown -/

theorem decodeApostrophes (h : Broken s t) :
    Broken (Html.decodeApostrophes s) (Html.decodeApostrophes t) := by
  have hpart : "&#39;".toList = '&' :: "#39;".toList := by decide
  have hcons : ∀ c ∈ ['<', '\n'], ∀ s t, Html.decodeApostrophes (s ++ c :: t) =
      Html.decodeApostrophes s ++ c :: Html.decodeApostrophes t := by
    intro c hc s t
    have hnone : ∀ c ∈ ['<', '\n'], c ∉ '&' :: "#39;".toList :=
      List.all_iff_forall_prop.1 (by decide)
    rw [Html.decodeApostrophes, hpart]
    exact replaceAll_append_cons (hnone c hc) s t
  exact h.map (hcons '\n' (by simp)) fun s => hcons '<' (by simp) s "br />".toList

theorem showSlashes (h : Broken s t) : Broken (Url.showSlashes s) (Url.showSlashes t) :=
  h.map (Url.showSlashes_append_cons (by decide)) fun s =>
    Url.showSlashes_append_cons (by decide) s "br />".toList

theorem decodeQuotes (h : Broken s t) :
    Broken (InlineTag.decodeQuotes s) (InlineTag.decodeQuotes t) :=
  h.map InlineTag.mapTags_append_lineEnd fun s =>
    InlineTag.mapTags_append_of_open (by decide) (by decide) s

end Broken

end Docpress.Html
