import Docpress.Proofs.InlineTag.Tag
import Docpress.Proofs.Text.Growth
import Docpress.Proofs.Url.Slashes
import Docpress.Renderer
/-!
HTML that the steps after Markdown leave as it is. Each step shortens a text in which it finds
anything, so none of them can make good what another one has changed.
-/

namespace Docpress

open Text InlineTag

/-! ### Apostrophes and slashes -/

theorem Html.decodeApostrophes_shrinks (s : Text) :
    (decodeApostrophes s).length ≤ s.length ∧
      (hasPart "&#39;".toList s = true → (decodeApostrophes s).length < s.length) := by
  have hlength : ['\''].length < "&#39;".toList.length := by decide
  have hshrinks := shrinks_replaceAll hlength
  refine ⟨hshrinks.length_substitute_le s, fun h => hshrinks.length_substitute_lt ?_⟩
  rwa [finds_replaceAll (by decide)]

/-- Somewhere in the text one of the separators follows a scheme. -/
def Url.HasScheme (separators : List Text) (s : Text) : Prop :=
  ∃ scheme ∈ hiddenSchemes, ∃ separator ∈ separators, hasPart (scheme ++ separator) s = true

instance (separators : List Text) (s : Text) : Decidable (Url.HasScheme separators s) :=
  inferInstanceAs (Decidable (∃ scheme ∈ Url.hiddenSchemes, ∃ separator ∈ separators, _))

theorem Url.finds_separatorTo {new : Text} {separators : List Text} {s : Text} :
    finds (separatorTo new separators) s = true ↔ HasScheme separators s := by
  have hclaims (here : Text) : (separatorTo new separators here).isSome = true ↔
      ∃ scheme ∈ hiddenSchemes, ∃ separator ∈ separators,
        startsWith here (scheme ++ separator) = true := by
    unfold separatorTo
    rw [List.findSome?_isSome_iff]
    refine exists_congr fun scheme => and_congr_right fun _ => ?_
    rw [List.findSome?_isSome_iff]
    refine exists_congr fun separator => and_congr_right fun _ => ?_
    split <;> simp_all
  induction s with
  | nil =>
    refine ⟨fun h => (by cases h), ?_⟩
    rintro ⟨scheme, hscheme, separator, -, hpart⟩
    rw [exists_cons_of_mem_hiddenSchemes scheme hscheme] at hpart
    cases hpart
  | cons c s ih =>
    rw [finds, Bool.or_eq_true, hclaims]
    refine (or_congr_right ih).trans ?_
    simp only [HasScheme, hasPart_cons, Bool.or_eq_true, and_or_left, exists_or]

/-- Without one of the separators after a scheme nothing is changed. -/
theorem Url.substitute_separatorTo_of_not {new : Text} {separators : List Text} {s : Text}
    (h : ¬ HasScheme separators s) : substitute (separatorTo new separators) s = s :=
  substitute_of_not_finds (Bool.eq_false_iff.2 fun hfinds => h (finds_separatorTo.1 hfinds))

theorem Url.showSlashes_shrinks (s : Text) :
    (showSlashes s).length ≤ s.length ∧
      (HasScheme hiddenForms s → (showSlashes s).length < s.length) := by
  have hforms : ∀ form ∈ hiddenForms, "://".toList.length < form.length := by decide
  have hshrinks : Shrinks (separatorTo "://".toList hiddenForms) := by
    intro here new more hclaim
    obtain ⟨scheme, -, form, hform, rest, rfl, rfl, rfl⟩ := separatorTo_eq_some hclaim
    have hlength := hforms form hform
    simp only [List.length_append]
    omega
  exact ⟨hshrinks.length_substitute_le s,
    fun h => hshrinks.length_substitute_lt (finds_separatorTo.2 h)⟩

/-! ### Quotes -/

/-- The entity of a quote lies in a tag somewhere in a text that stands after `before`. -/
def InlineTag.EnclosesQuote (before s : Text) : Prop :=
  ∃ lead after, s = lead ++ quoteEntity ++ after ∧ Encloses (before ++ lead) after

/-- Decoding leaves a text as it is, or shortens it, if the entity of a quote lies in a tag. -/
theorem InlineTag.Decodes.shrinks {before s t : Text} (h : Decodes before s t) :
    (t = s ∧ ¬ EnclosesQuote before s) ∨ (t.length < s.length ∧ EnclosesQuote before s) := by
  induction h with
  | nil =>
    refine .inl ⟨rfl, ?_⟩
    rintro ⟨lead, after, heq, -⟩
    exact absurd heq (by simp [quoteEntity])
  | @keep before c s t hplain hrest ih =>
    have hcons : EnclosesQuote before (c :: s) ↔ EnclosesQuote (before ++ [c]) s := by
      constructor
      · rintro ⟨lead, after, heq, hinside⟩
        cases lead with
        | nil => exact absurd (by simpa using hinside) (hplain after heq)
        | cons d lead =>
          obtain ⟨rfl, rfl⟩ := List.cons.inj heq
          exact ⟨lead, after, rfl, by simpa using hinside⟩
      · rintro ⟨lead, after, rfl, hinside⟩
        exact ⟨c :: lead, after, rfl, by simpa using hinside⟩
    rw [hcons]
    rcases ih with ⟨rfl, hnone⟩ | ⟨hless, hsome⟩
    · exact .inl ⟨rfl, hnone⟩
    · exact .inr ⟨Nat.succ_lt_succ hless, hsome⟩
  | @decode before after t hinside hrest ih =>
    have hle : t.length ≤ after.length := by
      rcases ih with ⟨rfl, -⟩ | ⟨hless, -⟩
      · exact Nat.le_refl _
      · exact Nat.le_of_lt hless
    refine .inr ⟨?_, [], after, rfl, by simpa using hinside⟩
    have hentity : quoteEntity.length = 6 := by decide
    rw [List.length_append, List.length_cons]
    omega

theorem InlineTag.decodeQuotes_shrinks (s : Text) :
    (decodeQuotes s).length ≤ s.length ∧
      (EnclosesQuote [] s → (decodeQuotes s).length < s.length) ∧
      (¬ EnclosesQuote [] s → decodeQuotes s = s) := by
  rcases (decodeQuotes_decodes s).shrinks with ⟨hsame, hnone⟩ | ⟨hless, hsome⟩
  · exact ⟨Nat.le_of_eq (congrArg _ hsame), fun h => absurd h hnone, fun _ => hsame⟩
  · exact ⟨Nat.le_of_lt hless, fun _ => hless, fun h => absurd hsome h⟩

/-! ### All steps -/

/-- Nothing in the HTML is changed after Markdown: it has no entity of an apostrophe, no URL with
    hidden slashes, and no entity of a quote in an inline tag. -/
structure IsUntouched (html : Text) : Prop where
  apostrophes : hasPart "&#39;".toList html = false
  slashes : ¬ Url.HasScheme Url.hiddenForms html
  quotes : ¬ ∃ before after, html = before ++ "&quot;".toList ++ after ∧ Encloses before after

/-- The steps after Markdown take white space from the end of the HTML. They do nothing else exactly
    if there is nothing else in it that any of them changes. -/
theorem restore_eq_trimBlankEnd_iff (html : Text) :
    restore html = Text.trimBlankEnd html ↔ IsUntouched (Text.trimBlankEnd html) := by
  unfold restore
  generalize Text.trimBlankEnd html = s
  obtain ⟨hle₁, hlt₁⟩ := Html.decodeApostrophes_shrinks s
  obtain ⟨hle₂, hlt₂⟩ := Url.showSlashes_shrinks (Html.decodeApostrophes s)
  obtain ⟨hle₃, hlt₃, hsame₃⟩ :=
    decodeQuotes_shrinks (Url.showSlashes (Html.decodeApostrophes s))
  have hkeep₁ (h : hasPart "&#39;".toList s = false) : Html.decodeApostrophes s = s :=
    replaceAll_of_not_hasPart h
  have hkeep₂ (h : ¬ Url.HasScheme Url.hiddenForms s) : Url.showSlashes s = s :=
    Url.substitute_separatorTo_of_not h
  constructor
  · intro hsame
    have hlength := congrArg List.length hsame
    have hfirst : hasPart "&#39;".toList s = false :=
      Bool.eq_false_iff.2 fun h => absurd (hlt₁ h) (by omega)
    rw [hkeep₁ hfirst] at hle₂ hlt₂ hle₃ hlt₃ hlength
    have hsecond : ¬ Url.HasScheme Url.hiddenForms s := fun h => absurd (hlt₂ h) (by omega)
    rw [hkeep₂ hsecond] at hlt₃ hlength
    exact ⟨hfirst, hsecond, fun h => absurd (hlt₃ h) (by omega)⟩
  · intro h
    rw [hkeep₁ h.apostrophes, hkeep₂ h.slashes] at hsame₃ ⊢
    exact hsame₃ h.quotes

end Docpress
