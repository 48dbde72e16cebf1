import Docpress.Proofs.Html.Region
import Docpress.Proofs.InlineTag.Decode
import Mathlib.Data.List.Forall2
/-!
When decoding the quotes of inline tags spoils the tags of HTML: a region from a `<` to the next `>`
gets more quotes exactly if an entity of a quote lies in it and in an inline tag.
-/

namespace Docpress.InlineTag

open Html

/-- In a text that stands after `before`, the entity of a quote lies both in a region of HTML and
    in an inline tag. -/
def SpoilsFrom (before s : Text) : Prop :=
  ∃ mid after, s = mid ++ quoteEntity ++ after ∧ InRegion (before ++ mid) after ∧
    Encloses (before ++ mid) after

/-- The entity of a quote lies both in a region of HTML and in an inline tag. -/
def Spoils (html : Text) : Prop :=
  ∃ before after, html = before ++ quoteEntity ++ after ∧ InRegion before after ∧
    Encloses before after

theorem spoilsFrom_nil (before : Text) : ¬ SpoilsFrom before [] := by
  rintro ⟨mid, after, heq, -⟩
  simp [quoteEntity] at heq

theorem spoilsFrom_cons {before s : Text} {c : Char} :
    SpoilsFrom before (c :: s) ↔
      (∃ after, c :: s = quoteEntity ++ after ∧ InRegion before after ∧ Encloses before after) ∨
        SpoilsFrom (before ++ [c]) s := by
  constructor
  · rintro ⟨mid, after, heq, hregion, htag⟩
    cases mid with
    | nil => exact .inl ⟨after, heq, by simpa using hregion, by simpa using htag⟩
    | cons d mid =>
      simp only [List.cons_append, List.cons.injEq] at heq
      obtain ⟨rfl, hs⟩ := heq
      exact .inr ⟨mid, after, hs, by simpa using hregion, by simpa using htag⟩
  · rintro (⟨after, heq, hregion, htag⟩ | ⟨mid, after, rfl, hregion, htag⟩)
    · exact ⟨[], after, heq, by simpa using hregion, by simpa using htag⟩
    · exact ⟨c :: mid, after, rfl, by simpa using hregion, by simpa using htag⟩

/-- Where no entity begins, nothing is spoilt. -/
theorem spoilsFrom_append {before mid s : Text} (hmid : '&' ∉ mid) :
    SpoilsFrom before (mid ++ s) ↔ SpoilsFrom (before ++ mid) s := by
  induction mid generalizing before with
  | nil => simp
  | cons c mid ih =>
    obtain ⟨hc, hmid⟩ := not_or.1 (mt List.mem_cons.2 hmid)
    have hhead : ¬ ∃ after, c :: (mid ++ s) = quoteEntity ++ after ∧ InRegion before after ∧
        Encloses before after := by
      rintro ⟨after, heq, -⟩
      exact hc (List.cons.inj heq).1.symm
    rw [List.cons_append, spoilsFrom_cons, or_iff_right hhead, ih hmid, List.append_assoc,
      List.singleton_append]

theorem spoilsFrom_entity {before after : Text} :
    SpoilsFrom before (quoteEntity ++ after) ↔
      (InRegion before after ∧ Encloses before after) ∨
        SpoilsFrom (before ++ quoteEntity) after := by
  have htail : SpoilsFrom (before ++ ['&']) ("quot;".toList ++ after) ↔
      SpoilsFrom (before ++ quoteEntity) after := by
    rw [spoilsFrom_append (by decide), List.append_assoc]
    rfl
  have hcons : quoteEntity ++ after = '&' :: ("quot;".toList ++ after) := rfl
  rw [hcons, spoilsFrom_cons, htail, ← hcons]
  refine or_congr_left ⟨?_, fun h => ⟨after, rfl, h⟩⟩
  rintro ⟨after', heq, h⟩
  rwa [List.append_cancel_left heq]

/-- Decoding keeps the regions, and takes no quote from any of them. -/
theorem quotesFrom_le_of_decodes {before s t : Text} (h : Decodes before s t) :
    List.Forall₂ (· ≤ ·) (quotesFrom none s) (quotesFrom none t) ∧
      ∀ region region' : Text, region.count '"' ≤ region'.count '"' →
        List.Forall₂ (· ≤ ·) (quotesFrom (some region) s) (quotesFrom (some region') t) := by
  induction h with
  | nil => simp
  | @keep before c s t _ _ ih =>
    obtain ⟨ihOut, ihIn⟩ := ih
    refine ⟨?_, fun region region' hle => ?_⟩
    · by_cases hc : c = '<'
      · rw [hc, quotesFrom_none_open, quotesFrom_none_open]
        exact ihIn [] [] (Nat.le_refl _)
      · rw [quotesFrom_none_cons hc, quotesFrom_none_cons hc]
        exact ihOut
    · by_cases hc : c = '>'
      · rw [hc, quotesFrom_some_close, quotesFrom_some_close]
        exact .cons hle ihOut
      · rw [quotesFrom_some_cons hc, quotesFrom_some_cons hc]
        refine ihIn _ _ ?_
        rw [List.count_cons, List.count_cons]
        omega
  | @decode before after t _ _ ih =>
    obtain ⟨ihOut, ihIn⟩ := ih
    refine ⟨?_, fun region region' hle => ?_⟩
    · rw [quotesFrom_none_append (by decide), quotesFrom_none_cons (by decide)]
      exact ihOut
    · rw [quotesFrom_some_append (by decide), quotesFrom_some_cons (by decide)]
      refine ihIn _ _ ?_
      have hentity : quoteEntity.reverse.count '"' = 0 := by decide
      rw [List.count_append, hentity, List.count_cons]
      omega

/-- Between `s`, which stands after `before`, and `t` the numbers of quotes differ exactly if an
    entity of `s` spoils a region. In a region that has become richer in quotes before, they can
    agree only if the region does not end. -/
structure DiffersIfSpoilt (before s t : Text) : Prop where
  outside : ¬ OpensRegion before → (quotesFrom none t = quotesFrom none s ↔ ¬ SpoilsFrom before s)
  inside : OpensRegion before → ∀ region region' : Text, region.count '"' ≤ region'.count '"' →
    (quotesFrom (some region') t = quotesFrom (some region) s ↔
      (region'.count '"' = region.count '"' ∨ '>' ∉ s) ∧ ¬ SpoilsFrom before s)

/-- A character that is kept opens a region, ends one, or is a part of what it stands in. -/
theorem DiffersIfSpoilt.keep {before s t : Text} {c : Char}
    (hplain : ∀ after, c :: s = quoteEntity ++ after → ¬ Encloses before after)
    (ih : DiffersIfSpoilt (before ++ [c]) s t) : DiffersIfSpoilt before (c :: s) (c :: t) := by
  have hspoils : SpoilsFrom before (c :: s) ↔ SpoilsFrom (before ++ [c]) s := by
    rw [spoilsFrom_cons, or_iff_right]
    rintro ⟨after, heq, -, htag⟩
    exact hplain after heq htag
  constructor
  · intro hout
    rw [hspoils]
    by_cases hc : c = '<'
    · have hopens : OpensRegion (before ++ [c]) :=
        opensRegion_append_singleton.2 ⟨by rw [hc]; decide, .inl hc⟩
      rw [hc, quotesFrom_none_open, quotesFrom_none_open, ← hc,
        ih.inside hopens [] [] (Nat.le_refl _)]
      simp
    · have hnot : ¬ OpensRegion (before ++ [c]) := by
        rw [opensRegion_append_singleton]
        rintro ⟨-, h | h⟩
        · exact hc h
        · exact hout h
      rw [quotesFrom_none_cons hc, quotesFrom_none_cons hc, ih.outside hnot]
  · intro hin region region' hle
    rw [hspoils]
    by_cases hc : c = '>'
    · have hnot : ¬ OpensRegion (before ++ [c]) := by
        rw [opensRegion_append_singleton]
        exact fun h => h.1 hc
      rw [hc, quotesFrom_some_close, quotesFrom_some_close, ← hc, List.cons.injEq, ih.outside hnot]
      simp [hc]
    · have hopens : OpensRegion (before ++ [c]) := opensRegion_append_singleton.2 ⟨hc, .inr hin⟩
      rw [quotesFrom_some_cons hc, quotesFrom_some_cons hc, ih.inside hopens _ _ ?_]
      · simp [List.count_cons, Ne.symm hc]
      · rw [List.count_cons, List.count_cons]
        omega

/-- The quote that an entity is decoded to makes an open region richer. -/
theorem DiffersIfSpoilt.decode {before after t : Text} (hinside : Encloses before after)
    (ih : DiffersIfSpoilt (before ++ quoteEntity) after t) :
    DiffersIfSpoilt before (quoteEntity ++ after) ('"' :: t) := by
  have hentity : OpensRegion (before ++ quoteEntity) ↔ OpensRegion before :=
    opensRegion_append (by decide)
  constructor
  · intro hout
    rw [spoilsFrom_entity, quotesFrom_none_cons (by decide), quotesFrom_none_append (by decide),
      ih.outside (mt hentity.1 hout), or_iff_right]
    exact fun h => hout h.1.1
  · intro hin region region' hle
    have hentityCount : quoteEntity.reverse.count '"' = 0 := by decide
    have hcount : (quoteEntity.reverse ++ region).count '"' = region.count '"' := by
      rw [List.count_append, hentityCount, Nat.zero_add]
    have hmem : '>' ∉ quoteEntity ++ after ↔ '>' ∉ after := by simp [quoteEntity]
    rw [spoilsFrom_entity, quotesFrom_some_cons (by decide), quotesFrom_some_append (by decide),
      ih.inside (hentity.2 hin) _ _ (by rw [hcount, List.count_cons]; omega), hcount, hmem,
      List.count_cons, beq_self_eq_true, if_pos rfl]
    have hne : region'.count '"' + 1 ≠ region.count '"' := by omega
    constructor
    · rintro ⟨heq | hclosed, hrest⟩
      · exact absurd heq hne
      · refine ⟨.inr hclosed, ?_⟩
        rintro (⟨⟨-, hclose⟩, -⟩ | h)
        · exact hclosed hclose
        · exact hrest h
    · rintro ⟨-, hrest⟩
      obtain ⟨hhere, hrest⟩ := not_or.1 hrest
      exact ⟨.inr fun hclose => hhere ⟨⟨hin, hclose⟩, hinside⟩, hrest⟩

/-- What decoding does to the numbers of quotes. -/
theorem differsIfSpoilt_of_decodes {before s t : Text} (h : Decodes before s t) :
    DiffersIfSpoilt before s t := by
  induction h with
  | nil => exact ⟨by simp [spoilsFrom_nil], by simp [spoilsFrom_nil]⟩
  | keep hplain _ ih => exact ih.keep hplain
  | decode hinside _ ih => exact ih.decode hinside

/-- Decoding leaves the number of quotes in every region as it is exactly if no entity lies both in
    a region and in an inline tag. -/
theorem quoteCounts_decodeQuotes_iff (html : Text) :
    quoteCounts (decodeQuotes html) = quoteCounts html ↔ ¬ Spoils html :=
  (differsIfSpoilt_of_decodes (decodeQuotes_decodes html)).outside not_opensRegion_nil

end Docpress.InlineTag
