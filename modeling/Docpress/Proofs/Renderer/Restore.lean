import Docpress.Proofs.InlineTag.Alike
import Docpress.Renderer
/-!
What the steps after Markdown do to the tags of the HTML: only the decoding of quotes can give a
tag more quotes, and it does so exactly where an inline tag reaches into a tag's attributes.
-/

namespace Docpress

open InlineTag Html

/-! ### The steps before decoding -/

theorem Html.decodeApostrophes_alike (s : Text) : Alike s (decodeApostrophes s) := by
  refine alike_substitute (fun here new more hfind => ?_) s
  split at hfind
  · rename_i hstarts
    obtain ⟨rfl, rfl⟩ := Prod.mk.inj (Option.some.inj hfind)
    exact ⟨"&#39;".toList, by decide, by decide, hstarts, rfl⟩
  · cases hfind

theorem Url.showSlashes_alike (s : Text) : Alike s (Url.showSlashes s) := by
  have hinert : ∀ scheme ∈ Url.hiddenSchemes, IsInert (scheme ++ "://".toList) ∧
      ∀ separator ∈ Url.hiddenForms, IsInert (scheme ++ separator) := by decide
  refine alike_substitute (fun here new more hfind => ?_) s
  obtain ⟨scheme, hscheme, hfind⟩ := List.exists_of_findSome?_eq_some hfind
  obtain ⟨separator, hseparator, hfind⟩ := List.exists_of_findSome?_eq_some hfind
  obtain ⟨hnew, hold⟩ := hinert scheme hscheme
  split at hfind
  · rename_i hstarts
    obtain ⟨rfl, rfl⟩ := Prod.mk.inj (Option.some.inj hfind)
    refine ⟨scheme ++ separator, hold separator hseparator, hnew, hstarts, ?_⟩
    rw [List.length_append]
  · cases hfind

/-- White space at the end is in no region. -/
theorem Html.quotesFrom_append_blanks {blanks : Text} (hblanks : ∀ c ∈ blanks, isBlank c = true)
    (region : Option Text) (s : Text) : quotesFrom region (s ++ blanks) = quotesFrom region s := by
  have hopen : '<' ∉ blanks := fun h => absurd (hblanks _ h) (by decide)
  have hclose : '>' ∉ blanks := fun h => absurd (hblanks _ h) (by decide)
  have hnil (region : Text) : quotesFrom (some region) blanks = [] := by
    rw [← List.append_nil blanks, quotesFrom_some_append hclose, quotesFrom_nil]
  induction s generalizing region with
  | nil =>
    cases region with
    | none => rw [List.nil_append, ← List.append_nil blanks, quotesFrom_none_append hopen]
    | some region => rw [List.nil_append, hnil, quotesFrom_nil]
  | cons c s ih => exact quotesFrom_cons_congr ih c region

/-- White space at the end spoils nothing. -/
theorem InlineTag.spoils_append_blanks {blanks : Text}
    (hblanks : ∀ c ∈ blanks, isBlank c = true) (s : Text) : Spoils (s ++ blanks) ↔ Spoils s := by
  have hclose : '>' ∉ blanks := fun h => absurd (hblanks _ h) (by decide)
  have hbrace : '}' ∉ blanks := fun h => absurd (hblanks _ h) (by decide)
  constructor
  · rintro ⟨before, after, heq, ⟨hregion, hend⟩, hopens, body, rest, hafter, hbody⟩
    obtain ⟨after, rfl, rfl⟩ | ⟨more, -, rfl⟩ := List.append_eq_append_iff.1 heq.symm
    · refine ⟨before, after, rfl, ⟨hregion, ?_⟩, hopens, ?_⟩
      · simpa [hclose] using hend
      · obtain ⟨rest, rfl, hrest⟩ | ⟨more, -, rfl⟩ := List.append_eq_append_iff.1 hafter.symm
        · cases rest with
          | nil => exact absurd (by rw [← List.nil_append blanks, ← hrest]; simp) hbrace
          | cons c rest =>
            obtain rfl : '}' = c := (List.cons.inj hrest).1
            exact ⟨body, rest, rfl, hbody⟩
        · exact absurd (by simp) hbrace
    · exact absurd (List.mem_append_right more hend) hclose
  · rintro ⟨before, after, rfl, ⟨hregion, hend⟩, hopens, body, rest, rfl, hbody⟩
    refine ⟨before, body ++ '}' :: rest ++ blanks, by simp, ⟨hregion, ?_⟩, hopens, body,
      rest ++ blanks, by simp, hbody⟩
    exact List.mem_append_left blanks hend

/-! ### All steps -/

/-- The steps before the decoding of quotes change neither the numbers of quotes in regions nor what
    is spoilt. -/
theorem quoteCounts_before_decodeQuotes (html : Text) :
    quoteCounts (Url.showSlashes (decodeApostrophes (Text.trimBlankEnd html))) =
        quoteCounts html ∧
      (Spoils (Url.showSlashes (decodeApostrophes (Text.trimBlankEnd html))) ↔ Spoils html) := by
  obtain ⟨blanks, hhtml, hblanks⟩ := Text.trimEnd_append isBlank html
  have happly := decodeApostrophes_alike (Text.trimBlankEnd html)
  have hshow := Url.showSlashes_alike (decodeApostrophes (Text.trimBlankEnd html))
  constructor
  · calc quoteCounts (Url.showSlashes (decodeApostrophes (Text.trimBlankEnd html)))
      _ = quoteCounts (decodeApostrophes (Text.trimBlankEnd html)) := (hshow.quotesFrom none).symm
      _ = quoteCounts (Text.trimBlankEnd html) := (happly.quotesFrom none).symm
      _ = quoteCounts (Text.trimBlankEnd html ++ blanks) :=
        (quotesFrom_append_blanks hblanks none _).symm
      _ = quoteCounts html := congrArg quoteCounts hhtml.symm
  · calc Spoils (Url.showSlashes (decodeApostrophes (Text.trimBlankEnd html)))
      _ ↔ Spoils (decodeApostrophes (Text.trimBlankEnd html)) := hshow.spoils_iff.symm
      _ ↔ Spoils (Text.trimBlankEnd html) := happly.spoils_iff.symm
      _ ↔ Spoils (Text.trimBlankEnd html ++ blanks) := (spoils_append_blanks hblanks _).symm
      _ ↔ Spoils html := iff_of_eq (congrArg Spoils hhtml.symm)

/-- The steps after Markdown keep the tags, and take no quote from any of them. -/
theorem quoteCounts_le_restore (html : Text) :
    List.Forall₂ (· ≤ ·) (quoteCounts html) (quoteCounts (restore html)) := by
  obtain ⟨hcounts, -⟩ := quoteCounts_before_decodeQuotes html
  rw [← hcounts]
  exact (quotesFrom_le_of_decodes (decodeQuotes_decodes _)).1

/-- The steps after Markdown leave the number of double quotes in every tag as it is exactly if the
    HTML before them has no entity of a quote that lies both in a tag and in an inline tag. -/
theorem quoteCounts_restore_iff (html : Text) :
    quoteCounts (restore html) = quoteCounts html ↔ ¬ Spoils html := by
  obtain ⟨hcounts, hspoils⟩ := quoteCounts_before_decodeQuotes html
  rw [restore, ← hcounts, quoteCounts_decodeQuotes_iff, hspoils]

end Docpress
