import Docpress.Proofs.Markdown.Destination
import Docpress.Proofs.Url.Target
/-!
Texts in which every backslash stands before an underscore or a slash, as in a protected source.
Such a backslash is an escape wherever escapes are resolved, so destinations, titles and the
definitions of references lose all of them.
-/

namespace Docpress.Markdown

open Text Url

/-- Every backslash guards an underscore or a slash, and nothing is encoded. -/
inductive Guarded : Text → Prop where
  | nil : Guarded []
  | char {c s} (hc : c ≠ '\\' ∧ c ≠ '%' ∧ c ≠ '&') (hs : Guarded s) : Guarded (c :: s)
  | guard {c s} (hc : c = '_' ∨ c = '/') (hs : Guarded s) : Guarded ('\\' :: c :: s)

namespace Guarded

variable {s t : Text} {c : Char}

/-- A character that is guarded may also stand by itself. -/
theorem ne_of_guarded (hc : c = '_' ∨ c = '/') : c ≠ '\\' ∧ c ≠ '%' ∧ c ≠ '&' := by
  rcases hc with rfl | rfl <;> decide

theorem append (hs : Guarded s) (ht : Guarded t) : Guarded (s ++ t) := by
  induction hs with
  | nil => exact ht
  | char hc _ ih => exact .char hc ih
  | guard hc _ ih => exact .guard hc ih

theorem tail (h : Guarded (c :: s)) : Guarded s := by
  cases h with
  | char _ hs => exact hs
  | guard hc hs => exact .char (ne_of_guarded hc) hs

theorem right (h : Guarded (s ++ t)) : Guarded t := by
  induction s with
  | nil => exact h
  | cons c s ih => exact ih h.tail

/-- The part before a character that is not guarded. -/
theorem left (hc : c ≠ '_' ∧ c ≠ '/') (h : Guarded (s ++ c :: t)) : Guarded s := by
  generalize hu : s ++ c :: t = u at h
  induction h generalizing s with
  | nil => exact absurd hu (by simp)
  | @char d u hd _ ih =>
    cases s with
    | nil => exact .nil
    | cons e s =>
      rw [List.cons_append, List.cons.injEq] at hu
      rw [hu.1]
      exact .char hd (ih hu.2)
  | @guard d u hd _ ih =>
    rcases s with _ | ⟨e, _ | ⟨f, s⟩⟩
    · exact .nil
    · have hcd : c = d := (List.cons.inj (List.cons.inj hu).2).1
      exact absurd (hcd ▸ hd) (not_or.2 hc)
    · rw [List.cons_append, List.cons_append, List.cons.injEq, List.cons.injEq] at hu
      rw [hu.1, hu.2.1]
      exact .guard hd (ih hu.2.2)

theorem notMem (h : Guarded s) : '%' ∉ s ∧ '&' ∉ s := by
  induction h with
  | nil => exact ⟨List.not_mem_nil, List.not_mem_nil⟩
  | char hc _ ih =>
    exact ⟨List.not_mem_cons_of_ne_of_not_mem (Ne.symm hc.2.1) ih.1,
      List.not_mem_cons_of_ne_of_not_mem (Ne.symm hc.2.2) ih.2⟩
  | guard hc _ ih =>
    have hne := ne_of_guarded hc
    refine ⟨List.not_mem_cons_of_ne_of_not_mem (by decide) ?_,
      List.not_mem_cons_of_ne_of_not_mem (by decide) ?_⟩
    · exact List.not_mem_cons_of_ne_of_not_mem (Ne.symm hne.2.1) ih.1
    · exact List.not_mem_cons_of_ne_of_not_mem (Ne.symm hne.2.2) ih.2

/-- Reading a document cuts no guard from what it guards. -/
theorem kept : Kept Guarded where
  nil := .nil
  append := .append
  right := .right
  left := .left
  space := .char (by decide) .nil
  lineEnd := .char (by decide) .nil
  bar h := by
    cases h.right with
    | char hc => exact absurd rfl hc.1
    | guard hc => exact absurd hc (by decide)

theorem normalize (h : Guarded s) : Guarded (normalize s) := by
  induction s using normalize.induct with
  | case1 => exact h
  | case2 s ih =>
    rw [Markdown.normalize]
    exact .char (by decide) (ih h.tail.tail)
  | case3 c s hcrlf ih =>
    rw [Markdown.normalize]
    · have hrest := ih h.tail
      split
      · exact .char (by decide) hrest
      · split
        · exact .char (by decide) hrest
        · cases h with
          | char hc => exact .char hc hrest
          | @guard d s hd hs =>
            have hcons : Markdown.normalize (d :: s) = d :: Markdown.normalize s := by
              rcases hd with rfl | rfl <;> rfl
            rw [hcons] at hrest ⊢
            exact .guard hd hrest.tail
    · exact hcrlf

/-- Resolving the escapes leaves no marker. -/
theorem isClear_unescape (h : Guarded s) : IsClear (unescape s) := by
  induction h with
  | nil => exact .nil
  | @char c s hc _ ih =>
    have hlead : unescapeLead? (c :: s) = none := by
      unfold unescapeLead?
      split
      · rename_i heq
        exact absurd (List.cons.inj heq).1 hc.1
      · rename_i heq
        exact absurd (List.cons.inj heq).1 hc.2.2
      · rfl
    rw [unescape, substitute_cons_of_none hlead]
    exact within_cons.2 ⟨⟨hc.1, hc.2.1⟩, ih⟩
  | @guard c s hc _ ih =>
    have hlead : unescapeLead? ('\\' :: c :: s) = some ([c], 1) := by
      rcases hc with rfl | rfl <;> rfl
    have hne := ne_of_guarded hc
    rw [unescape, substitute_cons_of_some hlead]
    exact within_cons.2 ⟨⟨hne.1, hne.2.1⟩, ih⟩

end Guarded

/-! ### Targets of links -/

/-- A target without markers but those that are shown again. -/
structure LinkTarget.IsMasked (target : LinkTarget) : Prop where
  url : Masked target.url
  title : IsClear target.title

theorem LinkTarget.IsWritten.isMasked {target : LinkTarget} (h : target.IsWritten Guarded) :
    target.IsMasked := by
  obtain ⟨⟨d, hd, hurl⟩, ⟨t, ht, htitle⟩⟩ := h
  exact ⟨hurl ▸ target_masked hd.isClear_unescape, htitle ▸ ht.isClear_unescape⟩

/-- In the blocks of a guarded text all targets of references are resolved. -/
theorem references_isMasked {source : Text} (h : Guarded source) :
    ∀ ref ∈ (blocksOf source).references, ref.2.IsMasked :=
  fun ref href => (Guarded.kept.references h.normalize ref href).isMasked

end Docpress.Markdown
