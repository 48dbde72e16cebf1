import Docpress.Markdown.Delimiter
/-!
Putting emphasis in place changes no pieces but marks: what holds of the pieces of a scope and of
the pieces of emphasis holds of the result.
-/

namespace Docpress.Markdown

/-- The predicate holds of every piece that stands for emphasis or for the lack of a mark. -/
structure HoldsOfEmphasis (p : Span → Prop) : Prop where
  opens (kind : Emphasis) : p (.openEmphasis kind)
  closes (kind : Emphasis) : p (.closeEmphasis kind)
  empty : p (.text [])

variable {p : Span → Prop} {spans : Array Span}

theorem setIfInBounds_forall {i : Nat} {span : Span} (hspans : ∀ s ∈ spans, p s)
    (hspan : p span) : ∀ s ∈ spans.setIfInBounds i span, p s := by
  intro s hs
  obtain hs | rfl := Array.mem_or_eq_of_mem_setIfInBounds hs
  · exact hspans s hs
  · exact hspan

theorem placeStrike_forall (hp : HoldsOfEmphasis p) (delimiters : Array Delimiter)
    (opener : Delimiter) {pieces : Array Span × List Nat} (hspans : ∀ s ∈ pieces.1, p s) :
    ∀ s ∈ (placeStrike delimiters pieces opener).1, p s := by
  unfold placeStrike
  split
  · split
    · have hplaced := setIfInBounds_forall (i := opener.token) hspans (hp.opens .strike)
      dsimp only
      split
      · exact setIfInBounds_forall hplaced (hp.closes .strike)
      · exact setIfInBounds_forall hplaced (hp.closes .strike)
    · exact hspans
  · exact hspans

theorem moveOddMark_forall (i : Nat) (hspans : ∀ s ∈ spans, p s) :
    ∀ s ∈ moveOddMark spans i, p s := by
  unfold moveOddMark
  dsimp only
  split
  · rename_i a b ha hb
    have hmoved := setIfInBounds_forall (i := lastStrikeClose spans spans.size (i + 1)) hspans
      (hspans a (Array.mem_of_getElem? ha))
    exact setIfInBounds_forall hmoved (hspans b (Array.mem_of_getElem? hb))
  · exact hspans

theorem placeEmphasis_forall (hp : HoldsOfEmphasis p) (delimiters : Array Delimiter) (k : Nat)
    (hspans : ∀ s ∈ spans, p s) : ∀ s ∈ placeEmphasis delimiters k spans, p s := by
  induction k generalizing delimiters spans with
  | zero => exact hspans
  | succ k ih =>
    rw [placeEmphasis]
    split
    · rename_i opener _
      split
      · split
        · rename_i closer _
          split
          · have hplaced (kind : Emphasis) : ∀ s ∈ (spans.setIfInBounds opener.token
                (.openEmphasis kind)).setIfInBounds closer.token (.closeEmphasis kind), p s :=
              setIfInBounds_forall (setIfInBounds_forall hspans (hp.opens kind)) (hp.closes kind)
            dsimp only
            split
            · split
              · refine ih _ (setIfInBounds_forall (setIfInBounds_forall ?_ hp.empty) hp.empty)
                exact hplaced .strong
              · exact ih _ (hplaced .plain)
            · rw [if_neg Bool.false_ne_true]
              exact ih _ (hplaced .plain)
          · exact ih _ hspans
        · exact ih _ hspans
      · exact ih _ hspans
    · exact ih _ hspans

theorem resolveEmphasis_forall (hp : HoldsOfEmphasis p) {spans : List Span}
    {delimiters : List Delimiter} (hspans : ∀ s ∈ spans, p s) :
    ∀ s ∈ resolveEmphasis spans delimiters, p s := by
  unfold resolveEmphasis
  split
  · exact hspans
  · dsimp only
    let paired := pairDelimiters delimiters.toArray
    have harray : ∀ s ∈ spans.toArray, p s := by simpa using hspans
    have hplaced : ∀ s ∈ (paired.toList.foldl (placeStrike paired) (spans.toArray, [])).1, p s :=
      List.foldlRecOn paired.toList (placeStrike paired)
        (motive := fun pieces => ∀ s ∈ pieces.1, p s) harray
        fun _ h opener _ => placeStrike_forall hp paired opener h
    rw [Array.foldl_toList] at hplaced
    have hmoved := List.foldlRecOn (paired.foldl (placeStrike paired) (spans.toArray, [])).2
      moveOddMark (motive := fun spans => ∀ s ∈ spans, p s) hplaced
      fun _ h i _ => moveOddMark_forall i h
    intro s hs
    exact placeEmphasis_forall hp _ _ hmoved s (Array.mem_toList_iff.1 hs)

end Docpress.Markdown
