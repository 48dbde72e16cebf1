import Docpress.Text.Basic
/-!
The regions of a text that are tags if it is HTML: each reaches from a `<` to the next `>`.
-/

namespace Docpress.Html

/-- The texts between each `<` and the next `>`. If the text begins in such a region, `region` is
    what precedes it there, in reverse. -/
def regionsFrom : (region : Option Text) → Text → List Text
  | _, [] => []
  | none, c :: s => if c == '<' then regionsFrom (some []) s else regionsFrom none s
  | some region, c :: s =>
    if c == '>' then region.reverse :: regionsFrom none s else regionsFrom (some (c :: region)) s

/-- The number of double quotes in each region of a text that begins in a region or not. -/
def quotesFrom (region : Option Text) (s : Text) : List Nat :=
  (regionsFrom region s).map (List.count '"')

/-- The number of double quotes in each region from a `<` to the next `>`. -/
def quoteCounts (html : Text) : List Nat :=
  quotesFrom none html

/-- A region is open at the end of a text. -/
def OpensRegion (before : Text) : Prop :=
  ∃ start inner, before = start ++ '<' :: inner ∧ '>' ∉ inner

/-- A place lies in a region, given what stands before it and after it. -/
def InRegion (before after : Text) : Prop :=
  OpensRegion before ∧ '>' ∈ after

theorem not_opensRegion_nil : ¬ OpensRegion [] := by
  rintro ⟨start, inner, heq, -⟩
  simp at heq

theorem opensRegion_append_singleton {before : Text} {c : Char} :
    OpensRegion (before ++ [c]) ↔ c ≠ '>' ∧ (c = '<' ∨ OpensRegion before) := by
  constructor
  · rintro ⟨start, inner, heq, hinner⟩
    obtain rfl | ⟨inner, d, rfl⟩ := List.eq_nil_or_concat inner
    · obtain rfl : c = '<' := by simpa using (List.append_inj' heq rfl).2
      exact ⟨by decide, .inl rfl⟩
    · have heq : before ++ [c] = (start ++ '<' :: inner) ++ [d] := by simpa using heq
      obtain ⟨hbefore, hc⟩ := List.append_inj' heq rfl
      obtain rfl : c = d := by simpa using hc
      refine ⟨?_, .inr ⟨start, inner, hbefore, fun h => hinner (by simp [h])⟩⟩
      rintro rfl
      exact hinner (by simp)
  · rintro ⟨hc, rfl | ⟨start, inner, rfl, hinner⟩⟩
    · exact ⟨before, [], rfl, by simp⟩
    · refine ⟨start, inner ++ [c], by simp, ?_⟩
      intro hmem
      obtain hmem | hmem := List.mem_append.1 hmem
      · exact hinner hmem
      · exact hc (List.mem_singleton.1 hmem).symm

theorem opensRegion_append {before mid : Text} (hmid : '<' ∉ mid ∧ '>' ∉ mid) :
    OpensRegion (before ++ mid) ↔ OpensRegion before := by
  induction mid generalizing before with
  | nil => simp
  | cons c mid ih =>
    have hc : c ≠ '<' ∧ c ≠ '>' := by
      refine ⟨?_, ?_⟩
      · rintro rfl
        simp at hmid
      · rintro rfl
        simp at hmid
    have hstep : OpensRegion (before ++ [c] ++ mid) ↔ OpensRegion (before ++ [c]) :=
      ih (by simp_all)
    rw [List.append_assoc, List.singleton_append] at hstep
    rw [hstep, opensRegion_append_singleton]
    simp [hc]

/-! ### Counting -/

@[simp] theorem quotesFrom_nil (region : Option Text) : quotesFrom region [] = [] := by
  cases region <;> rfl

theorem quotesFrom_none_cons {c : Char} (hc : c ≠ '<') (s : Text) :
    quotesFrom none (c :: s) = quotesFrom none s := by
  simp [quotesFrom, regionsFrom, hc]

theorem quotesFrom_none_open (s : Text) :
    quotesFrom none ('<' :: s) = quotesFrom (some []) s := rfl

theorem quotesFrom_some_cons {c : Char} (hc : c ≠ '>') (region s : Text) :
    quotesFrom (some region) (c :: s) = quotesFrom (some (c :: region)) s := by
  simp [quotesFrom, regionsFrom, hc]

theorem quotesFrom_some_close (region s : Text) :
    quotesFrom (some region) ('>' :: s) = region.count '"' :: quotesFrom none s := by
  simp [quotesFrom, regionsFrom]

theorem quotesFrom_none_append {mid : Text} (hmid : '<' ∉ mid) (s : Text) :
    quotesFrom none (mid ++ s) = quotesFrom none s := by
  induction mid with
  | nil => rfl
  | cons c mid ih =>
    obtain ⟨hc, hmid⟩ := not_or.1 (mt List.mem_cons.2 hmid)
    rw [List.cons_append, quotesFrom_none_cons (Ne.symm hc), ih hmid]

theorem quotesFrom_some_append {mid : Text} (hmid : '>' ∉ mid) (region s : Text) :
    quotesFrom (some region) (mid ++ s) = quotesFrom (some (mid.reverse ++ region)) s := by
  induction mid generalizing region with
  | nil => rfl
  | cons c mid ih =>
    obtain ⟨hc, hmid⟩ := not_or.1 (mt List.mem_cons.2 hmid)
    rw [List.cons_append, quotesFrom_some_cons (Ne.symm hc), ih hmid]
    simp

/-- Texts that count alike in every region do so after a further character. -/
theorem quotesFrom_cons_congr {s t : Text}
    (h : ∀ region, quotesFrom region s = quotesFrom region t) (c : Char) (region : Option Text) :
    quotesFrom region (c :: s) = quotesFrom region (c :: t) := by
  cases region with
  | none =>
    by_cases hc : c = '<'
    · rw [hc, quotesFrom_none_open, quotesFrom_none_open, h]
    · rw [quotesFrom_none_cons hc, quotesFrom_none_cons hc, h]
  | some region =>
    by_cases hc : c = '>'
    · rw [hc, quotesFrom_some_close, quotesFrom_some_close, h]
    · rw [quotesFrom_some_cons hc, quotesFrom_some_cons hc, h]

/-- Of what was read in a region only its quotes count. -/
theorem quotesFrom_some_congr {region region' : Text}
    (h : region.count '"' = region'.count '"') (s : Text) :
    quotesFrom (some region) s = quotesFrom (some region') s := by
  induction s generalizing region region' with
  | nil => rfl
  | cons c s ih =>
    by_cases hc : c = '>'
    · rw [hc, quotesFrom_some_close, quotesFrom_some_close, h]
    · rw [quotesFrom_some_cons hc, quotesFrom_some_cons hc]
      refine ih ?_
      rw [List.count_cons, List.count_cons, h]

end Docpress.Html
