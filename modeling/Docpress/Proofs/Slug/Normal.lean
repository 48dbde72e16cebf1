import Docpress.Proofs.Text.Lower
import Docpress.Slug
import Mathlib.Data.List.SplitBy
/-!
Slugs in normal form. A slug has the word characters of the title in lower case, and one hyphen in
the place of each run of other characters; so it is its own slug.
-/

namespace Docpress.Slug

open Text

/-- Only word characters and hyphens, and no two hyphens side by side. -/
structure IsSlug (s : Text) : Prop where
  chars : ∀ c ∈ s, isWord c = true ∨ c = '-'
  apart : ¬ ['-', '-'] <:+: s

/-- Both are word characters, or neither is. -/
def isAlike (c d : Char) : Bool :=
  isWord c == isWord d

/-- The maximal runs of word characters and of other characters, in order. -/
def runs (s : Text) : List Text :=
  List.splitBy isAlike s

/-- What a run becomes: itself if it is of word characters, and otherwise one hyphen. -/
def writeRun (run : Text) : Text :=
  if run.all isWord then run else ['-']

variable {p : Char → Prop} {inRun : Bool} {s run : Text}

/-! ### Character by character -/

theorem hyphenate_cons_word {c : Char} (h : isWord c = true) (inRun : Bool) (s : Text) :
    hyphenate inRun (c :: s) = c :: hyphenate false s :=
  if_pos h

theorem hyphenate_cons_inRun {c : Char} (h : isWord c = false) (s : Text) :
    hyphenate true (c :: s) = hyphenate true s :=
  (if_neg (ne_true_of_eq_false h)).trans (if_pos rfl)

theorem hyphenate_cons_other {c : Char} (h : isWord c = false) (s : Text) :
    hyphenate false (c :: s) = '-' :: hyphenate true s :=
  (if_neg (ne_true_of_eq_false h)).trans (if_neg Bool.false_ne_true)

/-! ### What is written -/

/-- Hyphens and word characters of the text are all that is written. -/
theorem hyphenate_within (hhyphen : p '-') (hs : ∀ c ∈ s, isWord c = true → p c) :
    Within p (hyphenate inRun s) := by
  induction s generalizing inRun with
  | nil => exact .nil
  | cons c s ih =>
    obtain ⟨hc, hs⟩ := List.forall_mem_cons.1 hs
    cases hword : isWord c with
    | true =>
      rw [hyphenate_cons_word hword]
      exact within_cons.2 ⟨hc hword, ih hs⟩
    | false =>
      cases inRun with
      | true =>
        rw [hyphenate_cons_inRun hword]
        exact ih hs
      | false =>
        rw [hyphenate_cons_other hword]
        exact within_cons.2 ⟨hhyphen, ih hs⟩

/-- In a run there is no other hyphen to come before a word character. -/
theorem head?_hyphenate_inRun (s : Text) : ∀ c ∈ (hyphenate true s).head?, isWord c = true := by
  induction s with
  | nil => exact fun c hc => nomatch hc
  | cons c s ih =>
    cases hword : isWord c with
    | true =>
      rw [hyphenate_cons_word hword]
      rintro d ⟨⟩
      exact hword
    | false =>
      rw [hyphenate_cons_inRun hword]
      exact ih

theorem hyphenate_apart (inRun : Bool) (s : Text) : ¬ ['-', '-'] <:+: hyphenate inRun s := by
  have hhyphen : isWord '-' = false := by decide
  induction s generalizing inRun with
  | nil => exact fun h => nomatch List.infix_nil.1 h
  | cons c s ih =>
    cases hword : isWord c with
    | true =>
      rw [hyphenate_cons_word hword, List.infix_cons_iff, not_or]
      refine ⟨fun h => ?_, ih false⟩
      obtain ⟨rfl, -⟩ := List.cons_prefix_cons.1 h
      exact absurd hword (ne_true_of_eq_false hhyphen)
    | false =>
      cases inRun with
      | true =>
        rw [hyphenate_cons_inRun hword]
        exact ih true
      | false =>
        rw [hyphenate_cons_other hword, List.infix_cons_iff, not_or]
        refine ⟨fun h => ?_, ih true⟩
        obtain ⟨-, rest, hrest⟩ := List.cons_prefix_cons.1 h
        have hnext := head?_hyphenate_inRun s '-' (by rw [← hrest]; rfl)
        exact absurd hnext (ne_true_of_eq_false hhyphen)

theorem hyphenate_isSlug (inRun : Bool) (s : Text) : IsSlug (hyphenate inRun s) :=
  ⟨hyphenate_within (.inr rfl) fun _ _ => .inl, hyphenate_apart inRun s⟩

/-- No word character is lost. -/
theorem filter_hyphenate (inRun : Bool) (s : Text) :
    (hyphenate inRun s).filter isWord = s.filter isWord := by
  have hhyphen : isWord '-' = false := by decide
  induction s generalizing inRun with
  | nil => rfl
  | cons c s ih =>
    cases hword : isWord c with
    | true =>
      rw [hyphenate_cons_word hword, List.filter_cons_of_pos hword,
        List.filter_cons_of_pos hword, ih]
    | false =>
      rw [List.filter_cons_of_neg (ne_true_of_eq_false hword)]
      cases inRun with
      | true => rw [hyphenate_cons_inRun hword, ih]
      | false =>
        rw [hyphenate_cons_other hword, List.filter_cons_of_neg (ne_true_of_eq_false hhyphen), ih]

theorem hyphenate_eq_nil_iff : hyphenate false s = [] ↔ s = [] := by
  cases s with
  | nil => exact iff_of_true rfl rfl
  | cons c s =>
    refine iff_of_false (fun h => ?_) (List.cons_ne_nil c s)
    cases hword : isWord c with
    | true => exact nomatch (hyphenate_cons_word hword false s).symm.trans h
    | false => exact nomatch (hyphenate_cons_other hword s).symm.trans h

/-! ### Run by run -/

theorem hyphenate_word_append (h : ∀ c ∈ run, isWord c = true) (s : Text) :
    hyphenate false (run ++ s) = run ++ hyphenate false s := by
  induction run with
  | nil => rfl
  | cons c run ih =>
    obtain ⟨hc, hrun⟩ := List.forall_mem_cons.1 h
    rw [List.cons_append, hyphenate_cons_word hc, ih hrun, List.cons_append]

theorem hyphenate_other_append (h : ∀ c ∈ run, isWord c = false) (s : Text) :
    hyphenate true (run ++ s) = hyphenate true s := by
  induction run with
  | nil => rfl
  | cons c run ih =>
    obtain ⟨hc, hrun⟩ := List.forall_mem_cons.1 h
    rw [List.cons_append, hyphenate_cons_inRun hc, ih hrun]

/-- A run ends where a word character begins another one. -/
theorem hyphenate_inRun (h : ∀ c ∈ s.head?, isWord c = true) :
    hyphenate true s = hyphenate false s := by
  cases s with
  | nil => rfl
  | cons c s => rw [hyphenate_cons_word (h c rfl), hyphenate_cons_word (h c rfl)]

/-- The characters of a run are like its first one. -/
theorem isWord_of_isChain {c : Char} (h : (c :: run).IsChain (isAlike · ·)) :
    ∀ d ∈ run, isWord d = isWord c := by
  induction run generalizing c with
  | nil => exact List.forall_mem_nil _
  | cons d run ih =>
    obtain ⟨hcd, hrun⟩ := List.isChain_cons_cons.1 h
    have hd : isWord d = isWord c := (beq_iff_eq.1 hcd).symm
    exact List.forall_mem_cons.2 ⟨hd, fun e he => (ih hrun e he).trans hd⟩

/-- Runs that take turns are written one by one. -/
theorem hyphenate_flatten {pieces : List Text} (hne : [] ∉ pieces)
    (halike : ∀ run ∈ pieces, run.IsChain (isAlike · ·))
    (hturn : pieces.IsChain fun run next =>
      ∃ hrun hnext, isAlike (run.getLast hrun) (next.head hnext) = false) :
    hyphenate false pieces.flatten = pieces.flatMap writeRun := by
  induction pieces with
  | nil => rfl
  | cons run pieces ih =>
    obtain ⟨hrun, hne⟩ := not_or.1 (mt List.mem_cons.2 hne)
    obtain ⟨hsame, halike⟩ := List.forall_mem_cons.1 halike
    have hrest := ih hne halike hturn.tail
    obtain ⟨c, run, rfl⟩ := List.exists_cons_of_ne_nil (Ne.symm hrun)
    have hlike : ∀ d ∈ c :: run, isWord d = isWord c :=
      List.forall_mem_cons.2 ⟨rfl, isWord_of_isChain hsame⟩
    rw [List.flatten_cons, List.flatMap_cons]
    cases hc : isWord c with
    | true =>
      have hword : ∀ d ∈ c :: run, isWord d = true := fun d hd => (hlike d hd).trans hc
      rw [hyphenate_word_append hword, hrest, writeRun, if_pos (List.all_eq_true.2 hword)]
    | false =>
      have hother : ∀ d ∈ c :: run, isWord d = false := fun d hd => (hlike d hd).trans hc
      have hnot : ¬ (c :: run).all isWord = true := by simp [hc]
      -- The next run is of word characters, so this hyphen is written for this run alone.
      have hhead : ∀ d ∈ pieces.flatten.head?, isWord d = true := by
        cases pieces with
        | nil => exact fun d hd => nomatch hd
        | cons next pieces =>
          obtain ⟨⟨_, hnext, hchange⟩, -⟩ := List.isChain_cons_cons.1 hturn
          obtain ⟨d, next, rfl⟩ := List.exists_cons_of_ne_nil hnext
          rintro e ⟨⟩
          rw [isAlike, hother _ (List.getLast_mem _), List.head_cons] at hchange
          simpa using hchange
      rw [writeRun, if_neg hnot, List.cons_append, hyphenate_cons_other hc,
        hyphenate_other_append fun d hd => hother d (List.mem_cons_of_mem c hd),
        hyphenate_inRun hhead, hrest, List.singleton_append]

theorem hyphenate_eq_flatMap (s : Text) : hyphenate false s = (runs s).flatMap writeRun := by
  have hwritten := hyphenate_flatten (List.nil_notMem_splitBy isAlike s)
    (fun _ => List.isChain_of_mem_splitBy) (List.isChain_getLast_head_splitBy isAlike s)
  rwa [List.flatten_splitBy] at hwritten

/-! ### Twice -/

/-- A slug stays as it is. -/
theorem IsSlug.hyphenate_eq (h : IsSlug s) : hyphenate false s = s := by
  obtain ⟨hchars, hapart⟩ := h
  induction s with
  | nil => rfl
  | cons c s ih =>
    obtain ⟨hc, hmore⟩ := List.forall_mem_cons.1 hchars
    have hrest := ih hmore fun h => hapart (h.trans (List.suffix_cons c s).isInfix)
    rcases hc with hword | rfl
    · rw [hyphenate_cons_word hword, hrest]
    · have hhead : ∀ c ∈ s.head?, isWord c = true := by
        intro c hc
        obtain ⟨rest, rfl⟩ := List.head?_eq_some_iff.1 hc
        refine (hmore c List.mem_cons_self).resolve_right fun hhyphen => hapart ?_
        rw [hhyphen]
        exact (List.prefix_append ['-', '-'] rest).isInfix
      rw [hyphenate_cons_other (by decide), hyphenate_inRun hhead, hrest]

theorem isLowered_ofTitle (title : Text) : Within IsLowered (ofTitle title) :=
  hyphenate_within (by decide +kernel) fun c hc _ => isLowered_lower title c hc

/-- A slug is in normal form. It has the word characters of the title in lower case, each run of
    other characters becomes one hyphen, and nothing else is written; only the empty title has an
    empty slug, and a slug is its own slug. -/
theorem ofTitle_normal (title : Text) :
    IsSlug (ofTitle title) ∧
      (ofTitle title).filter isWord = (lower title).filter isWord ∧
      ofTitle title = (runs (lower title)).flatMap writeRun ∧
      (ofTitle title = [] ↔ title = []) ∧
      ofTitle (ofTitle title) = ofTitle title := by
  refine ⟨hyphenate_isSlug _ _, filter_hyphenate _ _, hyphenate_eq_flatMap _,
    hyphenate_eq_nil_iff.trans lower_eq_nil_iff, ?_⟩
  calc ofTitle (ofTitle title)
      = hyphenate false (ofTitle title) := by
        rw [ofTitle, lower_of_isLowered (isLowered_ofTitle title)]
    _ = ofTitle title := (hyphenate_isSlug _ _).hyphenate_eq

-- The lower case of the dotted capital has a mark that is no word character.
example : ofTitle "  \u0130d: A_b, \u03a3\u03a3!".toList = "-i-d-a_b-\u03c3\u03c2-".toList := by
  decide +kernel

end Docpress.Slug
