import Docpress.Proofs.InlineTag.Decode
import Docpress.Proofs.Text.Part
import Docpress.Proofs.Text.Within
/-!
How a text is gone through for inline tags: tags are changed, and what lies between stays.
-/

namespace Docpress.InlineTag

open Text

/-- What opens a tag. -/
def opening : Text :=
  ['{', '@']

/-- No tag begins where nothing opens one. -/
theorem lead?_of_not_startsWith {s : Text} (h : startsWith s opening = false) :
    lead? s = none := by
  unfold lead?
  split
  · cases h
  · rfl

/-- A text in which nothing opens a tag stays as it is. -/
theorem mapTags_of_not_hasPart {f : Text → Text} {s : Text} (h : hasPart opening s = false) :
    mapTags f s = s := by
  induction s with
  | nil => rfl
  | cons c s ih =>
    rw [hasPart_cons, Bool.or_eq_false_iff] at h
    rw [mapTags_cons_of_none (lead?_of_not_startsWith h.1), ih h.2]

/-- Nothing opens a tag in a text without opening braces, whatever stands after it. -/
theorem mapTags_append_of_notMem {f : Text → Text} {s : Text} (h : '{' ∉ s) (t : Text) :
    mapTags f (s ++ t) = s ++ mapTags f t := by
  induction s with
  | nil => rfl
  | cons c s ih =>
    obtain ⟨hc, hs⟩ := not_or.1 (mt List.mem_cons.2 h)
    rw [List.cons_append, mapTags_cons_of_none, ih hs, List.cons_append]
    exact lead?_of_not_startsWith (startsWith_cons_of_ne (Ne.symm hc) _ _)

/-! ### Tags that are written out -/

/-- The tag with a body. -/
def tagOf (body : Text) : Text :=
  opening ++ body ++ ['}']

/-- A body of a tag: not empty, and no brace or line end closes the tag before its end. -/
def IsTagBody (body : Text) : Prop :=
  body ≠ [] ∧ ∀ c ∈ body, isBody c = true

theorem lead?_tagOf {body : Text} (h : IsTagBody body) (rest : Text) :
    lead? (tagOf body ++ rest) = some (tagOf body) := by
  have hstop : isBody '}' = false := rfl
  have hdrop : (body ++ '}' :: rest).dropWhile isBody = '}' :: rest := by
    rw [List.dropWhile_append_of_pos h.2, List.dropWhile_cons_of_neg (by simp [hstop])]
  have htake : (body ++ '}' :: rest).takeWhile isBody = body := by
    rw [List.takeWhile_append_of_pos h.2, List.takeWhile_cons_of_neg (by simp [hstop]),
      List.append_nil]
  have htag : tagOf body ++ rest = '{' :: '@' :: (body ++ '}' :: rest) := by
    simp [tagOf, opening]
  have hempty : body.isEmpty = false := by simpa using h.1
  rw [htag, lead?, hdrop]
  dsimp only
  rw [htake, hempty]
  rfl

/-- A tag is changed as one piece, whatever stands after it. -/
theorem mapTags_tagOf_append {f : Text → Text} {body : Text} (h : IsTagBody body) (rest : Text) :
    mapTags f (tagOf body ++ rest) = f (tagOf body) ++ mapTags f rest :=
  mapTags_of_lead (lead?_tagOf h rest)

/-- A text begins with a tag where one is written out. -/
theorem lead?_eq_some_iff {s tag : Text} :
    lead? s = some tag ↔ ∃ body rest, IsTagBody body ∧ tag = tagOf body ∧ s = tag ++ rest := by
  constructor
  · intro h
    obtain ⟨body, rest, hne, hbody, rfl, hs⟩ := lead?_eq_some h
    exact ⟨body, rest, ⟨hne, hbody⟩, rfl, hs⟩
  · rintro ⟨body, rest, hbody, rfl, rfl⟩
    exact lead?_tagOf hbody rest

/-- A text is gone through from one tag, or from one character at which none begins, to the rest. -/
theorem tag_induction {motive : Text → Prop} (nil : motive [])
    (char : ∀ c s, lead? (c :: s) = none → motive s → motive (c :: s))
    (tag : ∀ body rest, IsTagBody body → motive rest → motive (tagOf body ++ rest))
    (s : Text) : motive s := by
  induction hn : s.length using Nat.strongRecOn generalizing s with
  | _ n ih =>
    cases s with
    | nil => exact nil
    | cons c s =>
      cases hlead : lead? (c :: s) with
      | none => exact char c s hlead (ih s.length (by simp [← hn]) s rfl)
      | some found =>
        obtain ⟨body, rest, hbody, rfl, hs⟩ := lead?_eq_some_iff.1 hlead
        rw [hs] at hn ⊢
        refine tag body rest hbody (ih rest.length ?_ rest rfl)
        rw [← hn, List.length_append, tagOf, List.length_append]
        simp only [List.length_singleton]
        omega

/-- What is opened, up to the closing brace. -/
theorem opening_append_eq {s rest : Text} (h : s.dropWhile isBody = '}' :: rest) :
    opening ++ s = tagOf (s.takeWhile isBody) ++ rest := by
  have hsplit := List.takeWhile_append_dropWhile (p := isBody) (l := s)
  rw [h] at hsplit
  rw [tagOf, List.append_assoc, List.append_assoc]
  exact congrArg (opening ++ ·) hsplit.symm

/-- What is opened is a tag if a closing brace is the first thing that its body cannot hold, and the
    body is not empty. -/
theorem lead?_opening_append (s : Text) :
    lead? (opening ++ s) =
      if (s.dropWhile isBody).head? = some '}' ∧ s.takeWhile isBody ≠ [] then
        some (tagOf (s.takeWhile isBody)) else none := by
  split
  · rename_i hcond
    obtain ⟨rest, hrest⟩ := List.head?_eq_some_iff.1 hcond.1
    rw [opening_append_eq hrest]
    exact lead?_tagOf ⟨hcond.2, fun c hc => List.all_eq_true.1 List.all_takeWhile c hc⟩ rest
  · rename_i hcond
    refine Option.eq_none_iff_forall_ne_some.2 fun tag htag => hcond ?_
    obtain ⟨body, rest, hbody, rfl, heq⟩ := lead?_eq_some_iff.1 htag
    have hs : s = body ++ '}' :: rest := by simpa [tagOf, opening] using heq
    have hstop : isBody '}' = false := rfl
    rw [hs, List.dropWhile_append_of_pos hbody.2, List.takeWhile_append_of_pos hbody.2]
    simp [hstop, hbody.1]

/-! ### Tags on both sides of a place -/

/-- A tag at the start of a text does not reach into what follows the text, if nothing is closed
    there. -/
theorem lead?_append {t : Text} (ht : ¬ Closes t) (s : Text) : lead? (s ++ t) = lead? s := by
  refine Option.ext fun tag => ?_
  rw [lead?_eq_some_iff, lead?_eq_some_iff]
  constructor
  · rintro ⟨body, rest, hbody, rfl, heq⟩
    obtain ⟨cut, htag, hcut⟩ | ⟨more, hs, -⟩ := List.append_eq_append_iff.1 heq
    · obtain rfl | ⟨inner, last, rfl⟩ := List.eq_nil_or_concat cut
      · exact ⟨body, [], hbody, rfl, by rw [htag, List.append_nil, List.append_nil]⟩
      · refine absurd ?_ ht
        rw [tagOf, List.concat_eq_append, ← List.append_assoc] at htag
        obtain ⟨hinner, hlast⟩ := List.append_inj' htag rfl
        obtain rfl : '}' = last := List.head_eq_of_cons_eq hlast
        refine ⟨inner, rest, by simpa using hcut, fun c hc => ?_⟩
        have hmem : c ∈ opening ++ body := hinner ▸ List.mem_append_right s hc
        have hopening : ∀ c ∈ opening, isBody c = true := List.all_eq_true.1 (by decide)
        exact (List.mem_append.1 hmem).elim (hopening c) (hbody.2 c)
    · exact ⟨body, more, hbody, rfl, hs⟩
  · rintro ⟨body, rest, hbody, rfl, rfl⟩
    exact ⟨body, rest ++ t, hbody, rfl, List.append_assoc _ _ _⟩

/-- Tags are changed on both sides of a place apart, if nothing is closed after it. -/
theorem mapTags_append {f : Text → Text} {t : Text} (ht : ¬ Closes t) (s : Text) :
    mapTags f (s ++ t) = mapTags f s ++ mapTags f t := by
  refine Text.substitute_append (fun d s => ?_) (fun d s new more h => ?_) s
  · rw [← List.cons_append, lead?_append ht]
  · obtain ⟨tag, htag, heq⟩ := Option.map_eq_some_iff.1 h
    obtain ⟨-, rfl⟩ := Prod.mk.inj heq
    obtain ⟨-, rest, -, -, hs⟩ := lead?_eq_some_iff.1 htag
    have hlength := congrArg List.length hs
    rw [List.length_cons, List.length_append] at hlength
    omega

/-- Nothing that is open before a line end is closed after it. -/
theorem not_closes_lineEnd (t : Text) : ¬ Closes ('\n' :: t) := by
  rintro ⟨body, rest, heq, hbody⟩
  cases body with
  | nil => cases (List.cons.inj heq).1
  | cons c body =>
    obtain ⟨rfl, -⟩ := List.cons.inj heq
    exact absurd (hbody '\n' (by simp)) (by decide)

/-- Tags are changed in each line apart. -/
theorem mapTags_append_lineEnd {f : Text → Text} (s t : Text) :
    mapTags f (s ++ '\n' :: t) = mapTags f s ++ '\n' :: mapTags f t := by
  rw [mapTags_append (not_closes_lineEnd t), mapTags_cons_of_none rfl]

/-- A text without closing braces after another one stays as it is, if nothing opens a tag in
    it. -/
theorem mapTags_append_of_open {f : Text → Text} {t : Text} (hclose : '}' ∉ t)
    (hopen : hasPart opening t = false) (s : Text) : mapTags f (s ++ t) = mapTags f s ++ t := by
  have hcloses : ¬ Closes t := by
    rintro ⟨body, rest, rfl, -⟩
    exact hclose (by simp)
  rw [mapTags_append hcloses, mapTags_of_not_hasPart hopen]

/-! ### Underscores -/

/-- Without a backslash, underscores are guarded in both parts of a text apart. -/
theorem guardUnderscores_append {s : Text} (h : '\\' ∉ s) (t : Text) :
    guardUnderscores false (s ++ t) = guardUnderscores false s ++ guardUnderscores false t := by
  induction s with
  | nil => rfl
  | cons c s ih =>
    obtain ⟨hc, hs⟩ := not_or.1 (mt List.mem_cons.2 h)
    have hguard : (c == '\\') = false := by simpa using Ne.symm hc
    rw [List.cons_append, guardUnderscores, guardUnderscores, hguard, ih hs]
    split <;> rfl

/-- Guarding brings only backslashes into a text. -/
theorem guardUnderscores_within {p : Char → Prop} (hp : p '\\') (guarded : Bool) {s : Text}
    (hs : Within p s) : Within p (guardUnderscores guarded s) := by
  induction s generalizing guarded with
  | nil => exact hs
  | cons c s ih =>
    obtain ⟨hc, hs⟩ := within_cons.1 hs
    rw [guardUnderscores]
    split
    · rename_i hunderscore
      rw [Bool.and_eq_true, beq_iff_eq] at hunderscore
      rw [hunderscore.1] at hc
      exact within_cons.2 ⟨hp, within_cons.2 ⟨hc, ih _ hs⟩⟩
    · exact within_cons.2 ⟨hc, ih _ hs⟩

end Docpress.InlineTag
