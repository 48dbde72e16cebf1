import Docpress.Proofs.InlineTag.Tag
import Docpress.Proofs.Text.Growth
/-!
Guarding the underscores of inline tags. A text in which nothing is to be guarded stays as it is,
and any other becomes longer.
-/

namespace Docpress.InlineTag

open Text

/-- An underscore that comes after `lead` is guarded already: there is a backslash before it, or
    `guarded` if `lead` is empty. -/
def guardedAfter (guarded : Bool) (lead : Text) : Bool :=
  lead.foldl (fun _ c => c == '\\') guarded

theorem guardedAfter_concat (guarded : Bool) (lead : Text) (c : Char) :
    guardedAfter guarded (lead ++ [c]) = (c == '\\') := by
  rw [guardedAfter, List.foldl_append]
  rfl

/-- Guarding makes a text longer if an underscore is not guarded already. -/
theorem guardUnderscores_growsIf (guarded : Bool) (s : Text) :
    GrowsIf (∃ lead tail, s = lead ++ '_' :: tail ∧ guardedAfter guarded lead = false) s
      (guardUnderscores guarded s) := by
  induction s generalizing guarded with
  | nil =>
    refine .inl ⟨?_, rfl⟩
    rintro ⟨lead, tail, heq, -⟩
    exact absurd heq (by simp)
  | cons c s ih =>
    rw [guardUnderscores]
    split
    · rename_i hbare
      rw [Bool.and_eq_true, beq_iff_eq, Bool.not_eq_true'] at hbare
      obtain ⟨rfl, hguarded⟩ := hbare
      have hle := (ih false).length_le
      refine .inr ⟨⟨[], s, rfl, hguarded⟩, ?_⟩
      simp only [List.length_cons]
      omega
    · rename_i hkeep
      refine ((ih (c == '\\')).cons c).congr ⟨?_, ?_⟩
      · rintro ⟨lead, tail, rfl, hbare⟩
        exact ⟨c :: lead, tail, rfl, hbare⟩
      · rintro ⟨lead, tail, heq, hbare⟩
        cases lead with
        | nil =>
          obtain ⟨rfl, -⟩ := List.cons.inj heq
          exact absurd (by simpa [guardedAfter] using hbare) hkeep
        | cons d lead =>
          obtain ⟨rfl, rfl⟩ := List.cons.inj heq
          exact ⟨lead, tail, rfl, hbare⟩

/-! ### Underscores in tags -/

/-- Somewhere in the text an underscore lies in a tag without a backslash before it. -/
def HasBareUnderscore (s : Text) : Prop :=
  ∃ before after, s = before ++ '_' :: after ∧ Encloses before after ∧
    before.getLast? ≠ some '\\'

theorem not_opens_nil : ¬ Opens [] := by
  rintro ⟨start, body, heq, -⟩
  exact absurd heq (by simp)

/-- Nothing is open any more after a closing brace. -/
theorem Opens.of_append_brace {s before : Text} (h : Opens (s ++ '}' :: before)) :
    Opens before := by
  obtain ⟨start, body, heq, hbody⟩ := h
  obtain ⟨cut, -, hcut⟩ | ⟨cut, rfl, hcut⟩ := List.append_eq_append_iff.1 heq
  · cases cut with
    | nil => exact absurd (List.cons.inj hcut).1 (by decide)
    | cons c cut => exact ⟨cut, body, (List.cons.inj hcut).2, hbody⟩
  · have hbrace : '}' ∈ '{' :: '@' :: body := by
      rw [hcut]
      simp
    simp only [List.mem_cons, Char.reduceEq, false_or] at hbrace
    exact absurd (hbody '}' hbrace) (by decide)

/-- The last character of a text in which a tag is open does not depend on what is before it. -/
theorem Opens.getLast?_append {before : Text} (h : Opens before) (s : Text) :
    (s ++ before).getLast? = before.getLast? := by
  rw [List.getLast?_append]
  cases hlast : before.getLast? with
  | none => exact absurd (List.getLast?_eq_none_iff.1 hlast ▸ h) not_opens_nil
  | some c => rfl

theorem Opens.append_left {before : Text} (h : Opens before) (s : Text) : Opens (s ++ before) := by
  obtain ⟨start, body, rfl, hbody⟩ := h
  exact ⟨s ++ start, body, by simp, hbody⟩

/-- Where no tag begins, the underscores in tags are those of the rest. -/
theorem hasBareUnderscore_cons {c : Char} {s : Text} (h : lead? (c :: s) = none) :
    HasBareUnderscore (c :: s) ↔ HasBareUnderscore s := by
  constructor
  · rintro ⟨before, after, heq, ⟨⟨start, body, rfl, hbody⟩, more, rest, rfl, hmore⟩, hlast⟩
    cases start with
    | nil =>
      have htag : IsTagBody (body ++ '_' :: more) := by
        refine ⟨by simp, List.forall_mem_append.2 ⟨hbody, List.forall_mem_cons.2 ⟨rfl, hmore⟩⟩⟩
      have hlead := lead?_tagOf htag rest
      have hs : tagOf (body ++ '_' :: more) ++ rest = c :: s := by
        rw [heq]
        simp [tagOf, opening]
      rw [hs, h] at hlead
      cases hlead
    | cons d start =>
      obtain ⟨-, rfl⟩ := List.cons.inj heq
      have hopens : Opens (start ++ '{' :: '@' :: body) := ⟨start, body, rfl, hbody⟩
      exact ⟨_, _, rfl, ⟨hopens, more, rest, rfl, hmore⟩, hopens.getLast?_append [d] ▸ hlast⟩
  · rintro ⟨before, after, rfl, ⟨hopens, hcloses⟩, hlast⟩
    refine ⟨c :: before, after, rfl, ⟨hopens.append_left [c], hcloses⟩, ?_⟩
    exact (hopens.getLast?_append [c]).symm ▸ hlast

/-- What neither opens a written tag nor closes it lies in the tag's body. -/
theorem encloses_of_tagOf {c : Char} (hopening : c ∉ opening) (hclose : c ≠ '}')
    {body lead tail : Text} (hbody : IsTagBody body) (h : tagOf body = lead ++ c :: tail)
    (rest : Text) : Encloses lead (tail ++ rest) := by
  obtain rfl | ⟨inner, last, rfl⟩ := List.eq_nil_or_concat tail
  · exact absurd (List.head_eq_of_cons_eq (List.append_inj' h rfl).2).symm hclose
  · rw [List.concat_eq_append, ← List.cons_append, ← List.append_assoc, tagOf] at h
    obtain ⟨hstart, hlast⟩ := List.append_inj' h rfl
    obtain rfl : '}' = last := List.head_eq_of_cons_eq hlast
    obtain ⟨first, rfl, rfl⟩ | ⟨more, hlead, hmore⟩ := List.append_eq_append_iff.1 hstart
    · obtain ⟨hfirst, hrest⟩ := List.forall_mem_append.1 hbody.2
      exact ⟨⟨[], first, rfl, hfirst⟩, inner, rest, by simp, (List.forall_mem_cons.1 hrest).2⟩
    · cases more with
      | nil =>
        rw [List.append_nil] at hlead
        subst hlead hmore
        exact ⟨⟨[], [], rfl, by simp⟩, inner, rest, by simp, (List.forall_mem_cons.1 hbody.2).2⟩
      | cons d more =>
        obtain ⟨rfl, -⟩ := List.cons.inj hmore
        exact absurd (by rw [hlead]; simp) hopening

/-- The underscores in tags are those of the first tag and those after it. -/
theorem hasBareUnderscore_tagOf_append {body : Text} (hbody : IsTagBody body) (rest : Text) :
    HasBareUnderscore (tagOf body ++ rest) ↔
      (∃ lead tail, tagOf body = lead ++ '_' :: tail ∧ guardedAfter false lead = false) ∨
        HasBareUnderscore rest := by
  have hlast {lead : Text} : lead.getLast? ≠ some '\\' ↔ guardedAfter false lead = false := by
    obtain rfl | ⟨lead, c, rfl⟩ := List.eq_nil_or_concat lead
    · simp [guardedAfter]
    · simp [guardedAfter_concat]
  constructor
  · rintro ⟨before, after, heq, ⟨hopens, hcloses⟩, hbare⟩
    obtain ⟨cut, rfl, hrest⟩ | ⟨cut, htag, hcut⟩ := List.append_eq_append_iff.1 heq
    · have hopens : Opens cut := by
        rw [tagOf, List.append_assoc, List.singleton_append] at hopens
        exact hopens.of_append_brace
      refine .inr ⟨cut, after, hrest, ⟨hopens, hcloses⟩, ?_⟩
      rwa [hopens.getLast?_append] at hbare
    · cases cut with
      | nil =>
        rw [List.append_nil] at htag
        rw [← htag] at hopens
        exact absurd (Opens.of_append_brace hopens) not_opens_nil
      | cons c cut =>
        obtain ⟨rfl, -⟩ := List.cons.inj hcut
        exact .inl ⟨before, cut, htag, hlast.1 hbare⟩
  · rintro (⟨lead, tail, htag, hbare⟩ | ⟨before, after, rfl, ⟨hopens, hcloses⟩, hbare⟩)
    · exact ⟨lead, tail ++ rest, by simp [htag], encloses_of_tagOf (by decide) (by decide) hbody htag rest,
        hlast.2 hbare⟩
    · refine ⟨tagOf body ++ before, after, by simp, ⟨hopens.append_left _, hcloses⟩, ?_⟩
      rwa [hopens.getLast?_append]

/-- Guarding the underscores of tags makes a text longer exactly if one of them is bare. -/
theorem escapeUnderscores_growsIf (s : Text) :
    GrowsIf (HasBareUnderscore s) s (escapeUnderscores s) := by
  induction s using tag_induction with
  | nil =>
    refine .inl ⟨?_, rfl⟩
    rintro ⟨before, after, heq, -⟩
    exact absurd heq (by simp)
  | char c s hlead ih =>
    rw [escapeUnderscores, mapTags_cons_of_none hlead]
    exact (ih.cons c).congr (hasBareUnderscore_cons hlead).symm
  | tag body rest hbody ih =>
    rw [escapeUnderscores, mapTags_tagOf_append hbody]
    exact ((guardUnderscores_growsIf false (tagOf body)).append ih).congr
      (hasBareUnderscore_tagOf_append hbody rest).symm

end Docpress.InlineTag
