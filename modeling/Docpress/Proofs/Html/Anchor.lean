import Docpress.Proofs.InlineTag.Tag
import Docpress.Proofs.Markdown.Heading
import Docpress.Proofs.Url.Slashes
/-!
Texts that differ in the identifiers of headings only. No step after Markdown finds anything in the
tag of a heading, with its identifier or without, so the steps treat two such texts alike.
-/

namespace Docpress

open Text Markdown

namespace Markdown.Heading

/-- The tag that opens the heading. -/
def openTag (h : Heading) : Text :=
  '<' :: 'h' :: Text.ofNat h.level ++ ['>']

/-- The tag that opens the heading, with its identifier. -/
def anchoredTag (h : Heading) : Text :=
  '<' :: ('h' :: Text.ofNat h.level ++ " id=\"".toList ++ h.id ++ ['"']) ++ ['>']

end Markdown.Heading

namespace Html

/-- The first text is the second one with their identifiers in the tags of headings. All headings
    are listed, in the order of their tags. -/
inductive Anchored : List Heading → (anchored plain : Text) → Prop where
  | same (s : Text) : Anchored [] s s
  | heading (lead : Text) {h headings s t} (hname : Within IsNameChar h.id)
      (hrest : Anchored headings s t) :
      Anchored (h :: headings) (lead ++ h.anchoredTag ++ s) (lead ++ h.openTag ++ t)

/-- The characters without which there is no entity, no scheme and nothing of an inline tag. -/
def watched : Text :=
  ['&', ':', '{', '}', '\r', '\n']

/-- A tag in which no step after Markdown finds anything, and at which no inline tag ends. -/
def IsQuietTag (tag : Text) : Prop :=
  ∃ inner, tag = '<' :: inner ++ ['>'] ∧ Within (· ∉ watched) inner

theorem openTag_isQuietTag (h : Heading) : IsQuietTag h.openTag := by
  have hnone : ∀ c ∈ watched, c.isAlphanum = false := List.all_iff_forall_prop.1 (by decide)
  refine ⟨_, rfl, within_cons.2 ⟨by decide, fun c hc hmem => ?_⟩⟩
  exact (isWord_ofNat h.level).notMem (hnone c hmem) hc

theorem anchoredTag_isQuietTag {h : Heading} (hname : Within IsNameChar h.id) :
    IsQuietTag h.anchoredTag := by
  have hnone : ∀ c ∈ watched, ¬ (isWord c = true ∨ c = '-') :=
    List.all_iff_forall_prop.1 (by decide)
  have hid : Within (· ∉ watched) h.id := fun c hc hmem => hnone c hmem (hname c hc)
  have hlead : Within (· ∉ watched) " id=\"".toList := List.all_iff_forall_prop.1 (by decide)
  have hquote : Within (· ∉ watched) ['"'] := List.all_iff_forall_prop.1 (by decide)
  obtain ⟨inner, htag, hinner⟩ := openTag_isQuietTag h
  obtain ⟨-, htag⟩ := List.cons.inj htag
  rw [← List.append_cancel_right htag] at hinner
  exact ⟨_, rfl, ((hinner.append hlead).append hid).append hquote⟩

/-- All of a quiet tag may stand in the body of an inline tag. -/
theorem IsQuietTag.isBody {tag : Text} (htag : IsQuietTag tag) :
    ∀ c ∈ tag, InlineTag.isBody c = true := by
  obtain ⟨inner, rfl, hquiet⟩ := htag
  have hinner : ∀ c ∈ inner, InlineTag.isBody c = true := fun c hc => by
    have hnone := hquiet c hc
    simp only [InlineTag.isBody, Bool.and_eq_true, bne_iff_ne]
    refine ⟨⟨?_, ?_⟩, ?_⟩ <;> rintro rfl <;> exact hnone (by decide)
  rw [List.cons_append]
  exact List.forall_mem_cons.2
    ⟨rfl, List.forall_mem_append.2 ⟨hinner, List.forall_mem_singleton.2 rfl⟩⟩

theorem IsQuietTag.notMem {tag : Text} (htag : IsQuietTag tag) : '{' ∉ tag := by
  obtain ⟨inner, rfl, hquiet⟩ := htag
  simpa using fun hmem => hquiet _ hmem (by decide)

namespace Anchored

variable {headings more : List Heading} {s t s' t' : Text}

theorem prepend (lead : Text) (h : Anchored headings s t) :
    Anchored headings (lead ++ s) (lead ++ t) := by
  cases h with
  | same => exact .same _
  | heading first hname h =>
    rw [← List.append_assoc, ← List.append_assoc, ← List.append_assoc, ← List.append_assoc]
    exact .heading _ hname h

theorem append (h : Anchored headings s t) (h' : Anchored more s' t') :
    Anchored (headings ++ more) (s ++ s') (t ++ t') := by
  induction h with
  | same s => exact h'.prepend s
  | heading lead hname _ ih =>
    rw [List.append_assoc _ _ s', List.append_assoc _ _ t']
    exact .heading lead hname ih

/-- What goes through the text on both sides of a quiet tag apart keeps the tags of headings. -/
theorem map {f g : Text → Text}
    (hf : ∀ {tag}, IsQuietTag tag → ∀ s t, f (s ++ tag ++ t) = g s ++ tag ++ f t)
    (h : Anchored headings s t) : Anchored headings (f s) (f t) := by
  induction h with
  | same s => exact .same _
  | @heading lead h headings s t hname _ ih =>
    rw [hf (anchoredTag_isQuietTag hname), hf (openTag_isQuietTag h)]
    exact .heading _ hname ih

/-- What goes through text on both sides of a bracket apart, and finds nothing in a quiet tag. -/
theorem map_of_brackets {f : Text → Text}
    (hbracket : ∀ c ∈ ['<', '>'], ∀ s t, f (s ++ c :: t) = f s ++ c :: f t)
    (hinner : ∀ {s}, Within (· ∉ watched) s → f s = s) (h : Anchored headings s t) :
    Anchored headings (f s) (f t) := by
  refine h.map (g := f) ?_
  rintro tag ⟨inner, rfl, hquiet⟩ s t
  have htag (s t : Text) :
      s ++ ('<' :: inner ++ ['>']) ++ t = s ++ '<' :: (inner ++ '>' :: t) := by simp
  rw [htag, htag, hbracket '<' (by simp), hbracket '>' (by simp), hinner hquiet]

/-! ### The steps after Markdown -/

theorem replaceAll {part : Text} (hpart : '<' ∉ '&' :: part ∧ '>' ∉ '&' :: part) (new : Text)
    (h : Anchored headings s t) :
    Anchored headings (Text.replaceAll ('&' :: part) new s)
      (Text.replaceAll ('&' :: part) new t) := by
  refine h.map_of_brackets (fun c hc => ?_) fun hquiet => ?_
  · refine replaceAll_append_cons ?_
    simp only [List.mem_cons, List.not_mem_nil, or_false] at hc
    rcases hc with rfl | rfl
    · exact hpart.1
    · exact hpart.2
  · exact replaceAll_of_not_hasPart (hasPart_of_notMem fun hmem => hquiet _ hmem (by decide))

theorem trimBlankEnd (h : Anchored headings s t) :
    Anchored headings (Text.trimBlankEnd s) (Text.trimBlankEnd t) := by
  refine h.map (g := id) ?_
  rintro tag ⟨inner, rfl, -⟩ s t
  have htag (s t : Text) :
      s ++ ('<' :: inner ++ ['>']) ++ t = (s ++ '<' :: inner) ++ '>' :: t := by simp
  rw [htag, htag, Text.trimBlankEnd, trimEnd_append_cons_of_not (by decide)]
  rfl

theorem decodeApostrophes (h : Anchored headings s t) :
    Anchored headings (Html.decodeApostrophes s) (Html.decodeApostrophes t) :=
  have hpart : '<' ∉ '&' :: "#39;".toList ∧ '>' ∉ '&' :: "#39;".toList := by decide
  h.replaceAll hpart ['\'']

theorem showSlashes (h : Anchored headings s t) :
    Anchored headings (Url.showSlashes s) (Url.showSlashes t) := by
  refine h.map_of_brackets (fun c hc => Url.showSlashes_append_cons ?_) fun hquiet =>
    Url.showSlashes_of_notMem fun hmem => hquiet _ hmem (by decide)
  have hapart : ∀ c ∈ ['<', '>'], Url.IsApart Url.hiddenForms c :=
    List.all_iff_forall_prop.1 (by decide)
  exact hapart c hc

/-! ### Inline tags -/

/-- Read from the left: nothing is left, or both go on with the same character, or with the tag of
    the next heading. -/
theorem next_cases (h : Anchored headings s t) :
    (headings = [] ∧ s = [] ∧ t = []) ∨
      (∃ c s' t', s = c :: s' ∧ t = c :: t' ∧ Anchored headings s' t') ∨
      ∃ h later s' t', headings = h :: later ∧ Within IsNameChar h.id ∧
        s = h.anchoredTag ++ s' ∧ t = h.openTag ++ t' ∧ Anchored later s' t' := by
  cases h with
  | same s =>
    cases s with
    | nil => exact .inl ⟨rfl, rfl, rfl⟩
    | cons c s => exact .inr (.inl ⟨c, s, s, rfl, rfl, .same s⟩)
  | heading lead hname hrest =>
    cases lead with
    | nil => exact .inr (.inr ⟨_, _, _, _, rfl, hname, rfl, rfl, hrest⟩)
    | cons c lead => exact .inr (.inl ⟨c, _, _, rfl, rfl, .heading lead hname hrest⟩)

theorem head?_eq (h : Anchored headings s t) : s.head? = t.head? := by
  rcases h.next_cases with ⟨-, rfl, rfl⟩ | ⟨c, s', t', rfl, rfl, -⟩ |
    ⟨h, later, s', t', -, -, rfl, rfl, -⟩ <;> rfl

/-- A character that is no bracket stands in both texts. -/
theorem of_cons {c : Char} (hc : c ≠ '<') (h : Anchored headings s (c :: t)) :
    ∃ s', s = c :: s' ∧ Anchored headings s' t := by
  rcases h.next_cases with ⟨-, -, hnil⟩ | ⟨d, s', t', rfl, heq, hrest⟩ |
    ⟨h, later, s', t', -, -, -, heq, -⟩
  · cases hnil
  · obtain ⟨rfl, rfl⟩ := List.cons.inj heq
    exact ⟨s', rfl, hrest⟩
  · exact absurd (List.cons.inj heq).1 hc

theorem dropLead? (h : Anchored headings s t) {lead : Text} (hlead : '<' ∉ lead) :
    (Text.dropLead? lead s = none ∧ Text.dropLead? lead t = none) ∨
      ∃ s' t', s = lead ++ s' ∧ t = lead ++ t' ∧ Anchored headings s' t' := by
  induction lead generalizing s t with
  | nil => exact .inr ⟨s, t, rfl, rfl, h⟩
  | cons c lead ih =>
    obtain ⟨hc, hlead⟩ := not_or.1 (mt List.mem_cons.2 hlead)
    have hhead := h.head?_eq
    by_cases htext : t.head? = some c
    · obtain ⟨t, rfl⟩ := List.head?_eq_some_iff.1 htext
      obtain ⟨s, rfl, hrest⟩ := h.of_cons (Ne.symm hc)
      have hstep (u : Text) : Text.dropLead? (c :: lead) (c :: u) = Text.dropLead? lead u :=
        if_pos (beq_self_eq_true c)
      rw [hstep, hstep]
      refine (ih hrest hlead).imp id ?_
      rintro ⟨s', t', hs, ht, hrest⟩
      exact ⟨s', t', congrArg (c :: ·) hs, congrArg (c :: ·) ht, hrest⟩
    · have hnone {u : Text} (hu : u.head? ≠ some c) : Text.dropLead? (c :: lead) u = none := by
        cases u with
        | nil => rfl
        | cons d u =>
          refine if_neg fun heq => hu ?_
          rw [List.head?_cons, beq_iff_eq.1 heq]
      exact .inl ⟨hnone (hhead ▸ htext), hnone htext⟩

/-- What may be the body of an inline tag goes equally far in both texts: it ends at no tag of a
    heading. -/
theorem span (h : Anchored headings s t) :
    ∃ first later, headings = first ++ later ∧
      Anchored first (s.takeWhile InlineTag.isBody) (t.takeWhile InlineTag.isBody) ∧
      Anchored later (s.dropWhile InlineTag.isBody) (t.dropWhile InlineTag.isBody) := by
  induction h with
  | same s => exact ⟨[], [], rfl, .same _, .same _⟩
  | @heading lead h headings s t hname hrest ih =>
    by_cases hlead : ∀ c ∈ lead, InlineTag.isBody c = true
    · obtain ⟨first, later, rfl, hfirst, hlater⟩ := ih
      have hwhole {tag : Text} (htag : IsQuietTag tag) :
          ∀ c ∈ lead ++ tag, InlineTag.isBody c = true :=
        List.forall_mem_append.2 ⟨hlead, htag.isBody⟩
      have hanchored := hwhole (anchoredTag_isQuietTag hname)
      have hopen := hwhole (openTag_isQuietTag h)
      rw [List.takeWhile_append_of_pos hanchored, List.takeWhile_append_of_pos hopen,
        List.dropWhile_append_of_pos hanchored, List.dropWhile_append_of_pos hopen]
      exact ⟨h :: first, later, rfl, .heading lead hname hfirst, hlater⟩
    · have hstop : (lead.dropWhile InlineTag.isBody).isEmpty = false := by
        rw [List.isEmpty_eq_false_iff, Ne, List.dropWhile_eq_nil_iff]
        exact hlead
      have htake (u : Text) :
          (lead ++ u).takeWhile InlineTag.isBody = lead.takeWhile InlineTag.isBody := by
        rw [List.takeWhile_append, if_neg]
        intro hlength
        have hwhole := (List.takeWhile_prefix InlineTag.isBody).eq_of_length hlength
        exact hlead (List.takeWhile_eq_self_iff.1 hwhole)
      have hdrop (u : Text) :
          (lead ++ u).dropWhile InlineTag.isBody = lead.dropWhile InlineTag.isBody ++ u := by
        rw [List.dropWhile_append, hstop]
        rfl
      rw [List.append_assoc, List.append_assoc, htake, htake, hdrop, hdrop, ← List.append_assoc,
        ← List.append_assoc]
      exact ⟨[], _, rfl, .same _, .heading _ hname hrest⟩

/-- An inline tag begins in both texts or in neither, and it ends in both at the same place between
    headings. -/
theorem lead?_cases (h : Anchored headings s t) :
    (InlineTag.lead? s = none ∧ InlineTag.lead? t = none) ∨
      ∃ first later tag tag' s' t', headings = first ++ later ∧ s = tag ++ s' ∧ t = tag' ++ t' ∧
        InlineTag.lead? s = some tag ∧ InlineTag.lead? t = some tag' ∧
        Anchored first tag tag' ∧ Anchored later s' t' := by
  have hopening : '<' ∉ InlineTag.opening := by decide
  rcases h.dropLead? hopening with ⟨hs, ht⟩ | ⟨s, t, rfl, rfl, hrest⟩
  · have hnone {u : Text} (hu : Text.dropLead? InlineTag.opening u = none) :
        InlineTag.lead? u = none :=
      InlineTag.lead?_of_not_startsWith (by rw [startsWith, hu]; rfl)
    exact .inl ⟨hnone hs, hnone ht⟩
  · obtain ⟨first, later, rfl, hfirst, hlater⟩ := hrest.span
    have hcloses := hlater.head?_eq
    have hempty : s.takeWhile InlineTag.isBody ≠ [] ↔ t.takeWhile InlineTag.isBody ≠ [] := by
      rw [Ne, ← List.head?_eq_none_iff, hfirst.head?_eq, List.head?_eq_none_iff]
    simp only [InlineTag.lead?_opening_append, hcloses, hempty]
    split
    · rename_i htag
      obtain ⟨t', ht⟩ := List.head?_eq_some_iff.1 htag.1
      obtain ⟨s', hs, hrest⟩ := (ht ▸ hlater).of_cons (by decide)
      refine .inr ⟨first, later, _, _, s', t', rfl, InlineTag.opening_append_eq hs,
        InlineTag.opening_append_eq ht, rfl, rfl, ?_, hrest⟩
      have hclosed := (hfirst.prepend InlineTag.opening).append (.same ['}'])
      rwa [List.append_nil] at hclosed
    · exact .inl ⟨rfl, rfl⟩

theorem mapTags {f : Text → Text}
    (hf : ∀ {headings s t}, Anchored headings s t → Anchored headings (f s) (f t))
    (h : Anchored headings s t) :
    Anchored headings (InlineTag.mapTags f s) (InlineTag.mapTags f t) := by
  -- On the length, as an inline tag is passed over whole.
  induction hn : t.length using Nat.strongRecOn generalizing headings s t with
  | _ n ih =>
    subst hn
    rcases h.lead?_cases with ⟨hs, ht⟩ |
      ⟨first, later, tag, tag', s, t, rfl, rfl, rfl, hs, ht, htag, hrest⟩
    · rcases h.next_cases with ⟨rfl, rfl, rfl⟩ | ⟨c, s, t, rfl, rfl, hrest⟩ |
        ⟨heading, later, s, t, rfl, hname, rfl, rfl, hrest⟩
      · exact .same []
      · rw [InlineTag.mapTags_cons_of_none hs, InlineTag.mapTags_cons_of_none ht]
        exact (ih t.length (by simp) hrest rfl).prepend [c]
      · rw [InlineTag.mapTags_append_of_notMem (anchoredTag_isQuietTag hname).notMem,
          InlineTag.mapTags_append_of_notMem (openTag_isQuietTag heading).notMem]
        refine .heading [] hname (ih t.length ?_ hrest rfl)
        rw [List.length_append]
        exact Nat.lt_add_of_pos_left (Nat.succ_pos _)
    · rw [InlineTag.mapTags_of_lead hs, InlineTag.mapTags_of_lead ht]
      refine (hf htag).append (ih t.length ?_ hrest rfl)
      obtain ⟨body, rest, -, -, rfl, -⟩ := InlineTag.lead?_eq_some ht
      rw [List.length_append, List.length_cons]
      omega

theorem decodeQuotes (h : Anchored headings s t) :
    Anchored headings (InlineTag.decodeQuotes s) (InlineTag.decodeQuotes t) :=
  have hpart : '<' ∉ '&' :: "quot;".toList ∧ '>' ∉ '&' :: "quot;".toList := by decide
  h.mapTags fun h => h.replaceAll hpart ['"']

end Anchored

end Html

end Docpress
