import Docpress.Proofs.InlineTag.Tag
import Docpress.Proofs.Text.Spare
/-!
Changes that leave the inline tags of a text where they are: those of the whole text that spare what
tags are told by, and those of the tags themselves. Such changes go together.
-/

namespace Docpress.InlineTag

open Text

/-- The characters that tags are told by: what opens a tag, what closes it, and line ends. -/
def isEdge (c : Char) : Bool :=
  opening.contains c || !isBody c

theorem isEdge_of_not_isBody {c : Char} (h : isBody c = false) : isEdge c = true := by
  rw [isEdge, h, Bool.not_false, Bool.or_true]

variable {f g : Text → Text} {body rest s : Text}

/-! ### Changes of the whole text -/

theorem isTagBody_of_spares (h : Spares isEdge f) (hbody : IsTagBody body) : IsTagBody (f body) :=
  ⟨h.ne_nil hbody.1, h.forall_of_forall (fun _ => isEdge_of_not_isBody) hbody.2⟩

theorem spares_opening_append (h : Spares isEdge f) (s : Text) :
    f (opening ++ s) = opening ++ f s := by
  change f ('{' :: '@' :: s) = '{' :: '@' :: f s
  rw [h.cons rfl, h.cons rfl]

/-- A tag stays one, with its body changed. -/
theorem spares_tagOf_append (h : Spares isEdge f) (body rest : Text) :
    f (tagOf body ++ rest) = tagOf (f body) ++ f rest := by
  rw [tagOf, tagOf, List.append_assoc, List.append_assoc, spares_opening_append h,
    List.singleton_append, h.split rfl]
  simp

theorem spares_tagOf (h : Spares isEdge f) (body : Text) : f (tagOf body) = tagOf (f body) := by
  have htag := spares_tagOf_append h body []
  rwa [List.append_nil, h.nil, List.append_nil] at htag

/-- A text begins with a tag after the change where it did before. -/
theorem lead?_of_spares (h : Spares isEdge f) (s : Text) : lead? (f s) = (lead? s).map f := by
  cases hopen : dropLead? opening s with
  | none =>
    have hstarts : startsWith s opening = false := by rw [startsWith, hopen]; rfl
    have hstarts' : startsWith (f s) opening = false := by
      rw [startsWith, h.dropLead? (List.all_eq_true.1 (by decide)), hopen]
      rfl
    rw [lead?_of_not_startsWith hstarts, lead?_of_not_startsWith hstarts', Option.map_none]
  | some t =>
    obtain rfl := dropLead?_eq_some.1 hopen
    obtain ⟨htake, hdrop⟩ := h.takeWhile_dropWhile (fun _ => isEdge_of_not_isBody) t
    have hhead : (f (t.dropWhile isBody)).head? = (t.dropWhile isBody).head? := by
      cases hrest : t.dropWhile isBody with
      | nil => rw [h.nil]
      | cons c rest =>
        have hstop := List.head?_dropWhile_not isBody t
        rw [hrest] at hstop
        rw [h.cons (isEdge_of_not_isBody (by simpa using hstop))]
        rfl
    have hempty : f (t.takeWhile isBody) ≠ [] ↔ t.takeWhile isBody ≠ [] := by
      refine ⟨fun hne heq => hne ?_, h.ne_nil⟩
      rw [heq, h.nil]
    rw [spares_opening_append h, lead?_opening_append, lead?_opening_append, htake, hdrop, hhead,
      ← spares_tagOf h]
    simp only [hempty]
    split <;> rfl

/-- Changing the tags goes with a change of the whole text, if both changes go together. -/
theorem mapTags_comm (hf : Spares isEdge f) (hg : Spares isEdge g) (hcomm : ∀ s, f (g s) = g (f s))
    (s : Text) : mapTags f (g s) = g (mapTags f s) := by
  induction hn : s.length using Nat.strongRecOn generalizing s with
  | _ n ih =>
    by_cases hbrace : '{' ∈ s
    · obtain ⟨lead, t, rfl, hlead⟩ := List.eq_append_cons_of_mem hbrace
      have hlead' : '{' ∉ g lead := hg.notMem rfl hlead
      rw [hg.split rfl, mapTags_append_of_notMem hlead', mapTags_append_of_notMem hlead]
      have hnatural := lead?_of_spares hg ('{' :: t)
      rw [hg.cons rfl] at hnatural
      cases htag : lead? ('{' :: t) with
      | none =>
        rw [htag, Option.map_none] at hnatural
        rw [mapTags_cons_of_none hnatural, mapTags_cons_of_none htag, hg.split rfl,
          ih t.length (by simp [← hn]; omega) t rfl]
      | some tag =>
        obtain ⟨body, rest, hbody, rfl, hrest⟩ := lead?_eq_some_iff.1 htag
        have hshort : rest.length < n := by
          have hlength := congrArg List.length hrest
          rw [← hn]
          simp only [tagOf, List.length_cons, List.length_append] at hlength ⊢
          omega
        have hstart (b u : Text) : tagOf b ++ u = '{' :: ('@' :: b ++ '}' :: u) := by
          simp [tagOf, opening]
        rw [hrest, ← hg.cons rfl, hrest, spares_tagOf_append hg,
          mapTags_tagOf_append (isTagBody_of_spares hg hbody), mapTags_tagOf_append hbody,
          ih rest.length hshort rest rfl, spares_tagOf hf, spares_tagOf hf, hcomm,
          hstart (f body), hg.split rfl, ← hg.cons rfl, ← hstart, spares_tagOf_append hg]
    · have hsame {s : Text} (hs : '{' ∉ s) : mapTags f s = s :=
        mapTags_of_not_hasPart (hasPart_of_notMem hs)
      rw [hsame hbrace, hsame (hg.notMem rfl hbrace)]

/-! ### Changes of the tags -/

theorem closes_cons {c : Char} : Closes (c :: s) ↔ c = '}' ∨ (isBody c = true ∧ Closes s) := by
  constructor
  · rintro ⟨body, rest, heq, hbody⟩
    cases body with
    | nil => exact .inl (List.cons.inj heq).1
    | cons d body =>
      obtain ⟨rfl, rfl⟩ := List.cons.inj heq
      obtain ⟨hd, hbody⟩ := List.forall_mem_cons.1 hbody
      exact .inr ⟨hd, body, rest, rfl, hbody⟩
  · rintro (rfl | ⟨hc, hs⟩)
    · exact ⟨[], s, rfl, List.forall_mem_nil _⟩
    · exact hs.cons hc

theorem closes_tagOf_append (hbody : IsTagBody body) (rest : Text) :
    Closes (tagOf body ++ rest) := by
  have hopening : ∀ c ∈ opening, isBody c = true := List.all_eq_true.1 (by decide)
  exact ⟨opening ++ body, rest, by simp [tagOf], List.forall_mem_append.2 ⟨hopening, hbody.2⟩⟩

/-- What is closed after the tags are changed was closed before. -/
theorem Closes.of_mapTags (h : Closes (mapTags f s)) : Closes s := by
  induction s with
  | nil => exact h
  | cons c s ih =>
    cases hlead : lead? (c :: s) with
    | none =>
      rw [mapTags_cons_of_none hlead, closes_cons] at h
      exact closes_cons.2 (h.imp_right (And.imp_right ih))
    | some tag =>
      obtain ⟨body, rest, hbody, rfl, heq⟩ := lead?_eq_some_iff.1 hlead
      rw [heq]
      exact closes_tagOf_append hbody rest

/-- No tag begins where nothing is closed after what opens one, or where its body would be empty. -/
theorem lead?_opening_eq_none (h : Closes s → s.head? = some '}') : lead? (opening ++ s) = none := by
  refine Option.eq_none_iff_forall_ne_some.2 fun tag htag => ?_
  obtain ⟨body, rest, ⟨hne, hbody⟩, rfl, heq⟩ := lead?_eq_some_iff.1 htag
  have hs : s = body ++ '}' :: rest := by simpa [tagOf, opening] using heq
  obtain ⟨c, body, rfl⟩ := List.exists_cons_of_ne_nil hne
  have hhead := h ⟨c :: body, rest, hs, hbody⟩
  rw [hs, List.cons_append, List.head?_cons, Option.some.injEq] at hhead
  exact absurd (hbody c List.mem_cons_self) (by rw [hhead]; decide)

/-- Where no tag begins, none begins after the tags further on are changed. -/
theorem lead?_cons_mapTags {c : Char} (hf : Spares isEdge f) (h : lead? (c :: s) = none) :
    lead? (c :: mapTags f s) = none := by
  have hkeeps : KeepsFirst '{' fun here => (lead? here).map fun tag => (f tag, tag.length - 1) := by
    intro here new more hclaim
    obtain ⟨tag, htag, heq⟩ := Option.map_eq_some_iff.1 hclaim
    obtain ⟨body, rest, -, rfl, rfl⟩ := lead?_eq_some_iff.1 htag
    obtain ⟨rfl, -⟩ := Prod.mk.inj heq
    rw [spares_tagOf hf]
    exact ⟨⟨_, rfl⟩, _, rfl⟩
  cases hstarts : startsWith (c :: mapTags f s) opening with
  | false => exact lead?_of_not_startsWith hstarts
  | true =>
    obtain ⟨rest, hrest⟩ := startsWith_iff.1 hstarts
    obtain ⟨rfl, hat⟩ := List.cons.inj hrest
    obtain ⟨s, rfl⟩ := startsWith_iff.1
      (hkeeps.startsWith_of_substitute (by decide) (startsWith_iff.2 ⟨rest, hat⟩))
    have hskip : mapTags f ('@' :: s) = '@' :: mapTags f s := mapTags_cons_of_none rfl
    change lead? (opening ++ s) = none at h
    change lead? ('{' :: mapTags f ('@' :: s)) = none
    rw [hskip]
    refine lead?_opening_eq_none fun (hcloses : Closes (mapTags f s)) => ?_
    obtain ⟨rest, rfl⟩ :=
      List.head?_eq_some_iff.1 (head?_of_lead?_eq_none h hcloses.of_mapTags)
    have hbrace : mapTags f ('}' :: rest) = '}' :: mapTags f rest := mapTags_cons_of_none rfl
    exact congrArg List.head? hbrace

/-- Changing the tags twice is one change of the tags. -/
theorem mapTags_mapTags (f : Text → Text) (hg : Spares isEdge g) (s : Text) :
    mapTags f (mapTags g s) = mapTags (fun tag => f (g tag)) s := by
  induction s using tag_induction with
  | nil => rfl
  | char c s hlead ih =>
    rw [mapTags_cons_of_none hlead, mapTags_cons_of_none hlead,
      mapTags_cons_of_none (lead?_cons_mapTags hg hlead), ih]
  | tag body rest hbody ih =>
    rw [mapTags_tagOf_append hbody, mapTags_tagOf_append hbody, spares_tagOf hg,
      mapTags_tagOf_append (isTagBody_of_spares hg hbody), ih]

/-- What is at the end of a text stays there when the tags are changed. -/
theorem exists_mapTags_concat (hf : Spares isEdge f) (s : Text) (c : Char) :
    ∃ t, mapTags f (s ++ [c]) = t ++ [c] := by
  generalize hwhole : s ++ [c] = whole
  induction whole using tag_induction generalizing s with
  | nil => simp at hwhole
  | char d whole hlead ih =>
    rw [mapTags_cons_of_none hlead]
    cases s with
    | nil =>
      obtain ⟨rfl, rfl⟩ := List.cons.inj hwhole
      exact ⟨[], rfl⟩
    | cons e s =>
      obtain ⟨t, ht⟩ := ih s (List.cons.inj hwhole).2
      exact ⟨d :: t, by rw [ht, List.cons_append]⟩
  | tag body rest hbody ih =>
    rw [mapTags_tagOf_append hbody, spares_tagOf hf]
    obtain rfl | ⟨rest, e, rfl⟩ := List.eq_nil_or_concat' rest
    · have hlast : [c] = ['}'] := (List.append_inj' (hwhole.trans (List.append_nil _)) rfl).2
      exact ⟨opening ++ f body, by rw [hlast]; exact List.append_nil _⟩
    · rw [← List.append_assoc] at hwhole
      obtain ⟨-, hlast⟩ := List.append_inj' hwhole rfl
      obtain ⟨t, ht⟩ := ih rest (by rw [hlast])
      exact ⟨tagOf (f body) ++ t, by rw [ht, List.append_assoc]⟩

/-- The tags may be changed before the end of the text is trimmed or after it, if trimming cuts off
    no braces. -/
theorem trimEnd_mapTags {p : Char → Bool} (hf : Spares isEdge f) (hopen : p '{' = false)
    (hclose : p '}' = false) (s : Text) : trimEnd p (mapTags f s) = mapTags f (trimEnd p s) := by
  have hnot {c : Char} (hc : p c = false) {cut : Text} (hcut : ∀ d ∈ cut, p d = true) : c ∉ cut :=
    fun hmem => by cases hc.symm.trans (hcut c hmem)
  refine trimEnd_comm rfl (fun s cut hcut => ?_) (fun s c hc => ?_) s
  · exact mapTags_append_of_open (hnot hclose hcut) (hasPart_of_notMem (hnot hopen hcut)) s
  · obtain ⟨t, ht⟩ := exists_mapTags_concat hf s c
    exact ⟨t, c, ht, hc⟩

end Docpress.InlineTag
