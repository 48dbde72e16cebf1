import Docpress.Proofs.Text.Part
/-!
Changes of a text that are seen in its length. Replacements by shorter texts either find nothing or
shorten the text, so several of them in a row leave a text as it is only if none of them finds
anything in it. Other changes make a text longer if there is anything to change. Such changes do not
cancel out, be they made in a row or side by side.
-/

namespace Docpress.Text

/-- A place somewhere in the text is claimed. -/
def finds (find : Text → Option (Text × Nat)) : Text → Bool
  | [] => false
  | c :: s => (find (c :: s)).isSome || finds find s

/-- What is written for a claimed place is shorter than what was claimed. -/
def Shrinks (find : Text → Option (Text × Nat)) : Prop :=
  ∀ here new more, find here = some (new, more) → new.length ≤ more ∧ more < here.length

section

variable {find : Text → Option (Text × Nat)} {s : Text}

/-- Nothing changes where nothing is claimed. -/
theorem substitute_of_not_finds (h : finds find s = false) : substitute find s = s := by
  induction s with
  | nil => rfl
  | cons c s ih =>
    rw [finds, Bool.or_eq_false_iff, Option.isSome_eq_false_iff, Option.isNone_iff_eq_none] at h
    rw [substitute_cons_of_none h.1, ih h.2]

/-- Nothing is found in a part at whose places nothing is claimed. -/
theorem finds_append_of_none {lead t : Text}
    (h : ∀ last, last <:+ lead → last ≠ [] → find (last ++ t) = none) :
    finds find (lead ++ t) = finds find t := by
  induction lead with
  | nil => rfl
  | cons c lead ih =>
    have hnone : find (c :: (lead ++ t)) = none :=
      h (c :: lead) List.suffix_rfl (List.cons_ne_nil c lead)
    rw [List.cons_append, finds, hnone,
      ih fun last hlast => h last (hlast.trans (List.suffix_cons c lead))]
    rfl

theorem Shrinks.length_substitute_le (hfind : Shrinks find) (s : Text) :
    (substitute find s).length ≤ s.length := by
  refine substitute_induction (motive := fun s t => t.length ≤ s.length) (Nat.le_refl _)
    (fun _ _ _ ih => Nat.succ_le_succ ih) (fun c s new more hclaim ih => ?_) s
  obtain ⟨hnew, hmore⟩ := hfind _ new more hclaim
  rw [List.length_cons] at hmore
  rw [List.length_drop] at ih
  rw [List.length_append, List.length_cons]
  omega

/-- A text in which something is claimed becomes shorter. -/
theorem Shrinks.length_substitute_lt (hfind : Shrinks find) (h : finds find s = true) :
    (substitute find s).length < s.length := by
  induction s with
  | nil => cases h
  | cons c s ih =>
    cases hclaim : find (c :: s) with
    | none =>
      rw [finds, hclaim] at h
      rw [substitute_cons_of_none hclaim]
      exact Nat.succ_lt_succ (ih h)
    | some found =>
      obtain ⟨new, more⟩ := found
      obtain ⟨hnew, hmore⟩ := hfind _ new more hclaim
      have hrest := hfind.length_substitute_le (s.drop more)
      rw [List.length_cons] at hmore
      rw [List.length_drop] at hrest
      rw [substitute_cons_of_some hclaim, List.length_append, List.length_cons]
      omega

/-! ### Parts -/

/-- The replacement of a part by a shorter text. -/
theorem shrinks_replaceAll {old new : Text} (hlength : new.length < old.length) :
    Shrinks fun here => if startsWith here old then some (new, old.length - 1) else none := by
  intro here new' more hclaim
  dsimp only at hclaim
  split at hclaim
  · rename_i hstarts
    obtain ⟨rest, rfl⟩ := startsWith_iff.1 hstarts
    obtain ⟨rfl, rfl⟩ := Prod.mk.inj (Option.some.inj hclaim)
    rw [List.length_append]
    omega
  · cases hclaim

/-- To claim the occurrences of a part is to find the part. -/
theorem finds_replaceAll {old new : Text} (hold : old ≠ []) (s : Text) :
    finds (fun here => if startsWith here old then some (new, old.length - 1) else none) s =
      hasPart old s := by
  induction s with
  | nil =>
    obtain ⟨c, old, rfl⟩ := List.exists_cons_of_ne_nil hold
    rfl
  | cons c s ih =>
    rw [finds, hasPart, ih]
    split <;> simp_all

/-- A part is found where it occurs. -/
theorem hasPart_iff {part : Text} (hpart : part ≠ []) {s : Text} :
    hasPart part s = true ↔ ∃ before after, s = before ++ part ++ after := by
  induction s with
  | nil => simp [hasPart, hpart]
  | cons c s ih =>
    rw [hasPart_cons, Bool.or_eq_true, startsWith_iff]
    constructor
    · rintro (⟨after, heq⟩ | hrest)
      · exact ⟨[], after, heq⟩
      · obtain ⟨before, after, rfl⟩ := ih.1 hrest
        exact ⟨c :: before, after, rfl⟩
    · rintro ⟨before, after, heq⟩
      cases before with
      | nil => exact .inl ⟨after, heq⟩
      | cons d before =>
        obtain ⟨rfl, rfl⟩ := List.cons.inj heq
        exact .inr (ih.2 ⟨before, after, rfl⟩)

end

/-! ### Longer texts -/

/-- The text `t` is longer than `s` if `P`, and `s` itself otherwise. -/
def GrowsIf (P : Prop) (s t : Text) : Prop :=
  (¬ P ∧ t = s) ∨ (P ∧ s.length < t.length)

namespace GrowsIf

variable {P Q : Prop} {s t s' t' : Text}

theorem length_le (h : GrowsIf P s t) : s.length ≤ t.length := by
  rcases h with ⟨-, rfl⟩ | ⟨-, hlonger⟩
  · exact Nat.le_refl _
  · exact Nat.le_of_lt hlonger

theorem eq_iff (h : GrowsIf P s t) : t = s ↔ ¬ P := by
  rcases h with ⟨hnone, rfl⟩ | ⟨hsome, hlonger⟩
  · exact ⟨fun _ => hnone, fun _ => rfl⟩
  · refine ⟨fun heq => absurd (congrArg List.length heq) ?_, fun hnone => absurd hsome hnone⟩
    omega

theorem congr (h : GrowsIf P s t) (hiff : P ↔ Q) : GrowsIf Q s t := by
  rwa [GrowsIf, ← hiff]

theorem append (h : GrowsIf P s t) (h' : GrowsIf Q s' t') :
    GrowsIf (P ∨ Q) (s ++ s') (t ++ t') := by
  have hle := h.length_le
  have hle' := h'.length_le
  rcases h with ⟨hnone, rfl⟩ | ⟨hsome, hlonger⟩
  · rcases h' with ⟨hnone', rfl⟩ | ⟨hsome', hlonger'⟩
    · exact .inl ⟨not_or.2 ⟨hnone, hnone'⟩, rfl⟩
    · exact .inr ⟨.inr hsome', by simp only [List.length_append]; omega⟩
  · exact .inr ⟨.inl hsome, by simp only [List.length_append]; omega⟩

theorem cons (c : Char) (h : GrowsIf P s t) : GrowsIf P (c :: s) (c :: t) := by
  rcases h with ⟨hnone, rfl⟩ | ⟨hsome, hlonger⟩
  · exact .inl ⟨hnone, rfl⟩
  · exact .inr ⟨hsome, Nat.succ_lt_succ hlonger⟩

/-- Two changes in a row: what the first one has made longer the second one does not shorten. -/
theorem comp {f g : Text → Text} {P Q : Text → Prop} (hf : ∀ s, GrowsIf (P s) s (f s))
    (hg : ∀ s, GrowsIf (Q s) s (g s)) (s : Text) : GrowsIf (P s ∨ Q s) s (g (f s)) := by
  rcases hf s with ⟨hnone, hsame⟩ | ⟨hsome, hlonger⟩
  · rw [hsame]
    exact (hg s).congr (or_iff_right hnone).symm
  · exact .inr ⟨.inl hsome, Nat.lt_of_lt_of_le hlonger (hg (f s)).length_le⟩

/-- Changes side by side. -/
theorem flatMap {α : Type} {P : α → Prop} {f g : α → Text} (h : ∀ a, GrowsIf (P a) (f a) (g a))
    (l : List α) : GrowsIf (∃ a ∈ l, P a) (l.flatMap f) (l.flatMap g) := by
  induction l with
  | nil => exact .inl ⟨by simp, rfl⟩
  | cons a l ih => exact ((h a).append ih).congr (by simp)

end GrowsIf

/-- A replacement by longer texts makes a text longer if it finds anything. -/
theorem growsIf_substitute {find : Text → Option (Text × Nat)}
    (hfind : ∀ here new more, find here = some (new, more) →
      more + 1 < new.length ∧ more < here.length) (s : Text) :
    GrowsIf (finds find s = true) s (substitute find s) := by
  refine substitute_induction (motive := fun s t => GrowsIf (finds find s = true) s t)
    (.inl ⟨Bool.false_ne_true, rfl⟩) (fun c s hclaim ih => ?_)
    (fun c s new more hclaim ih => .inr ⟨?_, ?_⟩) s
  · rw [finds, hclaim, Option.isSome_none, Bool.false_or]
    exact ih.cons c
  · rw [finds, hclaim]
    rfl
  · obtain ⟨hnew, hmore⟩ := hfind _ new more hclaim
    have hrest := ih.length_le
    rw [List.length_cons] at hmore
    rw [List.length_drop] at hrest
    rw [List.length_append, List.length_cons]
    omega

end Docpress.Text
