import Docpress.Slug
import Mathlib.Data.List.Nodup
import Mathlib.Data.List.Perm.Subperm
/-!
Which slug is the first free one. The numbered slugs are all different, so a list of texts takes no
more of them than it has members, and the search comes to one that is left.
-/

namespace Docpress.Slug

/-- What is tried in turn: the slug itself, `slug-1`, `slug-2`, … -/
def numbered (slug : Text) : Nat → Text
  | 0 => slug
  | n + 1 => slug ++ '-' :: Text.ofNat (n + 1)

/-- The first numbered slug that is not taken. -/
def IsFirstFree (taken : List Text) (slug id : Text) : Prop :=
  ∃ n, id = numbered slug n ∧ id ∉ taken ∧ ∀ m < n, numbered slug m ∈ taken

theorem ofNat_injective : Function.Injective Text.ofNat := by
  intro m n h
  have hvalue := congrArg (Nat.ofDigitChars 10 · 0) h
  simpa [Text.ofNat] using hvalue

theorem numbered_injective (slug : Text) : Function.Injective (numbered slug) := by
  intro m n h
  have hne (k : Nat) : slug ≠ numbered slug (k + 1) := fun h => by
    have hlength := congrArg List.length h
    rw [numbered, List.length_append, List.length_cons] at hlength
    omega
  match m, n with
  | 0, 0 => rfl
  | 0, n + 1 => exact absurd h (hne n)
  | m + 1, 0 => exact absurd h.symm (hne m)
  | m + 1, n + 1 => exact ofNat_injective (List.cons.inj (List.append_cancel_left h)).2

/-- Where all numbered slugs below a number are taken, at least that many texts are. -/
theorem le_length_of_numbered_mem {taken : List Text} {slug : Text} {n : Nat}
    (h : ∀ m < n, numbered slug m ∈ taken) : n ≤ taken.length := by
  have hnodup : ((List.range n).map (numbered slug)).Nodup :=
    List.Nodup.map (numbered_injective slug) List.nodup_range
  have hsubset : (List.range n).map (numbered slug) ⊆ taken := by
    intro s hs
    obtain ⟨m, hm, rfl⟩ := List.mem_map.1 hs
    exact h m (List.mem_range.1 hm)
  simpa using (List.subperm_of_subset hnodup hsubset).length_le

/-- The search finds the first free slug if all before its start are taken, and its fuel lasts to a
    number beyond which not all can be. -/
theorem firstFreeFrom_isFirstFree {taken : List Text} {slug : Text} {fuel n : Nat}
    (h : ∀ m < n + 1, numbered slug m ∈ taken) (hfuel : taken.length ≤ n + fuel) :
    IsFirstFree taken slug (firstFreeFrom taken slug fuel (n + 1)) := by
  induction fuel generalizing n with
  | zero =>
    have hlength := le_length_of_numbered_mem h
    omega
  | succ fuel ih =>
    rw [firstFreeFrom, ← numbered]
    by_cases hmem : numbered slug (n + 1) ∈ taken
    · rw [if_pos (List.contains_iff_mem.2 hmem)]
      exact ih (Nat.forall_lt_succ_right.2 ⟨h, hmem⟩) (by omega)
    · rw [if_neg (mt List.contains_iff_mem.1 hmem)]
      exact ⟨n + 1, rfl, hmem, h⟩

theorem firstFree_isFirstFree (taken : List Text) (slug : Text) :
    IsFirstFree taken slug (firstFree taken slug) := by
  rw [firstFree]
  by_cases hmem : slug ∈ taken
  · rw [if_pos (List.contains_iff_mem.2 hmem)]
    refine firstFreeFrom_isFirstFree ?_ (Nat.le_of_eq (Nat.zero_add _).symm)
    intro m hm
    rwa [Nat.lt_one_iff.1 hm]
  · rw [if_neg (mt List.contains_iff_mem.1 hmem)]
    exact ⟨0, rfl, hmem, fun m hm => absurd hm (Nat.not_lt_zero m)⟩

/-- Which slug is free first depends only on which texts are taken. -/
theorem IsFirstFree.congr {taken taken' : List Text} {slug id : Text}
    (hmem : ∀ s, s ∈ taken ↔ s ∈ taken') (h : IsFirstFree taken slug id) :
    IsFirstFree taken' slug id := by
  obtain ⟨n, rfl, hfree, hbelow⟩ := h
  exact ⟨n, rfl, mt (hmem _).2 hfree, fun m hm => (hmem _).1 (hbelow m hm)⟩

end Docpress.Slug
