import Docpress.Proofs.Text.Rules
import Docpress.Proofs.Text.Within
import Mathlib.Data.List.Basic
/-!
Changes of a text that spare some characters: those stay where they are, no others of their kind are
written, and what lies between them is changed by itself. Such a change goes with whatever is told by
the spared characters alone.
-/

namespace Docpress.Text

/-- The change leaves the characters of a kind where they are and writes no others. It goes through
    both sides of such a character apart, and makes nothing of a text that is not empty vanish as a
    whole. -/
structure Spares (p : Char → Bool) (f : Text → Text) : Prop where
  nil : f [] = []
  ne_nil : ∀ {s}, s ≠ [] → f s ≠ []
  split : ∀ {c}, p c = true → ∀ s t, f (s ++ c :: t) = f s ++ c :: f t
  mem : ∀ {c}, p c = true → ∀ {s}, c ∈ f s → c ∈ s

namespace Spares

variable {p q : Char → Bool} {f : Text → Text}

theorem mono (h : Spares p f) (hq : ∀ c, q c = true → p c = true) : Spares q f :=
  ⟨h.nil, h.ne_nil, fun hc => h.split (hq _ hc), fun hc _ => h.mem (hq _ hc)⟩

theorem cons (h : Spares p f) {c : Char} (hc : p c = true) (s : Text) : f (c :: s) = c :: f s := by
  have hsplit := h.split hc [] s
  rwa [h.nil] at hsplit

/-- A text is changed up to the first spared character, and then from there on. -/
theorem append (h : Spares p f) {t : Text} (ht : ∀ c ∈ t.head?, p c = true) (s : Text) :
    f (s ++ t) = f s ++ f t := by
  cases t with
  | nil => rw [h.nil, List.append_nil, List.append_nil]
  | cons c t =>
    have hc := ht c rfl
    rw [h.split hc, h.cons hc]

/-- Spared characters are as they were. -/
theorem append_self (h : Spares p f) {t : Text} (ht : ∀ c ∈ t, p c = true) (s : Text) :
    f (s ++ t) = f s ++ t := by
  have hself : f t = t := by
    induction t with
    | nil => exact h.nil
    | cons c t ih =>
      obtain ⟨hc, ht⟩ := List.forall_mem_cons.1 ht
      rw [h.cons hc, ih ht]
  rw [h.append (fun c hc => ht c (List.mem_of_head? hc)), hself]

theorem notMem (h : Spares p f) {c : Char} (hc : p c = true) {s : Text} (hs : c ∉ s) : c ∉ f s :=
  fun hmem => hs (h.mem hc hmem)

/-- A kind of characters that all others are spared of is kept. -/
theorem forall_of_forall (h : Spares p f) (hq : ∀ c, q c = false → p c = true) {s : Text}
    (hs : ∀ c ∈ s, q c = true) : ∀ c ∈ f s, q c = true := by
  intro c hc
  cases hqc : q c with
  | true => rfl
  | false => exact absurd (hs c (h.mem (hq c hqc) hc)) (by simp [hqc])

/-- What reaches up to a spared character reaches up to it after the change. -/
theorem takeWhile_dropWhile (h : Spares p f) (hq : ∀ c, q c = false → p c = true) (s : Text) :
    (f s).takeWhile q = f (s.takeWhile q) ∧ (f s).dropWhile q = f (s.dropWhile q) := by
  have hhead : ∀ c ∈ (s.dropWhile q).head?, q c = false := by
    intro c hc
    have hnot := List.head?_dropWhile_not q s
    rw [Option.mem_def.1 hc] at hnot
    simpa using hnot
  have hsplit : f s = f (s.takeWhile q) ++ f (s.dropWhile q) := by
    rw [← h.append fun c hc => hq c (hhead c hc), List.takeWhile_append_dropWhile]
  have hlead : ∀ c ∈ f (s.takeWhile q), q c = true :=
    h.forall_of_forall hq fun c hc => List.all_eq_true.1 List.all_takeWhile c hc
  have hrest : ∀ c ∈ (f (s.dropWhile q)).head?, q c = false := by
    cases hdrop : s.dropWhile q with
    | nil => simp [h.nil]
    | cons d t =>
      have hd : q d = false := hhead d (by rw [hdrop]; rfl)
      rw [h.cons (hq d hd)]
      rintro c ⟨⟩
      exact hd
  rw [hsplit, List.takeWhile_append_of_pos hlead, List.dropWhile_append_of_pos hlead]
  cases hdrop : f (s.dropWhile q) with
  | nil => simp
  | cons d t =>
    have hd : ¬ q d = true := by simp [hrest d (by rw [hdrop]; rfl)]
    rw [List.takeWhile_cons_of_neg hd, List.dropWhile_cons_of_neg hd, List.append_nil]
    exact ⟨rfl, rfl⟩

/-- Spared characters at the start of a text are there before the change and after it. -/
theorem dropLead? (h : Spares p f) {lead : Text} (hlead : ∀ c ∈ lead, p c = true) (s : Text) :
    Text.dropLead? lead (f s) = (Text.dropLead? lead s).map f := by
  induction lead generalizing s with
  | nil => rfl
  | cons c lead ih =>
    obtain ⟨hc, hlead⟩ := List.forall_mem_cons.1 hlead
    cases s with
    | nil => rw [h.nil]; rfl
    | cons d s =>
      by_cases hd : p d = true
      · rw [h.cons hd, Text.dropLead?, Text.dropLead?]
        split
        · exact ih hlead s
        · rfl
      · -- The text before the first spared character does not become empty.
        have hnot : ∀ c, (!p c) = false → p c = true := fun c hc => by simpa using hc
        have hlead' : (f (d :: s)).takeWhile (!p ·) ≠ [] := by
          rw [(h.takeWhile_dropWhile hnot _).1, List.takeWhile_cons_of_pos (by simpa using hd)]
          exact h.ne_nil (List.cons_ne_nil _ _)
        have hne : c ≠ d := fun heq => hd (heq ▸ hc)
        cases hchanged : f (d :: s) with
        | nil => rw [hchanged] at hlead'; exact absurd rfl hlead'
        | cons e t =>
          have hce : c ≠ e := by
            rintro rfl
            rw [hchanged, List.takeWhile_cons_of_neg (by simpa using hc)] at hlead'
            exact hlead' rfl
          simp [Text.dropLead?, hne, hce]

end Spares

/-! ### Trimming -/

/-- Trimming leaves a character at the end that is to stay. -/
theorem not_of_trimEnd_eq_concat {p : Char → Bool} {s t : Text} {c : Char}
    (h : trimEnd p s = t ++ [c]) : p c = false := by
  have hreverse : s.reverse.dropWhile p = c :: t.reverse := by
    rw [← List.reverse_reverse (s.reverse.dropWhile p)]
    change (trimEnd p s).reverse = _
    rw [h, List.reverse_concat]
  have hstop := List.head?_dropWhile_not p s.reverse
  rw [hreverse] at hstop
  simpa using hstop

/-- A change may be made before trimming or after it, if it copies what is to be cut off, and if the
    text ends with a character that is to stay after the change wherever it did before. -/
theorem trimEnd_comm {p : Char → Bool} {f : Text → Text} (hnil : f [] = [])
    (hcut : ∀ s cut, (∀ c ∈ cut, p c = true) → f (s ++ cut) = f s ++ cut)
    (hlast : ∀ s c, p c = false → ∃ t d, f (s ++ [c]) = t ++ [d] ∧ p d = false) (s : Text) :
    trimEnd p (f s) = f (trimEnd p s) := by
  obtain ⟨cut, hs, hblank⟩ := trimEnd_append p s
  have hchanged : f s = f (trimEnd p s) ++ cut := by
    rw [← hcut _ _ hblank, ← hs]
  rw [hchanged]
  obtain hempty | ⟨t, c, hkept⟩ := List.eq_nil_or_concat' (trimEnd p s)
  · have hnone : cut.reverse.dropWhile p = [] :=
      List.dropWhile_eq_nil_iff.2 fun d hd => hblank d (List.mem_reverse.1 hd)
    rw [hempty, hnil, List.nil_append, trimEnd, hnone, List.reverse_nil]
  · obtain ⟨u, d, hlast, hd⟩ := hlast t c (not_of_trimEnd_eq_concat hkept)
    rw [hkept, hlast, List.append_assoc, List.singleton_append, trimEnd_append_cons hd hblank]

/-- A change that spares what is cut off may be made before trimming or after it. -/
theorem Spares.trimEnd_comm {p : Char → Bool} {f : Text → Text} (h : Spares p f) (s : Text) :
    trimEnd p (f s) = f (trimEnd p s) := by
  refine Text.trimEnd_comm h.nil (fun s cut hcut => h.append_self hcut s) (fun s c hc => ?_) s
  induction hn : s.length using Nat.strongRecOn generalizing s with
  | _ n ih =>
    by_cases hspared : ∃ d ∈ s, p d = true
    · obtain ⟨d, hmem, hd⟩ := hspared
      obtain ⟨u, v, rfl⟩ := List.append_of_mem hmem
      obtain ⟨t, e, hv, he⟩ := ih v.length (by simp [← hn]; omega) v rfl
      exact ⟨f u ++ d :: t, e, by rw [List.append_assoc, List.cons_append, h.split hd, hv]; simp, he⟩
    · have hnone : ∀ d, p d = true → d ∉ s ++ [c] := by
        intro d hd hmem
        rcases List.mem_append.1 hmem with hmem | hmem
        · exact hspared ⟨d, hmem, hd⟩
        · rw [List.mem_singleton.1 hmem, hc] at hd
          cases hd
      obtain ⟨t, e, hte⟩ := List.eq_nil_or_concat' (f (s ++ [c])) |>.resolve_left
        (h.ne_nil (by simp))
      refine ⟨t, e, hte, Bool.eq_false_iff.2 fun he => ?_⟩
      exact h.notMem he (hnone e he) (by rw [hte]; simp)

/-! ### Rules -/

/-- Rules spare the characters that none of them has. -/
theorem spares_substitute {p : Char → Bool} {rules : List Rule}
    (h : ∀ rule ∈ rules, (rule.old ++ rule.new).all (!p ·) = true) :
    Spares p (substitute (claim rules)) := by
  have hnotMem : ∀ {c}, p c = true → ∀ rule ∈ rules, c ∉ rule.old ∧ c ∉ rule.new := by
    intro c hc rule hrule
    rw [← not_or, ← List.mem_append]
    intro hmem
    have hnot := List.all_eq_true.1 (h rule hrule) c hmem
    rw [hc] at hnot
    cases hnot
  refine ⟨rfl, fun {s} hs => ?_, fun {c} hc s t => ?_, fun {c} hc {s} hmem => ?_⟩
  · obtain ⟨c, s, rfl⟩ := List.exists_cons_of_ne_nil hs
    cases hclaim : claim rules (c :: s) with
    | none => simp [substitute_cons_of_none hclaim]
    | some found =>
      obtain ⟨new, more⟩ := found
      obtain ⟨rule, -, -, -, -, rfl, -, -⟩ := claim_eq_some hclaim
      simp [substitute_cons_of_some hclaim, rule.new_ne]
  · refine substitute_append_cons (fun t => ?_) (fun d s t => ?_) (fun d s new more hclaim => ?_) s t
    · refine claim_eq_none.2 fun rule hrule => ?_
      obtain ⟨d, tail, hold⟩ := List.exists_cons_of_ne_nil rule.old_ne
      have hne := (hnotMem hc rule hrule).1
      rw [hold] at hne ⊢
      exact startsWith_cons_of_ne (List.ne_of_not_mem_cons hne) tail t
    · refine findSome?_congr fun rule hrule => ?_
      rw [← List.cons_append, startsWith_append_cons (hnotMem hc rule hrule).1]
    · obtain ⟨rule, -, tail, rest, -, -, rfl, rfl⟩ := claim_eq_some hclaim
      simp
  · by_contra hs
    refine within_ne_iff.1 (Within.substitute (fun here new more _ hclaim => ?_)
      (within_ne_iff.2 hs)) hmem
    obtain ⟨rule, hrule, hsome⟩ := List.exists_of_findSome?_eq_some hclaim
    split at hsome
    · obtain ⟨rfl, -⟩ := Prod.mk.inj (Option.some.inj hsome)
      exact within_ne_iff.2 (hnotMem hc rule hrule).2
    · cases hsome

end Docpress.Text
