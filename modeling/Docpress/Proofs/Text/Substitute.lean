import Docpress.Text.Blank
import Mathlib.Data.List.TakeWhile
/-!
Searching and replacing in a text, one place after another.
-/

namespace Docpress.Text

variable {find : Text → Option (Text × Nat)}

theorem dropLead?_eq_some {lead s rest : Text} :
    dropLead? lead s = some rest ↔ s = lead ++ rest := by
  induction lead generalizing s with
  | nil => simp [dropLead?, eq_comm]
  | cons p lead ih =>
    cases s with
    | nil => simp [dropLead?]
    | cons c s =>
      simp only [dropLead?, beq_iff_eq, List.cons_append, List.cons.injEq]
      by_cases hc : p = c
      · rw [if_pos hc, ih]
        simp [hc]
      · rw [if_neg hc]
        simp [Ne.symm hc]

theorem startsWith_iff {s lead : Text} : startsWith s lead = true ↔ ∃ rest, s = lead ++ rest := by
  rw [startsWith, Option.isSome_iff_exists]
  exact exists_congr fun rest => dropLead?_eq_some

theorem startsWith_iff_isPrefix {s lead : Text} : startsWith s lead = true ↔ lead <+: s := by
  rw [startsWith_iff]
  exact exists_congr fun rest => eq_comm

/-- Passing over claimed characters is going on after them. -/
theorem substituteFrom_eq (n : Nat) (s : Text) :
    substituteFrom find n s = substitute find (s.drop n) := by
  induction n generalizing s with
  | zero => rfl
  | succ n ih =>
    cases s with
    | nil => rfl
    | cons c s =>
      rw [substituteFrom, ih, List.drop_succ_cons]

theorem substitute_cons_of_none {c : Char} {s : Text} (h : find (c :: s) = none) :
    substitute find (c :: s) = c :: substitute find s := by
  rw [substitute, substituteFrom, h]
  rfl

theorem substitute_cons_of_some {c : Char} {s new : Text} {more : Nat}
    (h : find (c :: s) = some (new, more)) :
    substitute find (c :: s) = new ++ substitute find (s.drop more) := by
  rw [substitute, substituteFrom, h]
  dsimp only
  rw [substituteFrom_eq]

/-- Nothing changes up to the end of a part at whose places nothing is claimed. -/
theorem substitute_append_of_none {lead t : Text}
    (h : ∀ last, last <:+ lead → last ≠ [] → find (last ++ t) = none) :
    substitute find (lead ++ t) = lead ++ substitute find t := by
  induction lead with
  | nil => rfl
  | cons c lead ih =>
    have hnone : find (c :: (lead ++ t)) = none :=
      h (c :: lead) List.suffix_rfl (List.cons_ne_nil c lead)
    rw [List.cons_append, substitute_cons_of_none hnone, List.cons_append,
      ih fun last hlast => h last (hlast.trans (List.suffix_cons c lead))]

/-- What holds of the empty text, and of a text if it holds of all that may be left of it after its
    first character, holds of every text: a replacement goes on somewhere further on. -/
theorem drop_induction {motive : Text → Prop} (nil : motive [])
    (cons : ∀ c s, (∀ n, motive (s.drop n)) → motive (c :: s)) (s : Text) : motive s := by
  induction hn : s.length using Nat.strongRecOn generalizing s with
  | _ n ih =>
    cases s with
    | nil => exact nil
    | cons c s =>
      refine cons c s fun m => ih (s.drop m).length ?_ (s.drop m) rfl
      rw [List.length_drop, ← hn, List.length_cons]
      omega

/-- A replacement goes on from character to character, and after each claim from where the claim
    ends. -/
theorem substitute_induction {motive : Text → Text → Prop} (nil : motive [] [])
    (keep : ∀ c s, find (c :: s) = none → motive s (substitute find s) →
      motive (c :: s) (c :: substitute find s))
    (replace : ∀ c s new more, find (c :: s) = some (new, more) →
      motive (s.drop more) (substitute find (s.drop more)) →
      motive (c :: s) (new ++ substitute find (s.drop more))) (s : Text) :
    motive s (substitute find s) := by
  induction s using drop_induction with
  | nil => exact nil
  | cons c s ih =>
    cases hclaim : find (c :: s) with
    | none =>
      rw [substitute_cons_of_none hclaim]
      exact keep c s hclaim (ih 0)
    | some found =>
      obtain ⟨new, more⟩ := found
      rw [substitute_cons_of_some hclaim]
      exact replace c s new more hclaim (ih more)

theorem findSome?_congr {α β : Type} {f g : α → Option β} {l : List α}
    (h : ∀ a ∈ l, f a = g a) : l.findSome? f = l.findSome? g := by
  induction l with
  | nil => rfl
  | cons a l ih =>
    obtain ⟨ha, hl⟩ := List.forall_mem_cons.1 h
    rw [List.findSome?_cons, List.findSome?_cons, ha, ih hl]

@[simp] theorem replaceAll_nil (old new : Text) : replaceAll old new [] = [] := rfl

/-- A replaced occurrence at the start of a text. -/
theorem replaceAll_append_self {old new s : Text} (hold : old ≠ []) :
    replaceAll old new (old ++ s) = new ++ replaceAll old new s := by
  obtain ⟨c, old, rfl⟩ := List.exists_cons_of_ne_nil hold
  have hstarts : startsWith (c :: (old ++ s)) (c :: old) = true :=
    startsWith_iff.2 ⟨s, rfl⟩
  rw [replaceAll, List.cons_append, substitute_cons_of_some (if_pos hstarts)]
  rw [List.length_cons, Nat.add_sub_cancel, List.drop_left]
  rfl

/-- A character at which nothing is replaced. -/
theorem replaceAll_cons_of_not {old new s : Text} {c : Char}
    (h : ∀ rest, c :: s ≠ old ++ rest) :
    replaceAll old new (c :: s) = c :: replaceAll old new s := by
  have hstarts : ¬ startsWith (c :: s) old = true := by
    rw [startsWith_iff]
    rintro ⟨rest, hrest⟩
    exact h rest hrest
  rw [replaceAll, substitute_cons_of_none (if_neg hstarts)]
  rfl

/-- What is written for the part of a text that comes after `before`, where what is written for a
    character may depend on the whole text and on its place. -/
def writeFrom (write : Text → Char × Nat → Text) (before s : Text) : Text :=
  (s.zipIdx before.length).flatMap (write (before ++ s))

theorem writeFrom_append (write : Text → Char × Nat → Text) (before s t : Text) :
    writeFrom write before (s ++ t) =
      (s.zipIdx before.length).flatMap (write (before ++ (s ++ t))) ++
        writeFrom write (before ++ s) t := by
  rw [writeFrom, List.zipIdx_append, List.flatMap_append, writeFrom, List.append_assoc,
    List.length_append]

theorem writeFrom_cons (write : Text → Char × Nat → Text) (before : Text) (c : Char) (s : Text) :
    writeFrom write before (c :: s) =
      write (before ++ c :: s) (c, before.length) ++ writeFrom write (before ++ [c]) s := by
  rw [← List.singleton_append, writeFrom_append]
  simp

/-- A part is kept if each of its characters is, where it stands. -/
theorem writeFrom_append_of_kept {write : Text → Char × Nat → Text} {before s t : Text}
    (h : ∀ lead c tail, s = lead ++ c :: tail →
      write (before ++ lead ++ c :: (tail ++ t)) (c, (before ++ lead).length) = [c]) :
    writeFrom write before (s ++ t) = s ++ writeFrom write (before ++ s) t := by
  induction s generalizing before with
  | nil => rw [List.nil_append, List.nil_append, List.append_nil]
  | cons c s ih =>
    have hfirst := h [] c s rfl
    rw [List.append_nil] at hfirst
    rw [List.cons_append, writeFrom_cons, hfirst, ih, ← List.append_cons, List.singleton_append,
      List.cons_append]
    rintro lead d tail rfl
    rw [← List.append_cons]
    exact h (c :: lead) d tail rfl

/-- What trimming takes from the end of a text. -/
theorem trimEnd_append (p : Char → Bool) (s : Text) :
    ∃ cut, s = trimEnd p s ++ cut ∧ ∀ c ∈ cut, p c = true := by
  refine ⟨(s.reverse.takeWhile p).reverse, ?_, ?_⟩
  · rw [trimEnd, ← List.reverse_append, List.takeWhile_append_dropWhile, List.reverse_reverse]
  · intro c hc
    exact List.all_eq_true.1 List.all_takeWhile c (List.mem_reverse.1 hc)

/-- Trimming reaches no further than to a character that is to stay, wherever it stands. -/
theorem trimEnd_append_cons_of_not {p : Char → Bool} {c : Char} (hc : p c = false) (s t : Text) :
    trimEnd p (s ++ c :: t) = s ++ c :: trimEnd p t := by
  have hreverse : (s ++ c :: t).reverse = t.reverse ++ c :: s.reverse := by simp
  rw [trimEnd, hreverse, List.dropWhile_append, List.dropWhile_cons_of_neg (by simp [hc]), trimEnd]
  split
  · rename_i hnone
    rw [List.isEmpty_iff.1 hnone]
    simp
  · simp

/-- Trimming stops at the last character that is to stay. -/
theorem trimEnd_append_cons {p : Char → Bool} {c : Char} (hc : p c = false) {cut : Text}
    (hcut : ∀ d ∈ cut, p d = true) (s : Text) : trimEnd p (s ++ c :: cut) = s ++ [c] := by
  have hnone : cut.reverse.dropWhile p = [] :=
    List.dropWhile_eq_nil_iff.2 fun d hd => hcut d (List.mem_reverse.1 hd)
  rw [trimEnd_append_cons_of_not hc, trimEnd, hnone, List.reverse_nil]

/-- Trimming goes no further than the part of a text that has a character that is to stay. -/
theorem trimEnd_append_of_mem {p : Char → Bool} {c : Char} {last : Text} (hmem : c ∈ last)
    (hc : p c = false) (s : Text) : trimEnd p (s ++ last) = s ++ trimEnd p last := by
  obtain ⟨before, after, rfl⟩ := List.append_of_mem hmem
  rw [← List.append_assoc, trimEnd_append_cons_of_not hc, trimEnd_append_cons_of_not hc,
    List.append_assoc]

/-- Text without blanks at its ends is not trimmed. -/
theorem trimBlank_of_forall_not {s : Text} (h : ∀ c ∈ s, isBlank c = false) : trimBlank s = s := by
  have hstart : trimStart isBlank s = s := by
    cases s with
    | nil => rfl
    | cons c s => exact List.dropWhile_cons_of_neg (by simp [h c])
  rw [trimBlank, Text.trim, hstart]
  obtain rfl | ⟨front, d, rfl⟩ := List.eq_nil_or_concat s
  · rfl
  · rw [List.concat_eq_append] at h ⊢
    exact trimEnd_append_cons (h d (by simp)) (by simp) front

end Docpress.Text
