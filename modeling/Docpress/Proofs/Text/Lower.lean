import Docpress.Proofs.Text.Utf8
import Docpress.Proofs.Text.Within
import Docpress.Text.Case
/-!
Lower case. What it writes is in lower case already, so that making a text lower case a second time
changes nothing, although one capital becomes two characters and another one depends on what stands
around it.
-/

namespace Docpress

open Text

variable {p : Char → Prop} {c d : Char} {before s : Text}

/-- The character stays as it is, wherever it stands: it is its own lower case, and not the capital
    sigma. -/
def IsLowered (c : Char) : Prop :=
  lowerChar c = [c] ∧ c.toNat ≠ 931

instance (c : Char) : Decidable (IsLowered c) :=
  inferInstanceAs (Decidable (_ ∧ _))

/-! ### Runs -/

/-- What the first run writes is nothing that the second one moves: it ends before the second one,
    begins after it, or lies between its steps. -/
def runMisses (run other : Nat × Nat × Nat × Int) : Bool :=
  (run.2.1 + run.2.2.2).toNat < other.1 || other.2.1 < (run.1 + run.2.2.2).toNat ||
    (other.2.2.1 == 2 && (run.2.2.1 == 2 || run.1 == run.2.1) &&
      (run.1 + run.2.2.2 - other.1) % 2 == 1)

/-- Where the first run moves a number, the second one does not move it on. -/
theorem mod_ne_zero_of_runMisses {run other : Nat × Nat × Nat × Int} {m n : Nat}
    (h : runMisses run other = true) (hm : run.1 ≤ m ∧ m ≤ run.2.1)
    (hstep : (m - run.1) % run.2.2.1 = 0) (hn : (n : Int) = m + run.2.2.2)
    (hother : other.1 ≤ n ∧ n ≤ other.2.1) : (n - other.1) % other.2.2.1 ≠ 0 := by
  simp only [runMisses, Bool.or_eq_true, Bool.and_eq_true, decide_eq_true_eq, beq_iff_eq] at h
  rcases h with (hends | hbegins) | ⟨⟨htwo, hsteps⟩, hodd⟩
  · omega
  · omega
  · rw [htwo]
    rcases hsteps with hsteps | hone
    · rw [hsteps] at hstep
      omega
    · omega

/-- No run writes what a run moves, or the capital with a lower case of two characters. -/
theorem lowerRuns_miss :
    (lowerRuns.all fun run => ((304, 304, 1, 0) :: lowerRuns).all (runMisses run)) = true := by
  decide +kernel

/-- Beyond ASCII, lower case moves a character to another one beyond it or to a letter. -/
theorem lowerRuns_wide : ∀ run ∈ lowerRuns,
    (run.1 = run.2.1 ∧ run.1 + run.2.2.2 = ('k'.toNat : Int)) ∨
      (128 ≤ (run.1 + run.2.2.2 : Int) ∧ (run.2.1 + run.2.2.2 : Int) < 0xD800) ∨
      (0xDFFF < (run.1 + run.2.2.2 : Int) ∧ (run.2.1 + run.2.2.2 : Int) < 0x110000) := by
  decide +kernel

/-- The run that moves a character, and where it moves it. -/
theorem shiftBy?_lowerRuns (h : shiftBy? lowerRuns c = some d) :
    ∃ run ∈ lowerRuns, (run.1 ≤ c.toNat ∧ c.toNat ≤ run.2.1) ∧
      (c.toNat - run.1) % run.2.2.1 = 0 ∧ (d.toNat : Int) = c.toNat + run.2.2.2 ∧
      (d = 'k' ∨ 128 ≤ d.toNat) := by
  obtain ⟨⟨first, last, step, shift⟩, hfind, rfl⟩ := Option.map_eq_some_iff.1 h
  have hmem := List.mem_of_find?_eq_some hfind
  have hrun := lowerRuns_wide _ hmem
  have hrange := List.find?_some hfind
  simp only [Bool.and_eq_true, decide_eq_true_eq, beq_iff_eq] at hrange
  dsimp only at hrun ⊢
  obtain ⟨⟨hfirst, hlast⟩, hstep⟩ := hrange
  refine ⟨_, hmem, ⟨hfirst, hlast⟩, hstep, ?_⟩
  dsimp only
  rcases hrun with ⟨heq, hk⟩ | hrun
  · have hc : c.toNat = first := by omega
    rw [hc, hk, Int.toNat_natCast, Char.ofNat_toNat]
    exact ⟨rfl, .inl rfl⟩
  · rw [toNat_ofNat (by omega)]
    omega

/-- A run moves a character to one that stays as it is. -/
theorem isLowered_of_shiftBy? (h : shiftBy? lowerRuns c = some d) : IsLowered d := by
  obtain ⟨run, hrun, hrange, hstep, hd, hwide⟩ := shiftBy?_lowerRuns h
  have hmiss : ∀ other ∈ (304, 304, 1, 0) :: lowerRuns, other.1 ≤ d.toNat ∧ d.toNat ≤ other.2.1 →
      (d.toNat - other.1) % other.2.2.1 ≠ 0 := fun other hother =>
    mod_ne_zero_of_runMisses
      (List.all_eq_true.1 (List.all_eq_true.1 lowerRuns_miss run hrun) other hother) hrange hstep hd
  have hdotted : d.toNat ≠ 304 := fun heq =>
    hmiss _ List.mem_cons_self ⟨heq.ge, heq.le⟩ (Nat.mod_one _)
  have hstays : shiftBy? lowerRuns d = none := by
    refine Option.map_eq_none_iff.2 (List.find?_eq_none.2 fun other hother hmoves => ?_)
    simp only [Bool.and_eq_true, decide_eq_true_eq, beq_iff_eq] at hmoves
    exact hmiss other (List.mem_cons_of_mem _ hother) hmoves.1 hmoves.2
  have hsigma : d.toNat ≠ 931 := fun heq =>
    hmiss (931, 939, 1, 32) (by decide) ⟨heq.ge, by rw [heq]; decide⟩ (Nat.mod_one _)
  refine ⟨?_, hsigma⟩
  rcases hwide with rfl | hwide
  · decide
  · rw [lowerChar, if_neg (by omega), if_neg (by simpa using hdotted), hstays]
    rfl

/-! ### Texts -/

/-- An ASCII character stays as it is, or becomes a letter. -/
theorem isAlphanum_toLower (h : c.toNat < 128) : c.toLower = c ∨ c.toLower.isAlphanum = true :=
  forall_of_toNat_lt (P := fun c => c.toLower = c ∨ c.toLower.isAlphanum = true)
    (by decide) h

theorem isLowered_toLower (h : c.toNat < 128) : IsLowered c.toLower :=
  forall_of_toNat_lt (P := fun c => IsLowered c.toLower) (by decide) h

theorem lowerChar_ne_nil (c : Char) : lowerChar c ≠ [] := by
  unfold lowerChar
  split
  · exact List.cons_ne_nil _ _
  · split <;> exact List.cons_ne_nil _ _

theorem isLowered_lowerChar (h : c.toNat ≠ 931) : Within IsLowered (lowerChar c) := by
  by_cases hascii : c.toNat < 128
  · rw [lowerChar, if_pos hascii]
    exact within_cons.2 ⟨isLowered_toLower hascii, .nil⟩
  · by_cases hdotted : c.toNat = 304
    · rw [lowerChar, if_neg hascii, if_pos (by simpa using hdotted)]
      exact forall_of_all (by decide)
    · have hchar : lowerChar c = [(shiftBy? lowerRuns c).getD c] := by
        rw [lowerChar, if_neg hascii, if_neg (by simpa using hdotted)]
      cases hshift : shiftBy? lowerRuns c with
      | none =>
        rw [hchar, hshift]
        rw [hshift] at hchar
        exact within_cons.2 ⟨⟨hchar, h⟩, .nil⟩
      | some d =>
        rw [hchar, hshift]
        exact within_cons.2 ⟨isLowered_of_shiftBy? hshift, .nil⟩

/-- Lower case writes what it writes for single characters, and the two small sigmas. -/
theorem lowerFrom_within (hsigma : p '\u03c2' ∧ p '\u03c3')
    (hs : ∀ c ∈ s, c.toNat ≠ 931 → Within p (lowerChar c)) : Within p (lowerFrom before s) := by
  induction s generalizing before with
  | nil => exact .nil
  | cons c s ih =>
    obtain ⟨hc, hs⟩ := List.forall_mem_cons.1 hs
    refine Within.append ?_ (ih hs)
    split
    · split
      · exact within_cons.2 ⟨hsigma.1, .nil⟩
      · exact within_cons.2 ⟨hsigma.2, .nil⟩
    · rename_i hother
      exact hc (by simpa using hother)

/-- All that lower case writes stays as it is. -/
theorem isLowered_lower (s : Text) : Within IsLowered (lower s) :=
  lowerFrom_within (by decide) fun _ _ => isLowered_lowerChar

theorem lowerFrom_of_isLowered (h : Within IsLowered s) : lowerFrom before s = s := by
  induction s generalizing before with
  | nil => rfl
  | cons c s ih =>
    obtain ⟨⟨hc, hsigma⟩, hs⟩ := within_cons.1 h
    rw [lowerFrom, if_neg (by simpa using hsigma), hc, ih hs]
    rfl

theorem lower_of_isLowered (h : Within IsLowered s) : lower s = s :=
  lowerFrom_of_isLowered h

theorem lower_eq_nil_iff : lower s = [] ↔ s = [] := by
  refine ⟨fun h => ?_, fun h => by rw [h]; rfl⟩
  cases s with
  | nil => rfl
  | cons c s =>
    rw [lower, lowerFrom, List.append_eq_nil_iff] at h
    have hne := h.1
    split at hne
    · split at hne <;> cases hne
    · exact absurd hne (lowerChar_ne_nil c)

end Docpress
