import Docpress.Text.Blank
import Mathlib.Data.Bool.AllAny
/-!
Words of ASCII letters and digits, which no reader of documents gives a meaning to.
-/

namespace Docpress.Text

/-- Every character is an ASCII letter or digit. -/
def IsWord (s : Text) : Prop :=
  ∀ c ∈ s, c.isAlphanum = true

instance (s : Text) : Decidable (IsWord s) :=
  List.decidableBAll (fun c : Char => c.isAlphanum = true) s

theorem toNat_of_isAlphanum {c : Char} (h : c.isAlphanum = true) :
    48 ≤ c.toNat ∧ c.toNat ≤ 122 := by
  have hrange : ∀ low high : UInt32, low ≤ c.val → c.val ≤ high →
      low.toNat ≤ c.toNat ∧ c.toNat ≤ high.toNat :=
    fun _ _ hlow hhigh => ⟨UInt32.le_iff_toNat_le.1 hlow, UInt32.le_iff_toNat_le.1 hhigh⟩
  rcases Bool.or_eq_true_iff.1 h with hletter | hdigit
  · rcases Bool.or_eq_true_iff.1 hletter with hupper | hlower
    · obtain ⟨hlow, hhigh⟩ := of_decide_eq_true hupper
      have hbounds : 65 ≤ c.toNat ∧ c.toNat ≤ 90 := hrange 65 90 hlow hhigh
      omega
    · obtain ⟨hlow, hhigh⟩ := Bool.and_eq_true_iff.1 hlower
      have hbounds : 97 ≤ c.toNat ∧ c.toNat ≤ 122 :=
        hrange 97 122 (of_decide_eq_true hlow) (of_decide_eq_true hhigh)
      omega
  · obtain ⟨hlow, hhigh⟩ := Bool.and_eq_true_iff.1 hdigit
    have hbounds : 48 ≤ c.toNat ∧ c.toNat ≤ 57 :=
      hrange 48 57 (of_decide_eq_true hlow) (of_decide_eq_true hhigh)
    omega

theorem isBlank_of_isAlphanum {c : Char} (h : c.isAlphanum = true) : isBlank c = false := by
  obtain ⟨hlow, hhigh⟩ := toNat_of_isAlphanum h
  simp only [isBlank, Bool.or_eq_false_iff, Bool.and_eq_false_iff, decide_eq_false_iff_not,
    beq_eq_false_iff_ne]
  omega

/-- The numeral of a number is a word. -/
theorem isWord_ofNat (n : Nat) : IsWord (Text.ofNat n) := fun _ hc =>
  Bool.or_eq_true_iff.2 (.inr (Nat.isDigit_of_mem_toDigits (by decide) (by decide) hc))

/-- A word does not hold any other character. -/
theorem IsWord.notMem {s : Text} (hs : IsWord s) {c : Char} (hc : c.isAlphanum = false) : c ∉ s :=
  fun hmem => Bool.false_ne_true (hc.symm.trans (hs c hmem))

/-- A predicate that only other characters satisfy holds nowhere in a word. -/
theorem IsWord.forall_eq_false {s : Text} (hs : IsWord s) {c : Char} (hc : c.isAlphanum = false) :
    ∀ d ∈ s, (d == c) = false := by
  intro d hd
  rw [beq_eq_false_iff_ne]
  rintro rfl
  exact hs.notMem hc hd

end Docpress.Text
