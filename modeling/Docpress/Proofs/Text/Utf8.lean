import Docpress.Text.Utf8
import Mathlib.Tactic.SplitIfs
/-!
Characters and their numbers. What UTF-8 writes is read again.
-/

namespace Docpress

namespace Text

/-- A number of an ASCII character below the bound stands for one with the property. -/
theorem forall_of_toNat_lt {bound : Nat} {P : Char → Prop} (h : ∀ n < bound, P (Char.ofNat n))
    {c : Char} (hc : c.toNat < bound) : P c := by
  have hP := h c.toNat hc
  rwa [Char.ofNat_toNat] at hP

/-- A property of every character of a text is checked for one after another. -/
theorem forall_of_all {s : Text} {P : Char → Prop} [DecidablePred P]
    (h : (s.all fun c => decide (P c)) = true) : ∀ c ∈ s, P c :=
  fun c hc => of_decide_eq_true (List.all_eq_true.1 h c hc)

theorem toNat_ofNat {n : Nat} (h : n < 0xD800 ∨ (0xDFFF < n ∧ n < 0x110000)) :
    (Char.ofNat n).toNat = n := by
  rw [Char.ofNat, dif_pos h]
  rfl

/-! ### Line ends -/

theorem mem_unifyLineEnds {s : Text} {c : Char} (h : c ∈ unifyLineEnds s) :
    c = '\n' ∨ (c ∈ s ∧ c ≠ '\r') := by
  fun_induction unifyLineEnds s with
  | case1 => cases h
  | case2 s ih =>
    rcases List.mem_cons.1 h with rfl | h
    · exact .inl rfl
    · exact (ih h).imp_right (And.imp_left fun h => by simp [h])
  | case3 d s _ ih =>
    rcases List.mem_cons.1 h with heq | h
    · split at heq
      · exact .inl heq
      · rename_i hd
        subst heq
        exact .inr ⟨List.mem_cons_self, by simpa using hd⟩
    · exact (ih h).imp_right (And.imp_left (List.mem_cons_of_mem _))

/-- Line ends within a part do not depend on what follows, unless that begins with a line feed. -/
theorem unifyLineEnds_append (s : Text) {t : Text} (ht : ∀ c ∈ t.head?, c ≠ '\n') :
    unifyLineEnds (s ++ t) = unifyLineEnds s ++ unifyLineEnds t := by
  fun_induction unifyLineEnds s with
  | case1 => rfl
  | case2 s ih => exact congrArg _ ih
  | case3 d s hd ih =>
    rw [List.cons_append, unifyLineEnds, ih]
    · rfl
    · intro u hcarriage hline
      cases s with
      | nil => exact ht '\n' (by rw [← List.nil_append t, hline]; rfl) rfl
      | cons e s =>
        obtain ⟨rfl, -⟩ := List.cons.inj hline
        exact hd s hcarriage rfl

/-- What holds no carriage return stays as it is. -/
theorem unifyLineEnds_of_notMem {s : Text} (h : '\r' ∉ s) (t : Text) :
    unifyLineEnds (s ++ t) = s ++ unifyLineEnds t := by
  induction s with
  | nil => rfl
  | cons c s ih =>
    rw [List.mem_cons, not_or] at h
    rw [List.cons_append, unifyLineEnds, ih h.2, if_neg (by simpa using Ne.symm h.1)]
    · rfl
    · exact fun _ heq => absurd heq.symm h.1

end Text

namespace Utf8

section Bytes

variable {a b c d : Nat} (s : List Nat)

theorem decodeChar_two (ha : 0xC2 ≤ a ∧ a < 0xE0) (hb : isSecond a b = true) :
    decodeChar (a :: b :: s) = .ok (Char.ofNat ((a - 0xC0) * 64 + (b - 0x80)), s) := by
  simp only [decodeChar]
  rw [if_neg (by omega), if_neg (by simp; omega)]
  simp only [hb, Bool.not_true, Bool.false_eq_true, if_false]
  rw [if_pos ha.2]

theorem decodeChar_three (ha : 0xE0 ≤ a ∧ a < 0xF0) (hb : isSecond a b = true)
    (hc : isContinuation c = true) :
    decodeChar (a :: b :: c :: s) =
      .ok (Char.ofNat ((a - 0xE0) * 4096 + (b - 0x80) * 64 + (c - 0x80)), s) := by
  simp only [decodeChar]
  rw [if_neg (by omega), if_neg (by simp; omega)]
  simp only [hb, hc, Bool.not_true, Bool.false_eq_true, if_false]
  rw [if_neg (by omega), if_pos ha.2]

theorem decodeChar_four (ha : 0xF0 ≤ a ∧ a < 0xF5) (hb : isSecond a b = true)
    (hc : isContinuation c = true) (hd : isContinuation d = true) :
    decodeChar (a :: b :: c :: d :: s) =
      .ok (Char.ofNat
        ((a - 0xF0) * 262144 + (b - 0x80) * 4096 + (c - 0x80) * 64 + (d - 0x80)), s) := by
  simp only [decodeChar]
  rw [if_neg (by omega), if_neg (by simp; omega)]
  simp only [hb, hc, hd, Bool.not_true, Bool.false_eq_true, if_false]
  rw [if_neg (by omega), if_neg (by omega)]

end Bytes

/-- The last bits of a number make a continuation byte. -/
theorem isContinuation_mod (n : Nat) : isContinuation (0x80 + n % 64) = true := by
  simp only [isContinuation, Bool.and_eq_true, decide_eq_true_eq]
  omega

/-- What may follow the first byte is told by the number. -/
theorem isSecond_iff {lead b : Nat} : isSecond lead b = true ↔
    (0x80 ≤ b ∧ b < 0xC0) ∧ (lead = 0xE0 → 0xA0 ≤ b) ∧ (lead = 0xED → b < 0xA0) ∧
      (lead = 0xF0 → 0x90 ≤ b) ∧ (lead = 0xF4 → b < 0x90) := by
  simp only [isSecond, isContinuation, beq_iff_eq]
  split_ifs <;> simp only [Bool.and_eq_true, decide_eq_true_eq] <;> omega

/-- The bytes of a character are read as that character. -/
theorem decodeChar_encodeChar (c : Char) (rest : List Nat) :
    decodeChar (encodeChar c ++ rest) = .ok (c, rest) := by
  have hvalid : c.toNat < 0xD800 ∨ (0xDFFF < c.toNat ∧ c.toNat < 0x110000) := c.valid
  have hread : ∀ {n : Nat}, n = c.toNat → (.ok (Char.ofNat n, rest) : Except (Fault × Nat) _) =
      .ok (c, rest) := by
    rintro n rfl
    rw [Char.ofNat_toNat]
  unfold encodeChar
  dsimp only
  split
  · rename_i hone
    simp only [List.singleton_append, decodeChar, if_pos hone]
    exact hread rfl
  split
  · rw [List.cons_append, List.singleton_append, decodeChar_two]
    · exact hread (by omega)
    · omega
    · rw [isSecond_iff]
      omega
  split
  · rw [List.cons_append, List.cons_append, List.singleton_append, decodeChar_three]
    · exact hread (by omega)
    · omega
    · rw [isSecond_iff]
      omega
    · exact isContinuation_mod _
  · rw [List.cons_append, List.cons_append, List.cons_append, List.singleton_append,
      decodeChar_four]
    · exact hread (by omega)
    · omega
    · rw [isSecond_iff]
      omega
    · exact isContinuation_mod _
    · exact isContinuation_mod _

theorem encodeChar_length_pos (c : Char) : 0 < (encodeChar c).length := by
  unfold encodeChar
  dsimp only
  split_ifs <;> simp

/-- The bytes of a text are read as that text. -/
theorem decode_encode (s : Text) : decode (encode s) = .ok s := by
  have hfrom : ∀ (start fuel : Nat), (encode s).length ≤ fuel →
      decodeFrom start fuel (encode s) = .ok s := by
    induction s with
    | nil => exact fun _ fuel _ => by cases fuel <;> rfl
    | cons c s ih =>
      intro start fuel hfuel
      have hpos := encodeChar_length_pos c
      have hlength : (encode (c :: s)).length = (encodeChar c).length + (encode s).length :=
        List.length_append
      obtain ⟨fuel, rfl⟩ : ∃ n, fuel = n + 1 := ⟨fuel - 1, by omega⟩
      have hread := decodeChar_encodeChar c (encode s)
      obtain ⟨b, more, hbytes⟩ := List.exists_cons_of_length_pos hpos
      rw [encode, List.flatMap_cons, ← encode]
      rw [hbytes, List.cons_append] at hread ⊢
      rw [decodeFrom, hread]
      simp only [ih _ fuel (by omega)]
      rfl
  exact hfrom 0 _ (Nat.le_refl _)

theorem encode_ne_nil {s : Text} (hs : s ≠ []) : encode s ≠ [] := by
  intro hnil
  have hread := decode_encode s
  rw [hnil] at hread
  exact hs (Except.ok.inj hread).symm

end Utf8

end Docpress
