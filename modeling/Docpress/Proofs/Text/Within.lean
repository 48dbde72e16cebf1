import Docpress.Proofs.Text.Substitute
import Docpress.Proofs.Text.Words
/-!
Texts whose characters all satisfy a predicate, and the operations that keep them so.
-/

namespace Docpress.Text

/-- Every character of a text satisfies `p`. -/
def Within (p : Char → Prop) (s : Text) : Prop :=
  ∀ c ∈ s, p c

variable {p : Char → Prop} {s t : Text}

theorem Within.nil : Within p [] := by
  intro c hc
  cases hc

theorem within_ne_iff {c : Char} : Within (· ≠ c) s ↔ c ∉ s :=
  ⟨fun hs hc => hs c hc rfl, fun hs _ hd heq => hs (heq ▸ hd)⟩

theorem within_cons {c : Char} : Within p (c :: s) ↔ p c ∧ Within p s :=
  List.forall_mem_cons

theorem Within.append (hs : Within p s) (ht : Within p t) : Within p (s ++ t) := by
  intro c hc
  obtain hc | hc := List.mem_append.1 hc
  · exact hs c hc
  · exact ht c hc

theorem Within.replicate {c : Char} (hc : p c) (n : Nat) : Within p (List.replicate n c) := by
  intro d hd
  rwa [List.eq_of_mem_replicate hd]

theorem Within.of_subset (hs : Within p s) (h : t ⊆ s) : Within p t :=
  fun c hc => hs c (h hc)

theorem Within.take (hs : Within p s) (n : Nat) : Within p (s.take n) :=
  hs.of_subset (List.take_subset n s)

theorem Within.drop (hs : Within p s) (n : Nat) : Within p (s.drop n) :=
  hs.of_subset (List.drop_subset n s)

theorem Within.trimStart (hs : Within p s) (q : Char → Bool) : Within p (trimStart q s) :=
  hs.of_subset (List.dropWhile_suffix q).subset

theorem Within.trimEnd (hs : Within p s) (q : Char → Bool) : Within p (trimEnd q s) := by
  intro c hc
  have hmem := (List.dropWhile_suffix q).subset (List.mem_reverse.1 hc)
  exact hs c (List.mem_reverse.1 hmem)

theorem Within.trim (hs : Within p s) (q : Char → Bool) : Within p (trim q s) :=
  (hs.trimStart q).trimEnd q

theorem Within.splitBy (hs : Within p s) (q : Char → Bool) :
    ∀ piece ∈ splitBy q s, Within p piece := by
  induction s with
  | nil =>
    intro piece hpiece
    rw [List.mem_singleton.1 hpiece]
    exact .nil
  | cons c s ih =>
    obtain ⟨hc, hs⟩ := within_cons.1 hs
    have ih := ih hs
    cases hcut : q c with
    | true =>
      rw [splitBy_cons_of_pos hcut]
      exact List.forall_mem_cons.2 ⟨.nil, ih⟩
    | false =>
      obtain ⟨first, rest, hsplit, hcons⟩ := splitBy_cons_of_not hcut s
      rw [hsplit] at ih
      obtain ⟨hfirst, hrest⟩ := List.forall_mem_cons.1 ih
      rw [hcons]
      exact List.forall_mem_cons.2 ⟨within_cons.2 ⟨hc, hfirst⟩, hrest⟩

/-- What holds of the replacements in a text within `p`, and passes from what follows to the whole,
    holds of the outcome. -/
theorem Within.substitute_of {P : Text → Prop} {find : Text → Option (Text × Nat)} (nil : P [])
    (cons : ∀ {c s}, p c → P s → P (c :: s)) (append : ∀ {s t}, P s → P t → P (s ++ t))
    (hfind : ∀ s new more, Within p s → find s = some (new, more) → P new)
    (hs : Within p s) : P (Text.substitute find s) := by
  refine substitute_induction (motive := fun s t => Within p s → P t) (fun _ => nil)
    (fun c s _ ih hs => ?_) (fun c s new more hclaim ih hs => ?_) s hs
  · obtain ⟨hc, hrest⟩ := within_cons.1 hs
    exact cons hc (ih hrest)
  · exact append (hfind _ new more hs hclaim) (ih ((within_cons.1 hs).2.drop more))

/-- Replacements within `p` keep a text within it. -/
theorem Within.substitute {find : Text → Option (Text × Nat)}
    (hfind : ∀ s new more, Within p s → find s = some (new, more) → Within p new)
    (hs : Within p s) : Within p (substitute find s) :=
  hs.substitute_of .nil (fun hc hs => within_cons.2 ⟨hc, hs⟩) .append hfind

/-! ### Code points -/

/-- The code of a character is no half of a surrogate pair. -/
@[simp] theorem isSurrogate_toNat (c : Char) : isSurrogate c.toNat = false := by
  have hvalid : c.toNat < 0xD800 ∨ (0xDFFF < c.toNat ∧ c.toNat < 0x110000) := c.valid
  simp only [isSurrogate, Bool.and_eq_false_iff, decide_eq_false_iff_not]
  omega

/-- The code points of a text give the text. -/
@[simp] theorem ofCodes_map_toNat (s : Text) : ofCodes (s.map Char.toNat) = s := by
  simp [ofCodes, List.map_map, Function.comp_def]

@[simp] theorem any_isSurrogate_map_toNat (s : Text) :
    (s.map Char.toNat).any isSurrogate = false := by
  simp

/-- A code point that is inserted adds its character, or the replacement character. -/
theorem ofCodes_insert_within {p : Char → Prop} {codes : List Nat} (hcodes : Within p (ofCodes codes))
    {code : Nat} (hreplacement : isSurrogate code = true → p (Char.ofNat 0xFFFD))
    (hcode : isSurrogate code = false → p (Char.ofNat code)) (n : Nat) :
    Within p (ofCodes (codes.take n ++ code :: codes.drop n)) := by
  have hchar : p (Char.ofNat (if isSurrogate code then 0xFFFD else code)) := by
    cases hsurrogate : isSurrogate code with
    | true => exact hreplacement hsurrogate
    | false => exact hcode hsurrogate
  have hparts : ofCodes (codes.take n ++ code :: codes.drop n) = (ofCodes codes).take n ++
      Char.ofNat (if isSurrogate code then 0xFFFD else code) :: (ofCodes codes).drop n := by
    simp [ofCodes]
  rw [hparts]
  exact (hcodes.take n).append (within_cons.2 ⟨hchar, hcodes.drop n⟩)

end Docpress.Text
