import Docpress.Proofs.Text.Substitute
/-!
Parts of a text. A character that a part does not hold divides a text: no occurrence of the part
lies across it, so searches and replacements go through both sides apart.
-/

namespace Docpress.Text

/-- Nothing is different if a character follows that is not in the lead. -/
theorem startsWith_append_cons {lead : Text} {c : Char} (hc : c ∉ lead) (s t : Text) :
    startsWith (s ++ c :: t) lead = startsWith s lead := by
  induction lead generalizing s with
  | nil => rfl
  | cons p lead ih =>
    obtain ⟨hp, hlead⟩ := not_or.1 (mt List.mem_cons.2 hc)
    cases s with
    | nil =>
      have hne : (p == c) = false := by simpa using Ne.symm hp
      simp [startsWith, dropLead?, hne]
    | cons d s =>
      by_cases hd : p = d
      · simpa [startsWith, dropLead?, hd] using ih hlead s
      · simp [startsWith, dropLead?, hd]

/-- A text that does not begin with the first character of the lead. -/
theorem startsWith_cons_of_ne {p c : Char} (h : c ≠ p) (lead s : Text) :
    startsWith (c :: s) (p :: lead) = false := by
  simp [startsWith, dropLead?, Ne.symm h]

theorem hasPart_cons (part : Text) (c : Char) (s : Text) :
    hasPart part (c :: s) = (startsWith (c :: s) part || hasPart part s) := rfl

/-- A text without the first character of the part is not part of an occurrence. -/
theorem hasPart_append_of_notMem {p : Char} {part s : Text} (h : p ∉ s) (t : Text) :
    hasPart (p :: part) (s ++ t) = hasPart (p :: part) t := by
  induction s with
  | nil => rfl
  | cons c s ih =>
    obtain ⟨hc, hs⟩ := not_or.1 (mt List.mem_cons.2 h)
    rw [List.cons_append, hasPart_cons, startsWith_cons_of_ne (Ne.symm hc), ih hs, Bool.false_or]

theorem hasPart_of_notMem {p : Char} {part s : Text} (h : p ∉ s) :
    hasPart (p :: part) s = false := by
  rw [← List.append_nil s, hasPart_append_of_notMem h]
  rfl

/-- A character that is not in the part divides the text. -/
theorem hasPart_append_cons {p c : Char} {part : Text} (hc : c ∉ p :: part) (s t : Text) :
    hasPart (p :: part) (s ++ c :: t) = (hasPart (p :: part) s || hasPart (p :: part) t) := by
  induction s with
  | nil =>
    have hne := (not_or.1 (mt List.mem_cons.2 hc)).1
    rw [List.nil_append, hasPart_cons, startsWith_cons_of_ne hne]
    rfl
  | cons d s ih =>
    rw [List.cons_append, hasPart_cons, hasPart_cons, ih, ← List.cons_append,
      startsWith_append_cons hc, Bool.or_assoc]

/-- Lines that do not have a part are no part of an occurrence, if the part holds no line end. -/
theorem hasPart_lines_append {p : Char} {part : Text} (hpart : '\n' ∉ p :: part)
    {lines : List Text} (h : ∀ l ∈ lines, hasPart (p :: part) l = false) (t : Text) :
    hasPart (p :: part) (lines.flatMap (· ++ ['\n']) ++ t) = hasPart (p :: part) t := by
  induction lines with
  | nil => rfl
  | cons l lines ih =>
    obtain ⟨hl, hlines⟩ := List.forall_mem_cons.1 h
    rw [List.flatMap_cons, List.append_assoc, List.append_assoc, List.singleton_append,
      hasPart_append_cons hpart, hl, ih hlines, Bool.false_or]

/-- Nothing is replaced that does not occur. -/
theorem replaceAll_of_not_hasPart {old new s : Text} (h : hasPart old s = false) :
    replaceAll old new s = s := by
  induction s with
  | nil => rfl
  | cons c s ih =>
    rw [hasPart_cons, Bool.or_eq_false_iff] at h
    rw [replaceAll, substitute_cons_of_none (if_neg (by simp [h.1]))]
    exact congrArg (c :: ·) (ih h.2)

/-- Nothing is replaced in a text without the first character of what is. -/
theorem replaceAll_append_of_notMem {p : Char} {old new s : Text} (h : p ∉ s) (t : Text) :
    replaceAll (p :: old) new (s ++ t) = s ++ replaceAll (p :: old) new t := by
  induction s with
  | nil => rfl
  | cons c s ih =>
    obtain ⟨hc, hs⟩ := not_or.1 (mt List.mem_cons.2 h)
    rw [List.cons_append, replaceAll_cons_of_not, ih hs, List.cons_append]
    exact fun rest heq => hc (List.cons.inj heq).1.symm

/-! ### The first occurrence -/

theorem splitFirst?_eq_none {part s : Text} :
    splitFirst? part s = none ↔ hasPart part s = false := by
  induction s with
  | nil => cases part <;> simp [splitFirst?, hasPart]
  | cons c s ih =>
    rw [splitFirst?, hasPart_cons, Bool.or_eq_false_iff, ← ih, startsWith]
    cases dropLead? part (c :: s) <;> simp

/-- A part that is found stands between the two texts, and not in the first of them. -/
theorem splitFirst?_eq_some {p : Char} {part s before rest : Text}
    (h : splitFirst? (p :: part) s = some (before, rest)) :
    s = before ++ (p :: part ++ rest) ∧ hasPart (p :: part) before = false := by
  induction s generalizing before with
  | nil => cases h
  | cons c s ih =>
    cases hlead : dropLead? (p :: part) (c :: s) with
    | some found =>
      rw [splitFirst?, hlead] at h
      cases h
      have hs := dropLead?_eq_some.1 hlead
      exact ⟨hs, rfl⟩
    | none =>
      rw [splitFirst?, hlead] at h
      obtain ⟨⟨before, rest⟩, hsplit, heq⟩ := Option.map_eq_some_iff.1 h
      cases heq
      obtain ⟨rfl, hbefore⟩ := ih hsplit
      refine ⟨rfl, ?_⟩
      -- An occurrence at the start of the first text would have been found.
      have hnot : startsWith (c :: before) (p :: part) = false := by
        refine Bool.eq_false_iff.2 fun hstarts => ?_
        obtain ⟨more, hmore⟩ := startsWith_iff.1 hstarts
        rw [← List.cons_append, hmore, List.append_assoc, dropLead?_eq_some.2 rfl] at hlead
        cases hlead
      rw [hasPart_cons, hnot, hbefore]
      rfl

/-- Either there is nothing to replace, or the first occurrence is replaced and what stands on both
    sides of it is as it was. -/
theorem replaceFirst_cases (p : Char) (part new s : Text) :
    (hasPart (p :: part) s = false ∧ replaceFirst (p :: part) new s = s) ∨
      ∃ before rest, s = before ++ (p :: part ++ rest) ∧ hasPart (p :: part) before = false ∧
        replaceFirst (p :: part) new s = before ++ (new ++ rest) := by
  unfold replaceFirst
  cases hsplit : splitFirst? (p :: part) s with
  | none => exact .inl ⟨splitFirst?_eq_none.1 hsplit, rfl⟩
  | some found =>
    obtain ⟨before, rest⟩ := found
    obtain ⟨hs, hbefore⟩ := splitFirst?_eq_some hsplit
    exact .inr ⟨before, rest, hs, hbefore, List.append_assoc ..⟩

/-! ### Replacements that begin with one character -/

/-- What is claimed begins with the character `c`, and so does what is written for it. -/
def KeepsFirst (c : Char) (find : Text → Option (Text × Nat)) : Prop :=
  ∀ here new more, find here = some (new, more) →
    (∃ rest, here = c :: rest) ∧ ∃ rest, new = c :: rest

/-- What stands before the first claimed place is as it was. -/
theorem KeepsFirst.startsWith_of_substitute {c : Char} {find : Text → Option (Text × Nat)}
    (hfind : KeepsFirst c find) {lead s : Text} (hlead : c ∉ lead)
    (h : startsWith (substitute find s) lead = true) : startsWith s lead = true := by
  induction lead generalizing s with
  | nil => rfl
  | cons p lead ih =>
    obtain ⟨hp, hrest⟩ := not_or.1 (mt List.mem_cons.2 hlead)
    cases s with
    | nil => exact h
    | cons d s =>
      cases hclaim : find (d :: s) with
      | none =>
        rw [substitute_cons_of_none hclaim] at h
        by_cases hd : p = d
        · have hnext : startsWith (substitute find s) lead = true := by
            simpa [startsWith, dropLead?, hd] using h
          simpa [startsWith, dropLead?, hd] using ih hrest hnext
        · rw [startsWith_cons_of_ne (Ne.symm hd)] at h
          cases h
      | some found =>
        obtain ⟨new, more⟩ := found
        obtain ⟨-, rest, rfl⟩ := hfind _ new more hclaim
        rw [substitute_cons_of_some hclaim, List.cons_append, startsWith_cons_of_ne hp] at h
        cases h

/-- Characters that are taken from the start of a text come before any claimed place. -/
theorem KeepsFirst.dropWhile_substitute {c : Char} {find : Text → Option (Text × Nat)}
    (hfind : KeepsFirst c find) {p : Char → Bool} (hp : p c = false) (s : Text) :
    (substitute find s).dropWhile p = substitute find (s.dropWhile p) := by
  induction s with
  | nil => rfl
  | cons d s ih =>
    cases hclaim : find (d :: s) with
    | none =>
      rw [substitute_cons_of_none hclaim]
      by_cases hd : p d = true
      · rw [List.dropWhile_cons_of_pos hd, List.dropWhile_cons_of_pos hd, ih]
      · rw [List.dropWhile_cons_of_neg hd, List.dropWhile_cons_of_neg hd,
          substitute_cons_of_none hclaim]
    | some found =>
      obtain ⟨new, more⟩ := found
      obtain ⟨⟨here, hhere⟩, rest, rfl⟩ := hfind _ new more hclaim
      obtain rfl := (List.cons.inj hhere).1
      have hstop : ¬ p d = true := by simp [hp]
      rw [List.dropWhile_cons_of_neg hstop, substitute_cons_of_some hclaim, List.cons_append,
        List.dropWhile_cons_of_neg hstop]

/-! ### Replacements on both sides of a place -/

/-- A replacement that finds the same in a text whatever follows it goes through both apart. -/
theorem substitute_append {find : Text → Option (Text × Nat)} {t : Text}
    (hlocal : ∀ d s, find (d :: (s ++ t)) = find (d :: s))
    (hwithin : ∀ d s new more, find (d :: s) = some (new, more) → more ≤ s.length) (s : Text) :
    substitute find (s ++ t) = substitute find s ++ substitute find t := by
  refine substitute_induction
    (motive := fun s out => substitute find (s ++ t) = out ++ substitute find t) rfl
    (fun d s hclaim ih => ?_) (fun d s new more hclaim ih => ?_) s
  · rw [List.cons_append, substitute_cons_of_none ((hlocal d s).trans hclaim), ih, List.cons_append]
  · rw [List.cons_append, substitute_cons_of_some ((hlocal d s).trans hclaim),
      List.drop_append_of_le_length (hwithin d s new more hclaim), ih, List.append_assoc]

/-- A replacement that claims only what lies before a character goes through both sides of that
    character apart. -/
theorem substitute_append_cons {find : Text → Option (Text × Nat)} {c : Char}
    (hnone : ∀ t, find (c :: t) = none)
    (hlocal : ∀ d s t, find (d :: (s ++ c :: t)) = find (d :: s))
    (hwithin : ∀ d s new more, find (d :: s) = some (new, more) → more ≤ s.length) (s t : Text) :
    substitute find (s ++ c :: t) = substitute find s ++ c :: substitute find t := by
  rw [substitute_append (fun d s => hlocal d s t) hwithin, substitute_cons_of_none (hnone t)]

/-- What is claimed for an occurrence of a part lies within the text. -/
theorem length_le_of_startsWith {old s new out : Text} {c : Char} {more : Nat}
    (h : (if startsWith (c :: s) old then some (new, old.length - 1) else none) =
      some (out, more)) : more ≤ s.length := by
  split at h
  · rename_i hstarts
    obtain ⟨rest, hrest⟩ := startsWith_iff.1 hstarts
    obtain ⟨-, rfl⟩ := Prod.mk.inj (Option.some.inj h)
    have hlength := congrArg List.length hrest
    rw [List.length_cons, List.length_append] at hlength
    omega
  · cases h

/-- Occurrences are replaced on both sides of a character that they do not hold. -/
theorem replaceAll_append_cons {p c : Char} {old new : Text} (hc : c ∉ p :: old) (s t : Text) :
    replaceAll (p :: old) new (s ++ c :: t) =
      replaceAll (p :: old) new s ++ c :: replaceAll (p :: old) new t := by
  have hne : c ≠ p := (not_or.1 (mt List.mem_cons.2 hc)).1
  refine substitute_append_cons (fun t => ?_) (fun d s t => ?_)
    (fun d s out more h => length_le_of_startsWith h) s t
  · rw [startsWith_cons_of_ne hne]
    rfl
  · rw [← List.cons_append, startsWith_append_cons hc]

/-- An occurrence that begins with a character which is not in the rest of it overlaps with no
    other one, so it is replaced wherever it stands. -/
theorem replaceAll_append_append {p : Char} {old new : Text} (hp : p ∉ old) (s t : Text) :
    replaceAll (p :: old) new (s ++ (p :: old) ++ t) =
      replaceAll (p :: old) new s ++ new ++ replaceAll (p :: old) new t := by
  have hlocal : ∀ d s, startsWith (d :: (s ++ (p :: old ++ t))) (p :: old) =
      startsWith (d :: s) (p :: old) := by
    intro d s
    by_cases hd : p = d
    · simpa [startsWith, dropLead?, hd] using startsWith_append_cons hp s (old ++ t)
    · rw [startsWith_cons_of_ne (Ne.symm hd), startsWith_cons_of_ne (Ne.symm hd)]
  have hsplit : replaceAll (p :: old) new (s ++ (p :: old ++ t)) =
      replaceAll (p :: old) new s ++ replaceAll (p :: old) new (p :: old ++ t) :=
    substitute_append (fun d s => by rw [hlocal])
      (fun d s out more h => length_le_of_startsWith h) s
  rw [List.append_assoc, hsplit, replaceAll_append_self (List.cons_ne_nil _ _),
    List.append_assoc]

end Docpress.Text
