import Docpress.Proofs.InlineTag.Guard
import Docpress.Proofs.InlineTag.Naturality
/-!
Which underscores are guarded: exactly those that lie in a tag and have no backslash before them,
where the place of an underscore tells by itself whether it lies in a tag. So nothing is left to be
guarded a second time.
-/

namespace Docpress.InlineTag

open Text

/-- What opens a tag stands before the place, and all from there to the character at the place may be
    in a tag's body. -/
def IsOpenAt (s : Text) (k : Nat) : Prop :=
  ∃ i, i + 2 ≤ k ∧ s.extract i (i + 2) = opening ∧ ∀ c ∈ s.extract (i + 2) (k + 1), isBody c = true

/-- What closes a tag stands after the place, and all from the place to there may be in a tag's
    body. -/
def IsClosedAt (s : Text) (k : Nat) : Prop :=
  ∃ j, k < j ∧ s[j]? = some '}' ∧ ∀ c ∈ s.extract k j, isBody c = true

instance (s : Text) (k : Nat) : Decidable (IsOpenAt s k) :=
  have (i : Nat) : Decidable (∀ c ∈ s.extract (i + 2) (k + 1), isBody c = true) :=
    List.decidableBAll _ _
  decidable_of_iff (∃ i ∈ List.range k, i + 2 ≤ k ∧ s.extract i (i + 2) = opening ∧
      ∀ c ∈ s.extract (i + 2) (k + 1), isBody c = true)
    (exists_congr fun _ => and_iff_right_of_imp fun h => List.mem_range.2 (by omega))

instance (s : Text) (k : Nat) : Decidable (IsClosedAt s k) :=
  have (j : Nat) : Decidable (∀ c ∈ s.extract k j, isBody c = true) := List.decidableBAll _ _
  decidable_of_iff (∃ j ∈ List.range s.length, k < j ∧ s[j]? = some '}' ∧
      ∀ c ∈ s.extract k j, isBody c = true)
    (exists_congr fun _ => and_iff_right_of_imp fun h =>
      List.mem_range.2 (List.getElem?_eq_some_iff.1 h.2.1).1)

/-- What is written for the character at a place of a text: an underscore that lies in a tag gets a
    backslash, unless there is one before it. -/
def guardAt (s : Text) : Char × Nat → Text
  | (c, k) =>
    if c = '_' ∧ (IsOpenAt s k ∧ IsClosedAt s k) ∧ s[k - 1]? ≠ some '\\' then ['\\', c] else [c]

variable {before after body rest s : Text} {c : Char}

/-! ### Places -/

/-- What lies before the end of the first part of a text is a part of it. -/
theorem extract_append_left {t : Text} {i j : Nat} (h : j ≤ s.length) :
    (s ++ t).extract i j = s.extract i j := by
  rw [List.extract_eq_take_drop, List.extract_eq_take_drop, ← List.drop_take, ← List.drop_take,
    List.take_append_of_le_length h]

theorem extract_length (s : Text) (i : Nat) : s.extract i s.length = s.drop i := by
  rw [List.extract_eq_take_drop, ← List.drop_take, List.take_length]

theorem opens_iff_extract : Opens before ↔ ∃ i, i + 2 ≤ before.length ∧
    before.extract i (i + 2) = opening ∧ ∀ c ∈ before.drop (i + 2), isBody c = true := by
  constructor
  · rintro ⟨start, body, rfl, hbody⟩
    refine ⟨start.length, by simp, by simp [opening], ?_⟩
    rw [← List.drop_drop, List.drop_left]
    exact hbody
  · rintro ⟨i, -, hopening, hbody⟩
    refine ⟨before.take i, before.drop (i + 2), ?_, hbody⟩
    have hopened : before.drop i = opening ++ before.drop (i + 2) := by
      rw [List.extract_eq_take_drop, Nat.add_sub_cancel_left] at hopening
      rw [← hopening, ← List.drop_drop, List.take_append_drop]
    calc before = before.take i ++ before.drop i := (List.take_append_drop i before).symm
      _ = before.take i ++ '{' :: '@' :: before.drop (i + 2) := by rw [hopened]; rfl

theorem closes_iff_getElem? : Closes after ↔ ∃ j, after[j]? = some '}' ∧
    ∀ c ∈ after.take j, isBody c = true := by
  constructor
  · rintro ⟨body, rest, rfl, hbody⟩
    exact ⟨body.length, by simp, by simpa using hbody⟩
  · rintro ⟨j, hclose, hbody⟩
    obtain ⟨hj, hclose⟩ := List.getElem?_eq_some_iff.1 hclose
    refine ⟨after.take j, after.drop (j + 1), ?_, hbody⟩
    rw [← hclose, ← List.drop_eq_getElem_cons hj, List.take_append_drop]

/-- A tag is open at a character that its body may hold if one is open before it. -/
theorem isOpenAt_append_cons (hc : isBody c = true) :
    IsOpenAt (before ++ c :: after) before.length ↔ Opens before := by
  rw [opens_iff_extract]
  refine exists_congr fun i => and_congr_right fun hi => and_congr ?_ ?_
  · rw [extract_append_left hi]
  · have hlength : before.length + 1 = (before ++ [c]).length := by
      rw [List.length_append, List.length_singleton]
    rw [List.append_cons, hlength, extract_append_left le_rfl, extract_length,
      List.drop_append_of_le_length hi, List.forall_mem_append, List.forall_mem_singleton,
      and_iff_left hc]

/-- A tag is closed at a character that its body may hold if it is closed after it. -/
theorem isClosedAt_append_cons (hc : isBody c = true) :
    IsClosedAt (before ++ c :: after) before.length ↔ Closes after := by
  have hplace (n : Nat) : (before ++ c :: after)[before.length + n + 1]? = after[n]? := by
    rw [Nat.add_assoc, List.getElem?_append_right (by omega), Nat.add_sub_cancel_left,
      List.getElem?_cons_succ]
  have hpart (n : Nat) : (before ++ c :: after).extract before.length (before.length + n + 1) =
      c :: after.take n := by
    rw [List.extract_eq_take_drop, List.drop_left, Nat.add_assoc, Nat.add_sub_cancel_left,
      List.take_succ_cons]
  rw [closes_iff_getElem?]
  constructor
  · rintro ⟨j, hj, hclose, hbody⟩
    obtain ⟨n, rfl⟩ := Nat.exists_eq_add_of_lt hj
    rw [hplace] at hclose
    rw [hpart] at hbody
    exact ⟨n, hclose, (List.forall_mem_cons.1 hbody).2⟩
  · rintro ⟨n, hclose, hbody⟩
    refine ⟨before.length + n + 1, by omega, (hplace n).trans hclose, ?_⟩
    rw [hpart]
    exact List.forall_mem_cons.2 ⟨hc, hbody⟩

/-- Whether an underscore gets a backslash is told by what stands before it and after it. -/
theorem bareAt_append_cons :
    (IsOpenAt (before ++ '_' :: after) before.length ∧
        IsClosedAt (before ++ '_' :: after) before.length) ∧
      (before ++ '_' :: after)[before.length - 1]? ≠ some '\\' ↔
    Encloses before after ∧ before.getLast? ≠ some '\\' := by
  rw [isOpenAt_append_cons rfl, isClosedAt_append_cons rfl]
  refine and_congr_right fun hinside => ?_
  have hpos : 0 < before.length :=
    List.length_pos_of_ne_nil fun hnil => not_opens_nil (hnil ▸ hinside.1)
  rw [List.getElem?_append_left (by omega), List.getLast?_eq_getElem?]

theorem guardAt_of_encloses (h : Encloses before after) (hlast : before.getLast? ≠ some '\\') :
    guardAt (before ++ '_' :: after) ('_', before.length) = ['\\', '_'] :=
  if_pos ⟨rfl, bareAt_append_cons.2 ⟨h, hlast⟩⟩

theorem guardAt_of_not (h : c = '_' → Encloses before after → before.getLast? = some '\\') :
    guardAt (before ++ c :: after) (c, before.length) = [c] := by
  refine if_neg fun ⟨hc, hbare⟩ => ?_
  subst hc
  obtain ⟨hinside, hlast⟩ := bareAt_append_cons.1 hbare
  exact hlast (h rfl hinside)

/-! ### From place to place -/

/-- What is written for the part of a text that comes after `before`. -/
def guardFrom (before s : Text) : Text :=
  (s.zipIdx before.length).flatMap (guardAt (before ++ s))

theorem guardFrom_cons (before : Text) (c : Char) (s : Text) : guardFrom before (c :: s) =
    guardAt (before ++ c :: s) (c, before.length) ++ guardFrom (before ++ [c]) s :=
  writeFrom_cons guardAt before c s

/-- What is no underscore is kept. -/
theorem guardFrom_append (hbody : '_' ∉ body) (before s : Text) :
    guardFrom before (body ++ s) = body ++ guardFrom (before ++ body) s := by
  refine writeFrom_append_of_kept fun lead c tail hpart => guardAt_of_not fun hc => ?_
  subst hc hpart
  exact absurd (List.mem_append_right lead List.mem_cons_self) hbody

/-- In a body each underscore is guarded, as the last character before it says. -/
theorem guardFrom_body (hopens : Opens before) (hbody : ∀ c ∈ body, isBody c = true) (rest : Text) :
    guardFrom before (body ++ '}' :: rest) =
      guardUnderscores (before.getLast? == some '\\') body ++
        guardFrom (before ++ body) ('}' :: rest) := by
  induction body generalizing before with
  | nil => rw [List.nil_append, List.append_nil]; rfl
  | cons c body ih =>
    obtain ⟨hc, hbody⟩ := List.forall_mem_cons.1 hbody
    have hopens' : Opens (before ++ [c]) := hopens.append (List.forall_mem_singleton.2 hc)
    have hlast : ((before ++ [c]).getLast? == some '\\') = (c == '\\') := by
      rw [List.getLast?_concat]
      rfl
    have hinside : Encloses before (body ++ '}' :: rest) := ⟨hopens, body, rest, rfl, hbody⟩
    rw [List.cons_append, guardFrom_cons, ih hopens' hbody, hlast, guardUnderscores,
      List.append_assoc, List.singleton_append]
    split
    · rename_i hbare
      rw [Bool.and_eq_true, beq_iff_eq, Bool.not_eq_true', beq_eq_false_iff_ne] at hbare
      obtain ⟨rfl, hbare⟩ := hbare
      rw [guardAt_of_encloses hinside hbare]
      rfl
    · rename_i hkept
      rw [guardAt_of_not fun hunderscore _ => ?_]
      · rfl
      · by_contra hbare
        exact hkept (by simp [hunderscore, hbare])

/-- What is neither an underscore nor a backslash separates what is guarded. -/
theorem guardUnderscores_append_cons (hunderscore : c ≠ '_') (hbackslash : c ≠ '\\')
    (guarded : Bool) (s t : Text) : guardUnderscores guarded (s ++ c :: t) =
      guardUnderscores guarded s ++ c :: guardUnderscores false t := by
  induction s generalizing guarded with
  | nil =>
    have hguard : (c == '\\') = false := beq_eq_false_iff_ne.2 hbackslash
    simp [guardUnderscores, hunderscore, hguard]
  | cons d s ih =>
    rw [List.cons_append, guardUnderscores, guardUnderscores, ih, ih]
    split <;> rfl

/-- Guarding spares whatever is neither an underscore nor a backslash. -/
theorem spares_guardUnderscores {p : Char → Bool} (hunderscore : p '_' = false)
    (hbackslash : p '\\' = false) : Spares p (guardUnderscores false) := by
  have hne {c : Char} (hc : p c = true) : c ≠ '_' ∧ c ≠ '\\' :=
    ⟨fun h => by simp [h, hunderscore] at hc, fun h => by simp [h, hbackslash] at hc⟩
  refine ⟨rfl, fun {s} hs => ?_, fun hc s t => ?_, fun {c} hc {s} hmem => ?_⟩
  · obtain ⟨c, s, rfl⟩ := List.exists_cons_of_ne_nil hs
    rw [guardUnderscores]
    split <;> exact List.cons_ne_nil _ _
  · exact guardUnderscores_append_cons (hne hc).1 (hne hc).2 false s t
  · by_contra hnot
    exact within_ne_iff.1 (guardUnderscores_within (hne hc).2.symm false (within_ne_iff.2 hnot))
      hmem

theorem guardFrom_of_outside (h : Outside before s) :
    guardFrom before s = escapeUnderscores s := by
  induction s using tag_induction generalizing before with
  | nil => rfl
  | char c s hlead ih =>
    rw [escapeUnderscores, mapTags_cons_of_none hlead, guardFrom_cons, guardAt_of_not,
      ih (h.step hlead)]
    · rfl
    · rintro rfl ⟨hopens, hcloses⟩
      exact absurd hopens (h.1 (hcloses.cons rfl) (by simp))
  | tag body rest hbody ih =>
    -- The closing brace leaves the tag, so what comes after it is outside again.
    have hopens : Opens (before ++ opening) := ⟨before, [], rfl, List.forall_mem_nil _⟩
    have hlast : ((before ++ opening).getLast? == some '\\') = false := by
      rw [List.getLast?_append]
      rfl
    have hrest : guardFrom (before ++ opening ++ body ++ ['}']) rest = escapeUnderscores rest :=
      ih (.afterBrace _ _)
    calc guardFrom before (tagOf body ++ rest)
        = guardFrom before (opening ++ (body ++ '}' :: rest)) := by simp [tagOf]
      _ = opening ++ (guardUnderscores false body ++ '}' :: escapeUnderscores rest) := by
        rw [guardFrom_append (by decide), guardFrom_body hopens hbody.2, hlast,
          ← List.singleton_append, guardFrom_append (by decide), hrest]
        rfl
      _ = guardUnderscores false (tagOf body) ++ escapeUnderscores rest := by
        rw [spares_tagOf (spares_guardUnderscores rfl rfl)]
        simp [tagOf]
      _ = escapeUnderscores (tagOf body ++ rest) := by
        rw [escapeUnderscores, escapeUnderscores, mapTags_tagOf_append hbody]

/-! ### Twice -/

theorem guardUnderscores_guardUnderscores (guarded : Bool) (s : Text) :
    guardUnderscores guarded (guardUnderscores guarded s) = guardUnderscores guarded s := by
  induction s generalizing guarded with
  | nil => rfl
  | cons c s ih =>
    rw [guardUnderscores]
    split
    · simp [guardUnderscores, ih]
    · rename_i hkept
      rw [guardUnderscores, if_neg hkept, ih]

/-- An underscore gets a backslash exactly if it lies in a tag and no backslash is before it, nothing
    else changes, and nothing is left to be guarded. -/
theorem escapeUnderscores_eq_flatMap (s : Text) :
    escapeUnderscores s = s.zipIdx.flatMap (guardAt s) ∧
      escapeUnderscores (escapeUnderscores s) = escapeUnderscores s := by
  constructor
  · exact (guardFrom_of_outside (.start s)).symm
  · rw [escapeUnderscores, escapeUnderscores, mapTags_mapTags _ (spares_guardUnderscores rfl rfl)]
    exact congrArg (mapTags · s) (funext (guardUnderscores_guardUnderscores false))

-- An empty body makes no tag, a tag ends at its first closing brace, and none goes over a line end.
example : escapeUnderscores "\x7b@\x7da_b\x7d \x7b@link \x7b@a_b\\_c__d\x7d e_f\x7d\n\x7b@g_h\n\x7d".toList =
    "\x7b@\x7da_b\x7d \x7b@link \x7b@a\\_b\\_c\\_\\_d\x7d e_f\x7d\n\x7b@g_h\n\x7d".toList := by decide

end Docpress.InlineTag
