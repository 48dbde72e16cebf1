import Docpress.InlineTag
import Docpress.Proofs.Text.Substitute
/-!
Which quotes are decoded: exactly those that stand in a tag, between an opening brace with an at
sign before them and a closing brace after them, on the same line.
-/

namespace Docpress.InlineTag

/-- The entity of a double quote. -/
def quoteEntity : Text := "&quot;".toList

theorem quoteEntity_isBody : ∀ c ∈ quoteEntity, isBody c = true :=
  List.all_eq_true.1 (by decide)

/-- A tag is open at the end of a text. -/
def Opens (before : Text) : Prop :=
  ∃ start body, before = start ++ '{' :: '@' :: body ∧ ∀ c ∈ body, isBody c = true

/-- What is open before a text is closed in it. -/
def Closes (after : Text) : Prop :=
  ∃ body rest, after = body ++ '}' :: rest ∧ ∀ c ∈ body, isBody c = true

/-- A place lies in a tag, given what stands before it and after it. -/
def Encloses (before after : Text) : Prop :=
  Opens before ∧ Closes after

/-- What decoding makes of a text that stands after `before`: the entities of quotes that lie in a
    tag become quotes, and all else is kept. -/
inductive Decodes : (before source result : Text) → Prop where
  | nil {before} : Decodes before [] []
  | keep {before c s t}
      (hplain : ∀ after, c :: s = quoteEntity ++ after → ¬ Encloses before after)
      (hrest : Decodes (before ++ [c]) s t) : Decodes before (c :: s) (c :: t)
  | decode {before after t} (hinside : Encloses before after)
      (hrest : Decodes (before ++ quoteEntity) after t) :
      Decodes before (quoteEntity ++ after) ('"' :: t)

/-! ### Tags -/

theorem lead?_eq_some {s tag : Text} (h : lead? s = some tag) :
    ∃ body rest, body ≠ [] ∧ (∀ c ∈ body, isBody c = true) ∧
      tag = '{' :: '@' :: (body ++ ['}']) ∧ s = tag ++ rest := by
  unfold lead? at h
  split at h
  · rename_i s
    split at h
    · rename_i rest hrest
      dsimp only at h
      split at h
      · cases h
      · rename_i hbody
        simp only [Option.some.injEq] at h
        refine ⟨s.takeWhile isBody, rest, ?_, ?_, h.symm, ?_⟩
        · simpa using hbody
        · exact List.all_eq_true.1 List.all_takeWhile
        · have hs : s = s.takeWhile isBody ++ '}' :: rest := by
            rw [← hrest, List.takeWhile_append_dropWhile]
          rw [← h]
          refine (congrArg ('{' :: '@' :: ·) hs).trans ?_
          simp
    · cases h
  · cases h

/-- A brace with an at sign begins no tag only if nothing, or an empty body, is closed after it. -/
theorem head?_of_lead?_eq_none {s : Text} (h : lead? ('{' :: '@' :: s) = none) (hs : Closes s) :
    s.head? = some '}' := by
  obtain ⟨body, rest, rfl, hbody⟩ := hs
  have hstop : isBody '}' = false := rfl
  cases body with
  | nil => rfl
  | cons c body =>
    have hdrop : (c :: body ++ '}' :: rest).dropWhile isBody = '}' :: rest := by
      rw [List.dropWhile_append_of_pos hbody, List.dropWhile_cons_of_neg (by simp [hstop])]
    have htake : (c :: body ++ '}' :: rest).takeWhile isBody = c :: body := by
      rw [List.takeWhile_append_of_pos hbody, List.takeWhile_cons_of_neg (by simp [hstop]),
        List.append_nil]
    simp only [lead?, hdrop, htake, List.isEmpty_cons, Bool.false_eq_true, if_false] at h
    cases h

theorem mapTags_cons_of_none {f : Text → Text} {c : Char} {s : Text} (h : lead? (c :: s) = none) :
    mapTags f (c :: s) = c :: mapTags f s :=
  Text.substitute_cons_of_none (by rw [h]; rfl)

theorem mapTags_of_lead {f : Text → Text} {tag rest : Text} (h : lead? (tag ++ rest) = some tag) :
    mapTags f (tag ++ rest) = f tag ++ mapTags f rest := by
  obtain ⟨body, rest', -, -, rfl, -⟩ := lead?_eq_some h
  rw [mapTags, List.cons_append, Text.substitute_cons_of_some (by rw [← List.cons_append, h]; rfl),
    List.length_cons, Nat.add_sub_cancel, List.drop_left]
  rfl

/-! ### Inside and outside -/

theorem opens_append_singleton {before : Text} {c : Char} :
    Opens (before ++ [c]) ↔
      (Opens before ∧ isBody c = true) ∨ (c = '@' ∧ ∃ start, before = start ++ ['{']) := by
  constructor
  · rintro ⟨start, body, heq, hbody⟩
    obtain rfl | ⟨body, d, rfl⟩ := List.eq_nil_or_concat body
    · have heq : before ++ [c] = (start ++ ['{']) ++ ['@'] := by simpa using heq
      obtain ⟨hbefore, hc⟩ := List.append_inj' heq rfl
      exact .inr ⟨by simpa using hc, start, hbefore⟩
    · have heq : before ++ [c] = (start ++ '{' :: '@' :: body) ++ [d] := by simpa using heq
      obtain ⟨hbefore, hc⟩ := List.append_inj' heq rfl
      obtain rfl : c = d := by simpa using hc
      exact .inl ⟨⟨start, body, hbefore, fun x hx => hbody x (by simp [hx])⟩, hbody c (by simp)⟩
  · rintro (⟨⟨start, body, rfl, hbody⟩, hc⟩ | ⟨rfl, start, rfl⟩)
    · refine ⟨start, body ++ [c], by simp, ?_⟩
      intro x hx
      obtain hx | hx := List.mem_append.1 hx
      · exact hbody x hx
      · rwa [List.mem_singleton.1 hx]
    · exact ⟨start, [], by simp, by simp⟩

theorem Opens.append {before body : Text} (h : Opens before)
    (hbody : ∀ c ∈ body, isBody c = true) : Opens (before ++ body) := by
  obtain ⟨start, first, rfl, hfirst⟩ := h
  refine ⟨start, first ++ body, by simp, ?_⟩
  intro c hc
  obtain hc | hc := List.mem_append.1 hc
  · exact hfirst c hc
  · exact hbody c hc

theorem Closes.cons {c : Char} {s : Text} (hc : isBody c = true) (h : Closes s) :
    Closes (c :: s) := by
  obtain ⟨body, rest, rfl, hbody⟩ := h
  refine ⟨c :: body, rest, rfl, ?_⟩
  intro x hx
  obtain rfl | hx := List.mem_cons.1 hx
  · exact hc
  · exact hbody x hx

/-- No tag goes on from `before` into `after`: none is open that would be closed with a body that
    is not empty, and none begins with the brace before the place. -/
def Outside (before after : Text) : Prop :=
  (Closes after → after.head? ≠ some '}' → ¬ Opens before) ∧
    ∀ start rest, before = start ++ ['{'] → after = '@' :: rest → Closes rest →
      rest.head? = some '}'

theorem Outside.start (s : Text) : Outside [] s := by
  refine ⟨?_, ?_⟩
  · rintro - - ⟨start, body, heq, -⟩
    simp at heq
  · intro start rest heq
    simp at heq

/-- A closing brace leaves every tag. -/
theorem Outside.afterBrace (before after : Text) : Outside (before ++ ['}']) after := by
  refine ⟨?_, ?_⟩
  · intro _ _ hopens
    rw [opens_append_singleton] at hopens
    simp [isBody] at hopens
  · intro start rest heq
    have hlast := (List.append_inj' heq rfl).2
    simp at hlast

/-- A character at which no tag begins leaves the place outside. -/
theorem Outside.step {before s : Text} {c : Char} (h : Outside before (c :: s))
    (hlead : lead? (c :: s) = none) : Outside (before ++ [c]) s := by
  obtain ⟨hopen, hbrace⟩ := h
  refine ⟨?_, ?_⟩
  · intro hcloses hhead hopens
    obtain ⟨hbefore, hc⟩ | ⟨rfl, start, rfl⟩ := opens_append_singleton.1 hopens
    · refine hopen (hcloses.cons hc) ?_ hbefore
      rw [List.head?_cons, ne_eq, Option.some.injEq]
      rintro rfl
      cases hc
    · exact hhead (hbrace start s rfl rfl hcloses)
  · rintro start rest heq rfl hcloses
    obtain rfl : c = '{' := by simpa using (List.append_inj' heq rfl).2
    exact head?_of_lead?_eq_none hlead hcloses

/-- Outside of tags no entity is enclosed. -/
theorem Outside.not_encloses {before after : Text} (h : Outside before (quoteEntity ++ after)) :
    ¬ Encloses before after := by
  rintro ⟨hopens, body, rest, rfl, hrest⟩
  have hhead : (quoteEntity ++ (body ++ '}' :: rest)).head? = some '&' := rfl
  refine h.1 ⟨quoteEntity ++ body, rest, by simp, ?_⟩ (by rw [hhead]; decide) hopens
  intro c hc
  obtain hc | hc := List.mem_append.1 hc
  · exact quoteEntity_isBody c hc
  · exact hrest c hc

/-! ### Decoding -/

/-- An entity that begins in front of a closing brace ends there. -/
theorem quoteEntity_of_append_brace {body rest after : Text}
    (h : body ++ '}' :: rest = quoteEntity ++ after) : ∃ more, body = quoteEntity ++ more := by
  obtain ⟨more, hentity, hrest⟩ | ⟨more, hbody, -⟩ := List.append_eq_append_iff.1 h
  · cases more with
    | nil => exact ⟨[], by simpa using hentity.symm⟩
    | cons c more =>
      obtain rfl : '}' = c := by simpa using congrArg List.head? hrest
      have hmem : '}' ∈ quoteEntity := by rw [hentity]; simp
      exact absurd hmem (by decide)
  · exact ⟨more, hbody⟩

/-- Within a tag each entity of a quote is decoded. -/
theorem decodes_body {before body rest result : Text} (hopens : Opens before)
    (hbody : ∀ c ∈ body, isBody c = true)
    (hrest : Decodes (before ++ body ++ ['}']) rest result) :
    Decodes before (body ++ '}' :: rest)
      (Text.replaceAll quoteEntity ['"'] (body ++ ['}']) ++ result) := by
  induction hn : body.length using Nat.strongRecOn generalizing before body with
  | _ n ih =>
    by_cases hentity : ∃ more, body = quoteEntity ++ more
    · obtain ⟨more, rfl⟩ := hentity
      have hmore : ∀ c ∈ more, isBody c = true := fun c hc => hbody c (by simp [hc])
      have hopens' : Opens (before ++ quoteEntity) := hopens.append quoteEntity_isBody
      rw [List.append_assoc, List.append_assoc, Text.replaceAll_append_self (by decide)]
      refine .decode ⟨hopens, more, rest, rfl, hmore⟩ (ih more.length ?_ hopens' hmore ?_ rfl)
      · rw [← hn, List.length_append]
        have hlength : quoteEntity.length = 6 := rfl
        omega
      · rwa [List.append_assoc before quoteEntity more]
    · have hplain : ∀ after, body ++ '}' :: rest ≠ quoteEntity ++ after :=
        fun after h => hentity (quoteEntity_of_append_brace h)
      have hend : ∀ after, body ++ ['}'] ≠ quoteEntity ++ after :=
        fun after h => hentity (quoteEntity_of_append_brace h)
      cases body with
      | nil =>
        simp only [List.nil_append] at hplain hend ⊢
        rw [Text.replaceAll_cons_of_not hend]
        refine .keep (fun after h => absurd h (hplain after)) ?_
        simpa using hrest
      | cons c body =>
        have hc : Opens (before ++ [c]) :=
          hopens.append fun x hx => hbody x (by simp [List.mem_singleton.1 hx])
        simp only [List.cons_append] at hplain hend ⊢
        rw [Text.replaceAll_cons_of_not hend]
        refine .keep (fun after h => absurd h (hplain after)) ?_
        refine ih body.length ?_ hc (fun x hx => hbody x (by simp [hx])) ?_ rfl
        · rw [← hn]
          simp
        · simpa using hrest

theorem decodes_of_outside {before s : Text} (h : Outside before s) :
    Decodes before s (decodeQuotes s) := by
  induction hn : s.length using Nat.strongRecOn generalizing before s with
  | _ n ih =>
    cases s with
    | nil => exact .nil
    | cons c s =>
      cases hlead : lead? (c :: s) with
      | none =>
        rw [decodeQuotes, mapTags_cons_of_none hlead]
        refine .keep ?_ (ih s.length (by simp [← hn]) (h.step hlead) rfl)
        intro after heq
        rw [heq] at h
        exact h.not_encloses
      | some tag =>
        obtain ⟨body, rest, -, hbody, rfl, hs⟩ := lead?_eq_some hlead
        rw [hs] at hlead hn ⊢
        have hrest : Decodes (before ++ ['{', '@'] ++ body ++ ['}']) rest (decodeQuotes rest) :=
          ih rest.length (by simp [← hn]; omega) (.afterBrace _ _) rfl
        have hopens : Opens (before ++ ['{', '@']) := ⟨before, [], rfl, by simp⟩
        have htag := decodes_body hopens hbody hrest
        have hresult : decodeQuotes ('{' :: '@' :: (body ++ ['}']) ++ rest) =
            '{' :: '@' :: (Text.replaceAll quoteEntity ['"'] (body ++ ['}']) ++
              decodeQuotes rest) := by
          rw [decodeQuotes, mapTags_of_lead hlead]
          rfl
        rw [hresult]
        refine .keep (fun after heq => absurd (List.cons.inj heq).1 (by decide)) ?_
        refine .keep (fun after heq => absurd (List.cons.inj heq).1 (by decide)) ?_
        simpa using htag

/-- The entities of quotes that lie in a tag are decoded, and nothing else changes. -/
theorem decodeQuotes_decodes (s : Text) : Decodes [] s (decodeQuotes s) :=
  decodes_of_outside (.start s)

end Docpress.InlineTag
