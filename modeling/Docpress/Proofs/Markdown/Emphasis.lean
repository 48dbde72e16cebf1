import Docpress.Proofs.Markdown.Pairing
/-!
The emphasis of a scope in which all delimiters are underscores: none is put in place if no
delimiter fits one in a later run, and some is if one does.
-/

namespace Docpress.Markdown

variable {ds : Array Delimiter} {spans : Array Span}

/-! ### Without pairs -/

theorem placeStrike_eq_self {opener : Delimiter} (h : opener.stop = none ∨ opener.mark ≠ '~')
    (pieces : Array Span × List Nat) : placeStrike ds pieces opener = pieces := by
  unfold placeStrike
  split
  · rename_i closer hcloser
    rcases h with hstop | hmark
    · rw [hstop] at hcloser
      cases hcloser
    · rw [if_neg (by simpa using hmark)]
  · rfl

theorem placeEmphasis_eq_self (h : ∀ d ∈ ds, d.stop = none) (k : Nat) :
    placeEmphasis ds k spans = spans := by
  induction k with
  | zero => rfl
  | succ k ih =>
    rw [placeEmphasis]
    split
    · rename_i opener hopener
      rw [h opener (Array.mem_of_getElem? hopener)]
      exact ih
    · exact ih

/-- Pieces of striking out are put in place by tildes only. -/
theorem resolveEmphasis_eq {spans : List Span} {delimiters : List Delimiter}
    (h : ∀ d ∈ pairDelimiters delimiters.toArray, d.stop = none ∨ d.mark ≠ '~')
    (hne : delimiters ≠ []) :
    resolveEmphasis spans delimiters =
      (placeEmphasis (pairDelimiters delimiters.toArray) (pairDelimiters delimiters.toArray).size
        spans.toArray).toList := by
  have hplaced : (pairDelimiters delimiters.toArray).foldl
      (placeStrike (pairDelimiters delimiters.toArray)) (spans.toArray, []) =
        (spans.toArray, []) := by
    rw [← Array.foldl_toList]
    refine List.foldlRecOn _ _ (motive := (· = (spans.toArray, []))) rfl ?_
    rintro _ rfl opener hopener
    exact placeStrike_eq_self (h opener (Array.mem_toList_iff.1 hopener)) _
  rw [resolveEmphasis, if_neg (by simpa using hne)]
  dsimp only
  rw [hplaced]
  rfl

/-! ### With a pair -/

/-- The delimiters are underscores, and what one of them opens stands among `n` pieces and is closed
    behind it. -/
def IsPlaceable (n : Nat) (ds : Array Delimiter) : Prop :=
  ∀ (i : Nat) (d : Delimiter), ds[i]? = some d → d.mark = '_' ∧ ∀ stop, d.stop = some stop →
    d.token < n ∧ ∃ closer, ds[stop]? = some closer ∧ d.token < closer.token

theorem IsPlaceable.modify {n : Nat} (h : IsPlaceable n ds) (i : Nat) :
    IsPlaceable n (ds.modify i fun d => { d with stop := none }) := by
  intro j d hd
  have hkept : ∀ {stop : Nat} {closer : Delimiter}, ds[stop]? = some closer →
      ∃ other, (ds.modify i fun d => { d with stop := none })[stop]? = some other ∧
        other.token = closer.token := by
    intro stop closer hcloser
    rw [Array.getElem?_modify, hcloser]
    split <;> exact ⟨_, rfl, rfl⟩
  rw [Array.getElem?_modify] at hd
  split at hd
  · obtain ⟨e, he, rfl⟩ := Option.map_eq_some_iff.1 hd
    exact ⟨(h j e he).1, fun stop hstop => absurd hstop (by simp)⟩
  · obtain ⟨hmark, hstop⟩ := h j d hd
    refine ⟨hmark, fun stop heq => ?_⟩
    obtain ⟨hlt, closer, hcloser, hbehind⟩ := hstop stop heq
    obtain ⟨other, hother, htoken⟩ := hkept hcloser
    exact ⟨hlt, other, hother, htoken.symm ▸ hbehind⟩

/-- Some emphasis is opened. -/
def Opens (spans : Array Span) : Prop :=
  ∃ (i : Nat) (kind : Emphasis), spans[i]? = some (.openEmphasis kind)

theorem opens_set {i : Nat} (hi : i < spans.size) (kind : Emphasis) :
    (spans.setIfInBounds i (.openEmphasis kind))[i]? = some (.openEmphasis kind) := by
  rw [Array.getElem?_setIfInBounds_self_of_lt hi]

/-- A step passes over a delimiter that opens nothing, or it puts emphasis in place. -/
theorem placeEmphasis_succ (h : IsPlaceable spans.size ds) (k : Nat) :
    ((∀ d, ds[k]? = some d → d.stop = none) ∧
      placeEmphasis ds (k + 1) spans = placeEmphasis ds k spans) ∨
    ∃ next placed, IsPlaceable placed.size next ∧ Opens placed ∧
      placeEmphasis ds (k + 1) spans = placeEmphasis next k placed := by
  rw [placeEmphasis]
  cases hopener : ds[k]? with
  | none => exact .inl ⟨(fun _ hd => nomatch hd), rfl⟩
  | some opener =>
    dsimp only
    obtain ⟨hmark, hplace⟩ := h k opener hopener
    cases hstop : opener.stop with
    | none => exact .inl ⟨fun d hd => by rw [← Option.some.inj hd, hstop], rfl⟩
    | some stop =>
      dsimp only
      obtain ⟨hlt, closer, hcloser, hbehind⟩ := hplace stop hstop
      have hopened (kind : Emphasis) : ((spans.setIfInBounds opener.token
          (.openEmphasis kind)).setIfInBounds closer.token (.closeEmphasis kind))[opener.token]? =
            some (.openEmphasis kind) := by
        rw [Array.getElem?_setIfInBounds_ne (by omega), opens_set hlt]
      rw [hcloser]
      dsimp only
      rw [hmark, if_pos (show ('_' == '_' || '_' == '*') = true from rfl)]
      split
      · split
        · rename_i hstrong
          -- The outer mark stands before the inner one, and the one that closes it behind.
          simp only [Bool.and_eq_true, beq_iff_eq] at hstrong
          refine .inr ⟨_, _, by simpa using h.modify (k - 1), ⟨opener.token, .strong, ?_⟩, rfl⟩
          rw [Array.getElem?_setIfInBounds_ne (by omega),
            Array.getElem?_setIfInBounds_ne (by omega)]
          exact hopened .strong
        · exact .inr ⟨_, _, by simpa using h, ⟨opener.token, .plain, hopened .plain⟩, rfl⟩
      · rw [if_neg Bool.false_ne_true]
        exact .inr ⟨_, _, by simpa using h, ⟨opener.token, .plain, hopened .plain⟩, rfl⟩

/-- Emphasis is opened if it already was or if a delimiter still to come opens some. -/
theorem placeEmphasis_opens {k : Nat} (h : IsPlaceable spans.size ds)
    (hopens : Opens spans ∨ ∃ i < k, ∃ d, ds[i]? = some d ∧ d.stop.isSome = true) :
    Opens (placeEmphasis ds k spans) := by
  induction k generalizing ds spans with
  | zero =>
    rcases hopens with hopens | ⟨i, hi, -⟩
    · exact hopens
    · exact absurd hi (Nat.not_lt_zero i)
  | succ k ih =>
    rcases placeEmphasis_succ h k with ⟨hnone, heq⟩ | ⟨next, placed, hnext, hplaced, heq⟩
    · rw [heq]
      refine ih h (hopens.imp_right fun ⟨i, hi, d, hd, hstop⟩ => ⟨i, ?_, d, hd, hstop⟩)
      have hne : i ≠ k := by
        rintro rfl
        rw [hnone d hd] at hstop
        cases hstop
      omega
    · rw [heq]
      exact ih hnext (.inl hplaced)

/-! ### Emphasis of a scope -/

section

variable {spans : List Span} {delimiters : List Delimiter}
  (hmarks : ∀ d ∈ delimiters, d.mark = '_') (hstops : ∀ d ∈ delimiters, d.stop = none)

include hmarks hstops

/-- Some delimiter of the scope fits one in a later run. -/
def HasPair (delimiters : List Delimiter) : Prop :=
  ∃ i closer, delimiters[i]? = some closer ∧
    ¬ NoneFits delimiters.toArray (runStart delimiters.toArray i) closer

/-- Without two delimiters that fit the pieces stay as they are. -/
theorem resolveEmphasis_of_not_hasPair (h : ¬ HasPair delimiters) :
    resolveEmphasis spans delimiters = spans := by
  rcases pairDelimiters_cases delimiters.toArray (by simpa using hmarks)
    (by simpa using hstops) with ⟨hsame, -⟩ | ⟨-, i, closer, hcloser, hfits⟩
  · by_cases hne : delimiters = []
    · rw [hne]
      rfl
    · have hnone : ∀ d ∈ pairDelimiters delimiters.toArray, d.stop = none := by
        rw [hsame]
        simpa using hstops
      rw [resolveEmphasis_eq (fun d hd => .inl (hnone d hd)) hne, placeEmphasis_eq_self hnone]
  · exact absurd ⟨i, closer, by simpa using hcloser, hfits⟩ h

omit hmarks hstops

/-- Pairing keeps of each delimiter the mark and the piece. -/
theorem exists_of_pairDelimiters (hstops : ∀ d ∈ delimiters, d.stop = none) {i : Nat}
    {d : Delimiter} (hd : (pairDelimiters delimiters.toArray)[i]? = some d) :
    ∃ e, delimiters[i]? = some e ∧ e.mark = d.mark ∧ e.token = d.token := by
  obtain ⟨hsame, -⟩ := pairDelimiters_follows delimiters.toArray (by simpa using hstops)
  have hplace := hsame i
  rw [hd, Option.map_some, eq_comm, Option.map_eq_some_iff] at hplace
  obtain ⟨e, he, heq⟩ := hplace
  exact ⟨e, by simpa using he, congrArg Prod.fst heq, congrArg Prod.snd heq⟩

include hmarks hstops

/-- Paired delimiters can be put in place if each has its piece and they are in the order of their
    pieces. -/
theorem isPlaceable_pairDelimiters {n : Nat} (hbound : ∀ d ∈ delimiters, d.token < n)
    (horder : delimiters.Pairwise fun a b => a.token < b.token) :
    IsPlaceable n (pairDelimiters delimiters.toArray) := by
  obtain ⟨hsame, hlater⟩ := pairDelimiters_follows delimiters.toArray (by simpa using hstops)
  intro i d hd
  obtain ⟨e, he, hmark, htoken⟩ := exists_of_pairDelimiters hstops hd
  refine ⟨hmark ▸ hmarks e (List.mem_of_getElem? he), fun stop hstop => ⟨?_, ?_⟩⟩
  · rw [← htoken]
    exact hbound e (List.mem_of_getElem? he)
  · obtain ⟨hafter, hbefore⟩ := hlater i d stop hd hstop
    have hplace := hsame stop
    rw [Array.getElem?_eq_getElem hbefore, Option.map_some, Option.map_eq_some_iff] at hplace
    obtain ⟨closer, hcloser, -⟩ := hplace
    obtain ⟨f, hf, -, heq⟩ := exists_of_pairDelimiters hstops hcloser
    refine ⟨closer, hcloser, ?_⟩
    rw [← htoken, ← heq]
    obtain ⟨hi, rfl⟩ := List.getElem?_eq_some_iff.1 he
    obtain ⟨hj, rfl⟩ := List.getElem?_eq_some_iff.1 hf
    exact List.pairwise_iff_getElem.1 horder i stop hi hj hafter

/-- With two that fit some emphasis is opened, if each delimiter has its piece and they are in the
    order of their pieces. -/
theorem exists_mem_resolveEmphasis (h : HasPair delimiters)
    (hbound : ∀ d ∈ delimiters, d.token < spans.length)
    (horder : delimiters.Pairwise fun a b => a.token < b.token) :
    ∃ kind, Span.openEmphasis kind ∈ resolveEmphasis spans delimiters := by
  obtain ⟨i, closer, hcloser, hfits⟩ := h
  have hne : delimiters ≠ [] := List.ne_nil_of_mem (List.mem_of_getElem? hcloser)
  rcases pairDelimiters_cases delimiters.toArray (by simpa using hmarks)
    (by simpa using hstops) with ⟨-, hall⟩ | ⟨⟨j, d, hd, hstop⟩, -⟩
  · exact absurd (hall i closer (by simpa using hcloser)) hfits
  have hplaceable : IsPlaceable spans.toArray.size (pairDelimiters delimiters.toArray) :=
    isPlaceable_pairDelimiters hmarks hstops hbound horder
  have hmark : ∀ d ∈ pairDelimiters delimiters.toArray, d.stop = none ∨ d.mark ≠ '~' := by
    intro d hd
    obtain ⟨i, hi⟩ := Array.mem_iff_getElem?.1 hd
    exact .inr (by rw [(hplaceable i d hi).1]; decide)
  obtain ⟨hj, -⟩ := Array.getElem?_eq_some_iff.1 hd
  obtain ⟨place, kind, hopens⟩ := placeEmphasis_opens hplaceable (.inr ⟨j, hj, d, hd, hstop⟩)
  rw [resolveEmphasis_eq hmark hne]
  exact ⟨kind, Array.mem_toList_iff.2 (Array.mem_of_getElem? hopens)⟩

end

end Docpress.Markdown
