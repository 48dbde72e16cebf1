import Docpress.Proofs.Html.Escape
import Docpress.Url.Scheme
/-!
Hiding the slashes of URLs and showing them again. Both go through a text at the schemes and at
nothing else, so what was hidden is shown again even if the text has been escaped in between. Each is
done in one pass: no URL is left to be hidden after hiding, and none to be shown after showing.
-/

namespace Docpress.Url

open Text

variable {new : Text} {separators : List Text} {c d : Char} {s t : Text}

/-! ### Changing separators -/

/-- What is claimed: a scheme with one of the separators. -/
theorem separatorTo_eq_some {here out : Text} {more : Nat}
    (h : separatorTo new separators here = some (out, more)) :
    ∃ scheme ∈ hiddenSchemes, ∃ separator ∈ separators, ∃ rest,
      here = scheme ++ separator ++ rest ∧ out = scheme ++ new ∧
      more = scheme.length + separator.length - 1 := by
  obtain ⟨scheme, hscheme, h⟩ := List.exists_of_findSome?_eq_some h
  obtain ⟨separator, hseparator, h⟩ := List.exists_of_findSome?_eq_some h
  split at h
  · rename_i hstarts
    obtain ⟨rfl, rfl⟩ := Prod.mk.inj (Option.some.inj h)
    obtain ⟨rest, hrest⟩ := startsWith_iff.1 hstarts
    exact ⟨scheme, hscheme, separator, hseparator, rest, hrest, rfl, rfl⟩
  · cases h

theorem mem_hiddenSchemes {scheme : Text} :
    scheme ∈ hiddenSchemes ↔ scheme = "https".toList ∨ scheme = "http".toList := by
  simp [hiddenSchemes]

theorem mem_hiddenForms {form : Text} :
    form ∈ hiddenForms ↔ form = hiddenSlashes ∨ form = ":%5C/%5C/".toList := by
  simp [hiddenForms]

/-- A scheme begins with one and the same letter. -/
theorem exists_cons_of_mem_hiddenSchemes :
    ∀ scheme ∈ hiddenSchemes, scheme = 'h' :: scheme.drop 1 := by
  decide

/-- A character that begins no scheme is passed over. -/
theorem separatorTo_of_ne (hc : c ≠ 'h') : separatorTo new separators (c :: s) = none := by
  cases h : separatorTo new separators (c :: s) with
  | none => rfl
  | some found =>
    obtain ⟨scheme, hscheme, separator, -, rest, heq, -⟩ := separatorTo_eq_some h
    rw [exists_cons_of_mem_hiddenSchemes scheme hscheme] at heq
    exact absurd (List.cons.inj heq).1 hc

/-- The character is in no scheme and in none of the separators. -/
def IsApart (separators : List Text) (c : Char) : Prop :=
  ∀ scheme ∈ hiddenSchemes, ∀ separator ∈ separators, c ∉ scheme ++ separator

instance (separators : List Text) (c : Char) : Decidable (IsApart separators c) :=
  inferInstanceAs (Decidable (∀ scheme ∈ hiddenSchemes, ∀ separator ∈ separators, _))

/-- Separators are changed on both sides of such a character apart. -/
theorem substitute_separatorTo_append_cons (hc : IsApart separators c) (s t : Text) :
    substitute (separatorTo new separators) (s ++ c :: t) =
      substitute (separatorTo new separators) s ++
        c :: substitute (separatorTo new separators) t := by
  have hstarts : ∀ s t, separatorTo new separators (s ++ c :: t) =
      separatorTo new separators s := by
    intro s t
    unfold separatorTo
    refine findSome?_congr fun scheme hscheme => findSome?_congr fun separator hseparator => ?_
    rw [startsWith_append_cons (hc scheme hscheme separator hseparator)]
  refine substitute_append_cons (fun t => ?_) (fun d s t => ?_) (fun d s out more h => ?_) s t
  · rw [← List.nil_append (c :: t), hstarts]
    cases h : separatorTo new separators [] with
    | none => rfl
    | some found =>
      obtain ⟨scheme, hscheme, separator, -, rest, heq, -⟩ := separatorTo_eq_some h
      rw [exists_cons_of_mem_hiddenSchemes scheme hscheme] at heq
      cases heq
  · rw [← List.cons_append, hstarts]
  · obtain ⟨scheme, -, separator, -, rest, heq, -, rfl⟩ := separatorTo_eq_some h
    have hlength := congrArg List.length heq
    simp only [List.length_cons, List.length_append] at hlength
    omega

/-- Without a character that is in all separators there is no separator. -/
theorem substitute_separatorTo_of_notMem (hseparators : ∀ separator ∈ separators, d ∈ separator)
    (hs : d ∉ s) : substitute (separatorTo new separators) s = s := by
  induction s with
  | nil => rfl
  | cons c s ih =>
    rw [substitute_cons_of_none, ih fun h => hs (List.mem_cons_of_mem _ h)]
    cases h : separatorTo new separators (c :: s) with
    | none => rfl
    | some found =>
      obtain ⟨scheme, -, separator, hseparator, rest, heq, -⟩ := separatorTo_eq_some h
      refine absurd ?_ hs
      rw [heq]
      simp [hseparators separator hseparator]

/-! ### Hiding -/

theorem hideSlashes_append_cons (hc : IsApart ["://".toList] c) (s t : Text) :
    hideSlashes (s ++ c :: t) = hideSlashes s ++ c :: hideSlashes t :=
  substitute_separatorTo_append_cons hc s t

theorem hideSlashes_of_notMem (hs : ':' ∉ s) : hideSlashes s = s :=
  substitute_separatorTo_of_notMem (by decide) hs

theorem hideSlashes_cons_of_ne (hc : c ≠ 'h') (s : Text) :
    hideSlashes (c :: s) = c :: hideSlashes s :=
  substitute_cons_of_none (separatorTo_of_ne hc)

/-- The slashes of a URL are hidden, whatever follows them. -/
theorem hideSlashes_scheme {scheme : Text} (h : scheme ∈ hiddenSchemes) (s : Text) :
    hideSlashes (scheme ++ "://".toList ++ s) = scheme ++ hiddenSlashes ++ hideSlashes s := by
  rcases mem_hiddenSchemes.1 h with rfl | rfl <;> rfl

/-- Hiding goes through a text from one URL, or from one character, to the rest. -/
theorem hideSlashes_induction {motive : Text → Prop} (nil : motive [])
    (scheme : ∀ scheme ∈ hiddenSchemes, ∀ s, motive s → motive (scheme ++ "://".toList ++ s))
    (char : ∀ c s, hideSlashes (c :: s) = c :: hideSlashes s → motive s → motive (c :: s))
    (s : Text) : motive s := by
  induction hn : s.length using Nat.strongRecOn generalizing s with
  | _ n ih =>
    cases s with
    | nil => exact nil
    | cons c s =>
      cases hclaim : separatorTo hiddenSlashes ["://".toList] (c :: s) with
      | none =>
        exact char c s (substitute_cons_of_none hclaim) (ih s.length (by simp [← hn]) s rfl)
      | some found =>
        obtain ⟨name, hname, separator, hseparator, rest, heq, -⟩ := separatorTo_eq_some hclaim
        obtain rfl := List.mem_singleton.1 hseparator
        rw [heq] at hn ⊢
        refine scheme name hname rest (ih rest.length ?_ rest rfl)
        rw [← hn]
        simp only [List.length_append]
        have hthree : "://".toList.length = 3 := by decide
        omega

/-- A URL begins with the same letter after its slashes are hidden. -/
theorem keepsFirst_hideSlashes : KeepsFirst 'h' (separatorTo hiddenSlashes ["://".toList]) := by
  intro here out more hclaim
  obtain ⟨scheme, hscheme, separator, -, rest, rfl, rfl, -⟩ := separatorTo_eq_some hclaim
  rw [exists_cons_of_mem_hiddenSchemes scheme hscheme]
  exact ⟨⟨_, rfl⟩, _, rfl⟩

/-- What stands before the first URL is as it was. -/
theorem startsWith_of_startsWith_hideSlashes {lead : Text} (hlead : 'h' ∉ lead)
    (h : startsWith (hideSlashes s) lead = true) : startsWith s lead = true :=
  keepsFirst_hideSlashes.startsWith_of_substitute hlead h

/-- Indentation comes before any URL. -/
theorem dropWhile_hideSlashes {p : Char → Bool} (hp : p 'h' = false) (s : Text) :
    (hideSlashes s).dropWhile p = hideSlashes (s.dropWhile p) :=
  keepsFirst_hideSlashes.dropWhile_substitute hp s

/-! ### Showing -/

theorem showSlashes_append_cons (hc : IsApart hiddenForms c) (s t : Text) :
    showSlashes (s ++ c :: t) = showSlashes s ++ c :: showSlashes t :=
  substitute_separatorTo_append_cons hc s t

theorem showSlashes_of_notMem (hs : ':' ∉ s) : showSlashes s = s :=
  substitute_separatorTo_of_notMem (by decide) hs

theorem showSlashes_cons_of_ne (hc : c ≠ 'h') (s : Text) :
    showSlashes (c :: s) = c :: showSlashes s :=
  substitute_cons_of_none (separatorTo_of_ne hc)

/-- Hidden slashes are shown in either form, whatever follows them. -/
theorem showSlashes_scheme {scheme form : Text} (h : scheme ∈ hiddenSchemes)
    (hform : form ∈ hiddenForms) (s : Text) :
    showSlashes (scheme ++ form ++ s) = scheme ++ "://".toList ++ showSlashes s := by
  rcases mem_hiddenSchemes.1 h with rfl | rfl <;>
    rcases mem_hiddenForms.1 hform with rfl | rfl <;> rfl

/-- Slashes that are not hidden stay as they are. -/
theorem showSlashes_shown {scheme : Text} (h : scheme ∈ hiddenSchemes) (s : Text) :
    showSlashes (scheme ++ "://".toList ++ s) = scheme ++ "://".toList ++ showSlashes s := by
  rcases mem_hiddenSchemes.1 h with rfl | rfl <;> rfl

/-! ### As replacements by rules -/

/-- How slashes are hidden. -/
def hideRules : List Rule :=
  [{ old := "https://".toList, new := "https".toList ++ hiddenSlashes },
    { old := "http://".toList, new := "http".toList ++ hiddenSlashes }]

/-- How slashes are shown again. -/
def showRules : List Rule :=
  [{ old := "https".toList ++ hiddenSlashes, new := "https://".toList },
    { old := "https:%5C/%5C/".toList, new := "https://".toList },
    { old := "http".toList ++ hiddenSlashes, new := "http://".toList },
    { old := "http:%5C/%5C/".toList, new := "http://".toList }]

/-- Changing separators is replacing by rules: each scheme with an old separator becomes the scheme
    with the new one. -/
theorem separatorTo_eq_claim {new : Text} {separators : List Text} {rules : List Rule}
    (h : rules.map (fun rule => (rule.old, rule.new)) = hiddenSchemes.flatMap fun scheme =>
      separators.map fun separator => (scheme ++ separator, scheme ++ new)) (here : Text) :
    separatorTo new separators here = claim rules here := by
  have hclaim : claim rules here = (rules.map fun rule => (rule.old, rule.new)).findSome?
      fun form => if startsWith here form.1 then some (form.2, form.1.length - 1) else none := by
    rw [List.findSome?_map]
    rfl
  rw [hclaim, h, separatorTo]
  generalize hiddenSchemes = schemes
  induction schemes with
  | nil => rfl
  | cons scheme schemes ih =>
    rw [List.flatMap_cons, List.findSome?_append, ← ih, List.findSome?_map, List.findSome?_cons]
    simp only [Function.comp_def, List.length_append]
    split <;> simp [*]

theorem hideSlashes_eq_substitute : hideSlashes = substitute (claim hideRules) :=
  congrArg substitute (funext (separatorTo_eq_claim (by decide)))

theorem showSlashes_eq_substitute : showSlashes = substitute (claim showRules) :=
  congrArg substitute (funext (separatorTo_eq_claim (by decide)))

/-! ### Hiding and showing in a row -/

theorem showSlashes_hideSlashes (s : Text) : showSlashes (hideSlashes s) = showSlashes s := by
  have hshow : Settled showRules := by decide
  have hflip : ∀ rule ∈ hideRules, rule.flip ∈ showRules := by
    simp [hideRules, showRules, Rule.flip]
  rw [hideSlashes_eq_substitute, showSlashes_eq_substitute]
  exact hshow.substitute_flip (by decide) hflip s

/-- Hidden slashes are shown again after escaping, in a text that had none of them before. -/
theorem showSlashes_escape_hideSlashes (h : showSlashes s = s) :
    showSlashes (Html.escape (hideSlashes s)) = Html.escape s := by
  have hhide : Apart hideRules Html.escapeRules := by decide
  have hshow : Apart showRules Html.escapeRules := by decide
  calc showSlashes (Html.escape (hideSlashes s))
      = showSlashes (hideSlashes (Html.escape s)) := by
        rw [hideSlashes_eq_substitute, Html.escape_eq_substitute, hhide.comm]
    _ = showSlashes (Html.escape s) := showSlashes_hideSlashes _
    _ = Html.escape (showSlashes s) := by
        rw [showSlashes_eq_substitute, Html.escape_eq_substitute, hshow.comm]
    _ = Html.escape s := by rw [h]

/-- How URLs begin. -/
def shownUrls : List Text :=
  ["https://".toList, "http://".toList]

/-- How URLs begin whose slashes are hidden. -/
def hiddenUrls : List Text :=
  ["https:\\/\\/".toList, "https:%5C/%5C/".toList, "http:\\/\\/".toList, "http:%5C/%5C/".toList]

/-- Showing after hiding is showing alone, so it gives a text back exactly if that has no hidden
    slashes of its own. Both change nothing a second time, for hiding leaves no URL and showing no
    hidden one. -/
theorem slashes_roundTrip (s : Text) :
    showSlashes (hideSlashes s) = showSlashes s ∧
      (showSlashes (hideSlashes s) = s ↔ ¬ HasOneOf hiddenUrls s) ∧
      hideSlashes (hideSlashes s) = hideSlashes s ∧
      showSlashes (showSlashes s) = showSlashes s ∧
      ¬ HasOneOf shownUrls (hideSlashes s) ∧
      ¬ HasOneOf hiddenUrls (showSlashes s) := by
  have hhide : Settled hideRules := by decide
  have hshow : Settled showRules := by decide
  have hshown : shownUrls = hideRules.map Rule.old := by decide
  have hhidden : hiddenUrls = showRules.map Rule.old := by decide
  rw [showSlashes_hideSlashes, hshown, hhidden, hideSlashes_eq_substitute,
    showSlashes_eq_substitute]
  exact ⟨rfl, hshow.substitute_eq_self_iff, hhide.idempotent s, hshow.idempotent s,
    hhide.not_hasOneOf s, hshow.not_hasOneOf s⟩

end Docpress.Url
