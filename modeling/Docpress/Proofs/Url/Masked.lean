import Docpress.Proofs.InlineTag.Decode
import Docpress.Proofs.Text.Within
import Docpress.Proofs.Url.Slashes
import Docpress.Url.Percent
/-!
HTML in which every marker is part of a URL whose slashes are hidden. Showing the slashes leaves no
marker in it, and what is made of such parts is such HTML again.
-/

namespace Docpress

open Text

namespace Url

/-- No marker is in the text: no backslash, and none that is percent-encoded. -/
structure IsUnmarked (s : Text) : Prop where
  backslash : '\\' ∉ s
  encoded : hasPart "%5C".toList s = false

instance (s : Text) : Decidable (IsUnmarked s) :=
  decidable_of_iff ('\\' ∉ s ∧ hasPart "%5C".toList s = false)
    ⟨fun ⟨h₁, h₂⟩ => ⟨h₁, h₂⟩, fun ⟨h₁, h₂⟩ => ⟨h₁, h₂⟩⟩

/-- The text holds nothing that a marker is written with. -/
def IsClear (s : Text) : Prop :=
  Text.Within (fun c => c ≠ '\\' ∧ c ≠ '%') s

instance (s : Text) : Decidable (IsClear s) :=
  List.decidableBAll (fun c : Char => c ≠ '\\' ∧ c ≠ '%') s

/-- The digits of percent escapes. -/
def hexDigits : Text :=
  "0123456789ABCDEF".toList

/-- Every backslash, and every escape of one, is part of a scheme with hidden slashes. -/
inductive Masked : Text → Prop where
  | nil : Masked []
  | char {c s} (hc : c ≠ '\\' ∧ c ≠ '%') (hs : Masked s) : Masked (c :: s)
  | byte {a b s} (ha : a ∈ hexDigits) (hb : b ∈ hexDigits) (hne : ¬ (a = '5' ∧ b = 'C'))
      (hs : Masked s) : Masked ('%' :: a :: b :: s)
  | hidden {scheme form s} (hscheme : scheme ∈ hiddenSchemes) (hform : form ∈ hiddenForms)
      (hs : Masked s) : Masked (scheme ++ form ++ s)

/-! ### Unmarked texts -/

theorem isUnmarked_nil : IsUnmarked [] :=
  ⟨List.not_mem_nil, rfl⟩

theorem isUnmarked_cons {c : Char} {s : Text} (hc : c ≠ '%') :
    IsUnmarked (c :: s) ↔ c ≠ '\\' ∧ IsUnmarked s := by
  have hpart : hasPart "%5C".toList (c :: s) = hasPart "%5C".toList s := by
    have hlead : "%5C".toList = '%' :: "5C".toList := by decide
    rw [hlead, hasPart_cons, startsWith_cons_of_ne hc, Bool.false_or]
  constructor
  · rintro ⟨hslash, hencoded⟩
    obtain ⟨hne, hs⟩ := not_or.1 (mt List.mem_cons.2 hslash)
    exact ⟨Ne.symm hne, hs, hpart ▸ hencoded⟩
  · rintro ⟨hne, hs⟩
    exact ⟨List.not_mem_cons_of_ne_of_not_mem (Ne.symm hne) hs.backslash, hpart ▸ hs.encoded⟩

/-- Clear characters before a text make no difference. -/
theorem isUnmarked_append {s t : Text} (hs : IsClear s) :
    IsUnmarked (s ++ t) ↔ IsUnmarked t := by
  induction s with
  | nil => exact Iff.rfl
  | cons c s ih =>
    obtain ⟨⟨hslash, hpercent⟩, hs⟩ := within_cons.1 hs
    rw [List.cons_append, isUnmarked_cons hpercent, ih hs]
    exact and_iff_right hslash

/-- The escape of a byte is no marker if it is not that of a backslash. -/
theorem isUnmarked_byte {a b : Char} {s : Text} (ha : a ∈ hexDigits) (hb : b ∈ hexDigits) :
    IsUnmarked ('%' :: a :: b :: s) ↔ ¬ (a = '5' ∧ b = 'C') ∧ IsUnmarked s := by
  have hdigit : ∀ d ∈ hexDigits, d ≠ '\\' ∧ d ≠ '%' := List.all_iff_forall_prop.1 (by decide)
  have hrest : IsUnmarked (a :: b :: s) ↔ IsUnmarked s := by
    rw [isUnmarked_cons (hdigit a ha).2, isUnmarked_cons (hdigit b hb).2]
    exact ⟨fun h => h.2.2, fun h => ⟨(hdigit a ha).1, (hdigit b hb).1, h⟩⟩
  have hpart : hasPart "%5C".toList ('%' :: a :: b :: s) =
      ((a == '5' && b == 'C') || hasPart "%5C".toList (a :: b :: s)) := by
    have hstarts : startsWith ('%' :: a :: b :: s) "%5C".toList = ('5' == a && 'C' == b) := by
      change (if '5' == a then if 'C' == b then some s else none else none).isSome = _
      cases '5' == a <;> cases 'C' == b <;> rfl
    rw [hasPart_cons, hstarts, Bool.beq_comm, Bool.beq_comm (b := b)]
  constructor
  · rintro ⟨hslash, hencoded⟩
    rw [hpart, Bool.or_eq_false_iff] at hencoded
    have hslash := (not_or.1 (mt List.mem_cons.2 hslash)).2
    exact ⟨by simpa using hencoded.1, hrest.1 ⟨hslash, hencoded.2⟩⟩
  · rintro ⟨hne, hs⟩
    obtain ⟨hslash, hencoded⟩ := hrest.2 hs
    refine ⟨List.not_mem_cons_of_ne_of_not_mem (by decide) hslash, ?_⟩
    rw [hpart, hencoded]
    simpa using hne

/-! ### Masked texts -/

theorem Masked.append {s t : Text} (hs : Masked s) (ht : Masked t) : Masked (s ++ t) := by
  induction hs with
  | nil => exact ht
  | char hc _ ih => exact .char hc ih
  | byte ha hb hne _ ih => exact .byte ha hb hne ih
  | hidden hscheme hform _ ih =>
    rw [List.append_assoc]
    exact .hidden hscheme hform ih

theorem IsClear.masked {s : Text} (hs : IsClear s) : Masked s := by
  induction s with
  | nil => exact .nil
  | cons c s ih =>
    obtain ⟨hc, hs⟩ := within_cons.1 hs
    exact .char hc (ih hs)

theorem Masked.flatMap {α : Type} {f : α → Text} {l : List α} (h : ∀ a ∈ l, Masked (f a)) :
    Masked (l.flatMap f) := by
  induction l with
  | nil => exact .nil
  | cons a l ih =>
    obtain ⟨ha, hl⟩ := List.forall_mem_cons.1 h
    exact ha.append (ih hl)

/-- Escaping writes entities of clear characters, and no part of what is masked has one. -/
theorem Masked.escape {s : Text} (h : Masked s) : Masked (Html.escape s) := by
  induction h with
  | nil => exact .nil
  | @char c s hc _ ih =>
    rw [Html.escape_cons]
    rcases Html.escapeChar_cases c with hsame | ⟨-, name, hname, hsame⟩
    · rw [hsame]
      exact .char hc ih
    · have hnames : ∀ name ∈ Html.entityNames, IsClear ('&' :: name) := by decide
      rw [hsame]
      exact (hnames name hname).masked.append ih
  | @byte a b s ha hb hne _ ih =>
    have hdigit : ∀ d ∈ hexDigits, Html.escapeChar d = [d] := List.all_iff_forall_prop.1 (by decide)
    rw [Html.escape_cons, Html.escape_cons, Html.escape_cons, hdigit a ha, hdigit b hb]
    exact .byte ha hb hne ih
  | @hidden scheme form s hscheme hform _ ih =>
    have hplain : ∀ scheme ∈ hiddenSchemes, ∀ form ∈ hiddenForms,
        Html.IsUnescaped (scheme ++ form) := by decide
    rw [Html.escape_append, Html.escape_of_isUnescaped (hplain scheme hscheme form hform)]
    exact .hidden hscheme hform ih

/-- A character that begins no scheme and no escape stands by itself. -/
theorem Masked.tail {c : Char} {s : Text} (h : Masked (c :: s)) (hletter : c ≠ 'h')
    (hpercent : c ≠ '%') : c ≠ '\\' ∧ Masked s := by
  generalize hu : c :: s = u at h
  cases h with
  | nil => cases hu
  | char hc hs =>
    obtain ⟨rfl, rfl⟩ := List.cons.inj hu
    exact ⟨hc.1, hs⟩
  | byte => exact absurd (List.cons.inj hu).1 hpercent
  | hidden hscheme =>
    rw [exists_cons_of_mem_hiddenSchemes _ hscheme] at hu
    exact absurd (List.cons.inj hu).1 hletter

theorem Masked.right_of_append {s t : Text} (h : Masked (s ++ t)) (hs : 'h' ∉ s ∧ '%' ∉ s) :
    Masked t := by
  induction s with
  | nil => exact h
  | cons c s ih =>
    obtain ⟨hletter, hpercent⟩ := hs
    obtain ⟨hc, hletter⟩ := not_or.1 (mt List.mem_cons.2 hletter)
    obtain ⟨hc', hpercent⟩ := not_or.1 (mt List.mem_cons.2 hpercent)
    exact ih (h.tail (Ne.symm hc) (Ne.symm hc')).2 ⟨hletter, hpercent⟩

theorem not_masked_encoded (s : Text) : ¬ Masked ('%' :: '5' :: 'C' :: s) := by
  intro h
  generalize hu : '%' :: '5' :: 'C' :: s = u at h
  cases h with
  | nil => cases hu
  | char hc => exact hc.2 (List.cons.inj hu).1.symm
  | byte _ _ hne =>
    obtain ⟨-, hrest⟩ := List.cons.inj hu
    obtain ⟨ha, hrest⟩ := List.cons.inj hrest
    exact hne ⟨ha.symm, (List.cons.inj hrest).1.symm⟩
  | hidden hscheme =>
    rw [exists_cons_of_mem_hiddenSchemes _ hscheme] at hu
    exact absurd (List.cons.inj hu).1 (by decide)

/-- A scheme that has lost its first letter masks nothing. -/
theorem not_masked_of_scheme {scheme form : Text} (hscheme : scheme ∈ hiddenSchemes)
    (hform : form ∈ hiddenForms) (s : Text) : ¬ Masked (scheme.drop 1 ++ form ++ s) := by
  intro h
  have hlead : ∀ scheme ∈ hiddenSchemes, 'h' ∉ scheme.drop 1 ++ [':'] ∧
      '%' ∉ scheme.drop 1 ++ [':'] := by decide
  have hforms : ∀ form ∈ hiddenForms, form = ':' :: form.drop 1 := by decide
  rw [hforms form hform, ← List.singleton_append, ← List.append_assoc, List.append_assoc] at h
  have hrest := h.right_of_append (hlead scheme hscheme)
  rcases mem_hiddenForms.1 hform with rfl | rfl
  · exact (hrest.tail (by decide) (by decide)).1 rfl
  · exact not_masked_encoded _ hrest

/-- Nothing but schemes with hidden slashes is claimed when slashes are shown. -/
theorem Masked.showSlashes_cons {c : Char} {s : Text} (h : Masked s) :
    showSlashes (c :: s) = c :: showSlashes s := by
  refine substitute_cons_of_none ?_
  cases hclaim : separatorTo "://".toList hiddenForms (c :: s) with
  | none => rfl
  | some found =>
    obtain ⟨scheme, hscheme, form, hform, rest, heq, -⟩ := separatorTo_eq_some hclaim
    rw [exists_cons_of_mem_hiddenSchemes scheme hscheme, List.cons_append,
      List.cons_append] at heq
    obtain ⟨-, rfl⟩ := List.cons.inj heq
    exact absurd h (not_masked_of_scheme hscheme hform rest)

/-- A scheme with its slashes shown. -/
theorem isClear_shown : ∀ scheme ∈ hiddenSchemes, IsClear (scheme ++ "://".toList) := by
  decide

/-- Showing the slashes of a masked text leaves no marker. -/
theorem Masked.isUnmarked_showSlashes {s : Text} (h : Masked s) :
    IsUnmarked (showSlashes s) := by
  induction h with
  | nil => exact isUnmarked_nil
  | char hc hs ih =>
    rw [hs.showSlashes_cons, isUnmarked_cons hc.2]
    exact ⟨hc.1, ih⟩
  | byte ha hb hne _ ih =>
    have hdigit : ∀ d ∈ hexDigits, d ≠ 'h' := List.all_iff_forall_prop.1 (by decide)
    rw [showSlashes_cons_of_ne (by decide), showSlashes_cons_of_ne (hdigit _ ha),
      showSlashes_cons_of_ne (hdigit _ hb), isUnmarked_byte ha hb]
    exact ⟨hne, ih⟩
  | hidden hscheme hform _ ih =>
    rw [showSlashes_scheme hscheme hform, isUnmarked_append (isClear_shown _ hscheme)]
    exact ih

/-! ### Which texts are masked -/

/-- Every percent sign begins the escape of a byte. -/
inductive Escaped : Text → Prop where
  | nil : Escaped []
  | char {c s} (hc : c ≠ '%') (hs : Escaped s) : Escaped (c :: s)
  | byte {a b s} (ha : a ∈ hexDigits) (hb : b ∈ hexDigits) (hs : Escaped s) :
      Escaped ('%' :: a :: b :: s)

theorem escaped_of_notMem {s : Text} (h : '%' ∉ s) : Escaped s := by
  induction s with
  | nil => exact .nil
  | cons c s ih =>
    obtain ⟨hc, hs⟩ := not_or.1 (mt List.mem_cons.2 h)
    exact .char (Ne.symm hc) (ih hs)

theorem Escaped.append {s t : Text} (hs : Escaped s) (ht : Escaped t) : Escaped (s ++ t) := by
  induction hs with
  | nil => exact ht
  | char hc _ ih => exact .char hc ih
  | byte ha hb _ ih => exact .byte ha hb ih

theorem Escaped.flatMap {α : Type} {f : α → Text} {l : List α} (h : ∀ a ∈ l, Escaped (f a)) :
    Escaped (l.flatMap f) := by
  induction l with
  | nil => exact .nil
  | cons a l ih =>
    obtain ⟨ha, hl⟩ := List.forall_mem_cons.1 h
    exact ha.append (ih hl)

theorem Escaped.tail {c : Char} {s : Text} (h : Escaped (c :: s)) (hc : c ≠ '%') :
    Escaped s := by
  cases h with
  | char _ hs => exact hs
  | byte => exact absurd rfl hc

theorem Escaped.right_of_append {s t : Text} (h : Escaped (s ++ t)) (hs : '%' ∉ s) :
    Escaped t := by
  induction s with
  | nil => exact h
  | cons c s ih =>
    obtain ⟨hc, hs⟩ := not_or.1 (mt List.mem_cons.2 hs)
    exact ih (h.tail (Ne.symm hc)) hs

/-- What follows a scheme with hidden slashes. -/
theorem Escaped.right_of_scheme {scheme form s : Text} (hscheme : scheme ∈ hiddenSchemes)
    (hform : form ∈ hiddenForms) (h : Escaped (scheme ++ form ++ s)) : Escaped s := by
  have hletters : ∀ scheme ∈ hiddenSchemes, '%' ∉ scheme := by decide
  rw [List.append_assoc] at h
  have h := h.right_of_append (hletters scheme hscheme)
  rcases mem_hiddenForms.1 hform with rfl | rfl
  · exact h.right_of_append (by decide)
  · have hparts : ":%5C/%5C/".toList ++ s =
        [':'] ++ '%' :: '5' :: 'C' :: (['/'] ++ '%' :: '5' :: 'C' :: (['/'] ++ s)) := rfl
    have hbyte : ∀ {t : Text}, Escaped ('%' :: '5' :: 'C' :: t) → Escaped t := by
      intro t ht
      cases ht with
      | char hc => exact absurd rfl hc
      | byte _ _ ht => exact ht
    rw [hparts] at h
    have h := hbyte (h.right_of_append (by decide))
    have h := hbyte (h.right_of_append (by decide))
    exact h.right_of_append (by decide)

/-- A text that loses all markers when its slashes are shown is masked. -/
theorem Escaped.masked {s : Text} (h : Escaped s) (hshown : IsUnmarked (showSlashes s)) :
    Masked s := by
  induction hn : s.length using Nat.strongRecOn generalizing s with
  | _ n ih =>
    cases hclaim : separatorTo "://".toList hiddenForms s with
    | some found =>
      obtain ⟨scheme, hscheme, form, hform, rest, rfl, -⟩ := separatorTo_eq_some hclaim
      rw [showSlashes_scheme hscheme hform, isUnmarked_append (isClear_shown _ hscheme)] at hshown
      refine .hidden hscheme hform (ih rest.length ?_ (h.right_of_scheme hscheme hform) hshown rfl)
      rw [← hn, exists_cons_of_mem_hiddenSchemes scheme hscheme]
      simp only [List.length_append, List.length_cons]
      omega
    | none =>
      cases h with
      | nil => exact .nil
      | @char c s hc hs =>
        have hcons : showSlashes (c :: s) = c :: showSlashes s := substitute_cons_of_none hclaim
        rw [hcons, isUnmarked_cons hc] at hshown
        exact .char ⟨hshown.1, hc⟩ (ih s.length (by simp [← hn]) hs hshown.2 rfl)
      | @byte a b s ha hb hs =>
        have hdigit : ∀ d ∈ hexDigits, d ≠ 'h' := List.all_iff_forall_prop.1 (by decide)
        rw [showSlashes_cons_of_ne (by decide), showSlashes_cons_of_ne (hdigit _ ha),
          showSlashes_cons_of_ne (hdigit _ hb), isUnmarked_byte ha hb] at hshown
        refine .byte ha hb hshown.1 (ih s.length ?_ hs hshown.2 rfl)
        rw [← hn, List.length_cons, List.length_cons, List.length_cons]
        omega

end Url

end Docpress
