import Docpress.Markdown.BareLink
import Docpress.Proofs.Text.Words
import Mathlib.Data.List.Chain
/-!
Texts in which no address is found: those without slashes whose at signs all follow a brace, as they
do in inline tags.
-/

namespace Docpress.Markdown.BareLink

/-- Every at sign follows an opening brace, unless it is the first character. -/
def AtSignsBraced (s : Text) : Prop :=
  s.IsChain fun c d => d = '@' → c = '{'

/-- At signs are braced on both sides of a place that stands before no at sign. -/
theorem AtSignsBraced.append {s t : Text} (hs : AtSignsBraced s) (ht : AtSignsBraced t)
    (hhead : t.head? ≠ some '@') : AtSignsBraced (s ++ t) := by
  refine List.IsChain.append hs ht fun c _ d hd heq => ?_
  subst heq
  exact absurd hd hhead

theorem atSignsBraced_of_notMem {s : Text} (h : '@' ∉ s) : AtSignsBraced s := by
  refine List.Pairwise.isChain (List.pairwise_of_forall_mem_list fun c _ d hd heq => ?_)
  exact absurd (heq ▸ hd) h

/-- The text holds nothing that an address needs. -/
structure IsAddressless (s : Text) : Prop where
  noSlash : '/' ∉ s
  ascii : ∀ c ∈ s, c.toNat < 128
  braced : AtSignsBraced s

theorem IsAddressless.tail {c : Char} {s : Text} (h : IsAddressless (c :: s)) :
    IsAddressless s :=
  ⟨fun hmem => h.noSlash (List.mem_cons_of_mem _ hmem),
    fun d hd => h.ascii d (List.mem_cons_of_mem _ hd), h.braced.tail⟩

theorem IsAddressless.drop {s : Text} (h : IsAddressless s) (n : Nat) :
    IsAddressless (s.drop n) :=
  ⟨fun hmem => h.noSlash (List.mem_of_mem_drop hmem),
    fun d hd => h.ascii d (List.mem_of_mem_drop hd), h.braced.drop n⟩

theorem IsAddressless.left_of_append {s t : Text} (h : IsAddressless (s ++ t)) :
    IsAddressless s :=
  ⟨fun hmem => h.noSlash (List.mem_append_left _ hmem),
    fun c hc => h.ascii c (List.mem_append_left _ hc), h.braced.left_of_append⟩

theorem IsAddressless.right_of_append {s t : Text} (h : IsAddressless (s ++ t)) :
    IsAddressless t :=
  ⟨fun hmem => h.noSlash (List.mem_append_right _ hmem),
    fun c hc => h.ascii c (List.mem_append_right _ hc), h.braced.right_of_append⟩

/-- A mailbox name does not reach up to an at sign that follows a brace. -/
theorem afterMailbox?_eq_none {s : Text} (h : AtSignsBraced s) : afterMailbox? s = none := by
  unfold afterMailbox?
  dsimp only
  rw [Text.drop_length_takeWhile]
  split
  · rename_i rest hrest
    rw [if_neg]
    intro hname
    have hs := List.takeWhile_append_dropWhile (p := fun c => isMailboxChar c || c == '"') (l := s)
    rw [hrest] at hs
    generalize hlead : s.takeWhile (fun c => isMailboxChar c || c == '"') = name at hs hname
    -- The name is not empty, so the at sign follows its last character.
    obtain rfl | ⟨front, last, rfl⟩ := List.eq_nil_or_concat' name
    · simp at hname
    · have hlast : last = '{' := by
        have hchain : (front ++ [last] ++ '@' :: rest).IsChain fun c d => d = '@' → c = '{' := by
          rw [hs]
          exact h
        rw [List.append_assoc] at hchain
        exact (List.isChain_cons_cons.1 hchain.right_of_append).1 rfl
      have hmem : last ∈ s.takeWhile fun c => isMailboxChar c || c == '"' := by
        rw [hlead]
        simp
      have hbrace := List.all_eq_true.1 List.all_takeWhile last hmem
      rw [hlast] at hbrace
      exact absurd hbrace (by decide +kernel)
  · rfl

/-- Of the ASCII characters only a slash is folded to a slash, and only a colon to a colon. -/
theorem foldChar_ne {c d : Char} (hd : d ∈ ['/', ':']) (hascii : c.toNat < 128) (hc : c ≠ d) :
    foldChar c ≠ d := by
  have hall : ∀ n < 128, ['/', ':'].all
      (fun d => Char.ofNat n == d || foldChar (Char.ofNat n) != d) = true := by
    decide +kernel
  have hfold := List.all_eq_true.1 (hall c.toNat hascii) d hd
  rw [Char.ofNat_toNat, Bool.or_eq_true, beq_iff_eq, bne_iff_ne] at hfold
  exact hfold.resolve_left hc

/-- No scheme but the two slashes has an address after it. -/
theorem afterScheme?_eq_none {s : Text} (h : IsAddressless s) (before : Option Char) {k : Scheme}
    (hk : k ≠ .slashes) : afterScheme? before k s = none := by
  have hslashes : Text.dropLead? ['/', '/'] s = none := by
    cases s with
    | nil => rfl
    | cons c s =>
      have hc : '/' ≠ c := by
        rintro rfl
        exact h.noSlash (by simp)
      simp [Text.dropLead?, hc]
  cases k with
  | http => simp [afterScheme?, hslashes]
  | https => simp [afterScheme?, hslashes]
  | ftp => simp [afterScheme?, hslashes]
  | mailto => simp [afterScheme?, afterMailbox?_eq_none h.braced]
  | slashes => exact absurd rfl hk

/-- The two slashes do not stand in such a text. -/
theorem scheme?_ne_slashes {s : Text} (h : IsAddressless s) : scheme? s ≠ some .slashes := by
  intro hk
  have hfound := List.find?_some hk
  cases s with
  | nil => cases hfound
  | cons c s =>
    have hc : c ≠ '/' := by
      rintro rfl
      exact h.noSlash (by simp)
    have hfold := foldChar_ne (by simp) (h.ascii c (by simp)) hc
    have htext : Scheme.slashes.text = ['/', '/'] := by decide
    rw [htext, dropLeadFolded?, if_neg (by simpa using hfold)] at hfound
    cases hfound

/-- No address begins in such a text, whatever scheme stands there. -/
theorem afterAddress?_eq_none {s : Text} (h : IsAddressless s) (before : Option Char) {k : Scheme}
    (hk : scheme? s = some k) : afterAddress? before k s = none := by
  have hslashes : k ≠ .slashes := by
    rintro rfl
    exact scheme?_ne_slashes h hk
  simp [afterAddress?, afterScheme?_eq_none (h.drop k.text.length) before hslashes]

theorem candidates_eq_nil {s : Text} (h : IsAddressless s) (before : Option Char)
    (inScheme inMail i : Nat) : candidates before inScheme inMail i s = [] := by
  induction s generalizing before inScheme inMail i with
  | nil => rfl
  | cons c s ih =>
    have hmail : afterMail? (c :: s) = none := by
      rw [afterMail?, afterMailbox?_eq_none h.braced]
      rfl
    have hnone : ∀ (found : Option Scheme) {β : Type} (f : Text → Scheme → β),
        (found = none ∨ found = scheme? (c :: s)) →
        (found.bind fun k => (afterAddress? before k (c :: s)).map (f · k)) = none := by
      rintro found β f (rfl | rfl)
      · rfl
      · cases hk : scheme? (c :: s) with
        | none => rfl
        | some k => rw [Option.bind_some, afterAddress?_eq_none h before hk, Option.map_none]
    unfold candidates
    dsimp only
    rw [hmail, hnone _ _ (by split <;> simp)]
    split
    · rename_i heq
      split at heq <;> cases heq
    · exact ih h.tail _ _ _ _

/-- No address is found in such a text. -/
theorem findAll_eq_nil {s : Text} (h : IsAddressless s) : findAll s = [] := by
  rw [findAll, candidates_eq_nil h]
  rfl

end Docpress.Markdown.BareLink
