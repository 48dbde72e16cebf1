import Docpress.Proofs.InlineTag.Guard
import Docpress.Proofs.Markdown.Fence
import Docpress.Proofs.Renderer.Tags
import Docpress.Proofs.Renderer.Untouched
/-!
What the steps before Markdown do to a source: they go through its lines apart, keep where a line
begins, and change a text exactly if it has a URL or an inline tag with a bare underscore.
-/

namespace Docpress

open Text InlineTag Markdown

/-! ### Lines -/

/-- Each line is protected by itself. -/
theorem protect_append_lineEnd (s t : Text) :
    protect (s ++ '\n' :: t) = protect s ++ '\n' :: protect t := by
  rw [protect, escapeUnderscores, mapTags_append_lineEnd, Url.hideSlashes_append_cons (by decide)]
  rfl

theorem protect_lines_append (lines : List Text) (t : Text) :
    protect (lines.flatMap (· ++ ['\n']) ++ t) =
      (lines.map protect).flatMap (· ++ ['\n']) ++ protect t := by
  induction lines with
  | nil => rfl
  | cons l lines ih =>
    simp only [List.map_cons, List.flatMap_cons, List.append_assoc, List.cons_append,
      List.nil_append]
    rw [protect_append_lineEnd, ih]

/-- A tag begins with the same brace after its underscores are guarded. -/
theorem InlineTag.keepsFirst_escapeUnderscores : KeepsFirst '{' fun here =>
    (lead? here).map fun tag => (guardUnderscores false tag, tag.length - 1) := by
  intro here new more hclaim
  obtain ⟨tag, htag, heq⟩ := Option.map_eq_some_iff.1 hclaim
  obtain ⟨body, rest, -, -, rfl, rfl⟩ := lead?_eq_some htag
  obtain ⟨rfl, -⟩ := Prod.mk.inj heq
  exact ⟨⟨_, rfl⟩, _, rfl⟩

/-- What stands before the first tag and the first URL is as it was. -/
theorem startsWith_of_startsWith_protect {lead s : Text} (hbrace : '{' ∉ lead)
    (hscheme : 'h' ∉ lead) (h : startsWith (protect s) lead = true) : startsWith s lead = true :=
  keepsFirst_escapeUnderscores.startsWith_of_substitute hbrace
    (Url.startsWith_of_startsWith_hideSlashes hscheme h)

/-- Indentation comes before any tag and any URL. -/
theorem dropWhile_protect {p : Char → Bool} (hbrace : p '{' = false) (hscheme : p 'h' = false)
    (s : Text) : (protect s).dropWhile p = protect (s.dropWhile p) := by
  rw [protect, Url.dropWhile_hideSlashes hscheme]
  exact congrArg Url.hideSlashes (keepsFirst_escapeUnderscores.dropWhile_substitute hbrace s)

/-! ### Characters -/

theorem protect_within {p : Char → Prop} (hescape : p '\\')
    (hschemes : ∀ scheme ∈ Url.hiddenSchemes, Within p (scheme ++ Url.hiddenSlashes)) {s : Text}
    (hs : Within p s) : Within p (protect s) :=
  Url.hideSlashes_within hschemes (escapeUnderscores_within hescape hs)

/-- A text without a brace and a colon has nothing to protect. -/
theorem protect_of_notMem {s : Text} (hbrace : '{' ∉ s) (hcolon : ':' ∉ s) : protect s = s := by
  rw [protect, escapeUnderscores, mapTags_of_not_hasPart (hasPart_of_notMem hbrace),
    Url.hideSlashes_of_notMem hcolon]

/-! ### Texts that are kept -/

/-- Hiding makes a text longer exactly if it has a URL. -/
theorem Url.hideSlashes_growsIf (s : Text) :
    GrowsIf (HasScheme ["://".toList] s) s (hideSlashes s) := by
  have hslashes : 0 < "://".toList.length ∧ "://".toList.length < hiddenSlashes.length := by
    decide
  refine (growsIf_substitute (fun here new more hclaim => ?_) s).congr finds_separatorTo
  obtain ⟨scheme, hscheme, separator, hseparator, rest, rfl, rfl, rfl⟩ := separatorTo_eq_some hclaim
  obtain rfl := List.mem_singleton.1 hseparator
  simp only [List.length_append]
  omega

/-- The steps before Markdown leave a text as it is exactly if it has neither a bare underscore in
    an inline tag nor a URL. -/
theorem protect_growsIf (s : Text) :
    GrowsIf (HasBareUnderscore s ∨ Url.HasScheme ["://".toList] s) s (protect s) :=
  .comp escapeUnderscores_growsIf Url.hideSlashes_growsIf s

/-! ### Fences -/

/-- A line that may be written in a fence: it is one line, and does not begin with the fence's
    mark. -/
structure IsWrittenLine (l : Text) : Prop where
  single : '\r' ∉ l ∧ '\n' ∉ l ∧ Char.ofNat 0 ∉ l
  notMark : startsWith (l.dropWhile isIndent) fenceMark = false

instance (l : Text) : Decidable (IsWrittenLine l) :=
  decidable_of_iff (('\r' ∉ l ∧ '\n' ∉ l ∧ Char.ofNat 0 ∉ l) ∧
      startsWith (l.dropWhile isIndent) fenceMark = false)
    ⟨fun ⟨h₁, h₂⟩ => ⟨h₁, h₂⟩, fun ⟨h₁, h₂⟩ => ⟨h₁, h₂⟩⟩

/-- The line is one that a fence keeps after it is protected. -/
theorem IsWrittenLine.isFenceLine {l : Text} (h : IsWrittenLine l) : IsFenceLine (protect l) := by
  have hwithin : ∀ {c : Char}, c ∉ l → c ≠ '\\' → (∀ scheme ∈ Url.hiddenSchemes,
      c ∉ scheme ++ Url.hiddenSlashes) → c ∉ protect l := by
    intro c hc hescape hschemes
    exact within_ne_iff.1 (protect_within hescape.symm
      (fun scheme hscheme => within_ne_iff.2 (hschemes scheme hscheme)) (within_ne_iff.2 hc))
  obtain ⟨hreturn, hend, hzero⟩ := h.single
  refine ⟨fun c hc => ⟨?_, ?_⟩, hwithin hend (by decide) (by decide), ?_⟩
  · rintro rfl
    exact hwithin hreturn (by decide) (by decide) hc
  · rintro rfl
    exact hwithin hzero (by decide) (by decide) hc
  · rw [dropWhile_protect (by decide) (by decide)]
    cases hstarts : startsWith (protect (l.dropWhile isIndent)) fenceMark with
    | false => rfl
    | true =>
      have hmark := startsWith_of_startsWith_protect (by decide) (by decide) hstarts
      exact absurd (h.notMark.symm.trans hmark) Bool.false_ne_true

/-- A fence is protected line by line. -/
theorem protect_fenced_lines {info : Text} (hinfo : IsWord info) (lines : List Text)
    (ended : Bool) : protect (fenced info lines ended) = fenced info (lines.map protect) ended := by
  have htail : protect (fenceMark ++ if ended then ['\n'] else []) =
      fenceMark ++ if ended then ['\n'] else [] := by
    cases ended <;> rfl
  have hnone : ∀ c ∈ ['{', ':'], c ∉ fenceMark ∧ Char.isAlphanum c = false :=
    List.all_iff_forall_prop.1 (by decide)
  have hfirst : ∀ c ∈ ['{', ':'], c ∉ fenceMark ++ info := by
    intro c hc hmem
    obtain ⟨hmark, hword⟩ := hnone c hc
    exact (List.mem_append.1 hmem).elim hmark (hinfo.notMem hword)
  rw [fenced, List.append_assoc, List.cons_append, protect_append_lineEnd,
    protect_of_notMem (hfirst _ (by simp)) (hfirst _ (by simp)), protect_lines_append, htail]
  simp only [fenced, List.append_assoc, List.cons_append]

end Docpress
