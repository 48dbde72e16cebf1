import Docpress.Html.Escape
import Docpress.Proofs.Text.Alphanum
import Docpress.Proofs.Text.Rules
import Mathlib.Data.List.Infix
/-!
Escaped text. What escaping writes can be searched as if it were the text itself, for anything that
holds no character with an entity; and no entity of an apostrophe comes from it. What is escaped for
a code block is had back by decoding, as far as the text had no entities of its own.
-/

namespace Docpress.Html

open Text

@[simp] theorem escape_nil : escape [] = [] := rfl

theorem escape_cons (c : Char) (s : Text) : escape (c :: s) = escapeChar c ++ escape s := rfl

theorem escape_append (s t : Text) : escape (s ++ t) = escape s ++ escape t :=
  List.flatMap_append

/-- The entities that escaping writes, without their ampersands. -/
def entityNames : List Text :=
  ["amp;".toList, "lt;".toList, "gt;".toList, "quot;".toList]

/-- A character stands for itself, or for an entity. -/
theorem escapeChar_cases (c : Char) :
    escapeChar c = [c] ∨
      (c ∈ ['&', '<', '>', '"'] ∧ ∃ name ∈ entityNames, escapeChar c = '&' :: name) := by
  by_cases hc : c ∈ ['&', '<', '>', '"']
  · have hall : ∀ c ∈ ['&', '<', '>', '"'], ∃ name ∈ entityNames, escapeChar c = '&' :: name :=
      List.all_iff_forall_prop.1 (by decide)
    exact .inr ⟨hc, hall c hc⟩
  · refine .inl ?_
    unfold escapeChar
    split <;> simp_all

/-- The text has no character that escaping replaces. -/
def IsUnescaped (s : Text) : Prop :=
  ∀ c ∈ s, escapeChar c = [c]

instance (s : Text) : Decidable (IsUnescaped s) :=
  List.decidableBAll (fun c => escapeChar c = [c]) s

theorem escape_of_isUnescaped {s : Text} (h : IsUnescaped s) : escape s = s := by
  induction s with
  | nil => rfl
  | cons c s ih =>
    obtain ⟨hc, hs⟩ := List.forall_mem_cons.1 h
    rw [escape_cons, hc, ih hs]
    rfl

/-- Letters and digits have no entities. -/
theorem isUnescaped_of_isWord {s : Text} (h : IsWord s) : IsUnescaped s := by
  intro c hc
  rcases escapeChar_cases c with hsame | ⟨hspecial, -⟩
  · exact hsame
  · have hnone : ∀ d ∈ ['&', '<', '>', '"'], Char.isAlphanum d = false :=
      List.all_iff_forall_prop.1 (by decide)
    exact absurd hc (h.notMem (hnone c hspecial))

/-- Escaping keeps the beginning of a text, as far as it has no entities. -/
theorem startsWith_escape_of_isUnescaped {lead : Text} (h : IsUnescaped lead) (s : Text) :
    startsWith (escape s) lead = startsWith s lead := by
  induction lead generalizing s with
  | nil => rfl
  | cons p lead ih =>
    obtain ⟨hp, hlead⟩ := List.forall_mem_cons.1 h
    cases s with
    | nil => rfl
    | cons c s =>
      rcases escapeChar_cases c with hc | ⟨hspecial, name, -, hc⟩
      · rw [escape_cons, hc, List.singleton_append]
        by_cases hpc : p = c
        · simpa [startsWith, dropLead?, hpc] using ih hlead s
        · simp [startsWith, dropLead?, hpc]
      · -- The lead begins neither with the character nor with its entity.
        have hpc : c ≠ p := by
          rintro rfl
          rw [hp] at hc
          obtain ⟨rfl, -⟩ := List.cons.inj hc
          exact absurd hp (by decide)
        have hamp : '&' ≠ p := by
          rintro rfl
          exact absurd hp (by decide)
        rw [escape_cons, hc, List.cons_append, startsWith_cons_of_ne hamp,
          startsWith_cons_of_ne hpc]

/-- Escaping keeps the parts of a text that have no entities and do not begin as one goes on. -/
theorem hasPart_escape {p : Char} {part : Text} (h : IsUnescaped (p :: part))
    (hp : p ∉ "amp;lt;gt;quot;".toList) (s : Text) :
    hasPart (p :: part) (escape s) = hasPart (p :: part) s := by
  induction s with
  | nil => rfl
  | cons c s ih =>
    have hstarts := startsWith_escape_of_isUnescaped h (c :: s)
    rcases escapeChar_cases c with hc | ⟨hspecial, name, hname, hc⟩
    · rw [escape_cons, hc, List.singleton_append] at hstarts ⊢
      rw [hasPart_cons, hasPart_cons, hstarts, ih]
    · have hplain := (List.forall_mem_cons.1 h).1
      have hpc : c ≠ p := by
        rintro rfl
        rw [hplain] at hc
        obtain ⟨rfl, -⟩ := List.cons.inj hc
        exact absurd hplain (by decide)
      have hamp : p ≠ '&' := by
        rintro rfl
        exact absurd hplain (by decide)
      have hentity : p ∉ '&' :: name := by
        rw [List.mem_cons, not_or]
        refine ⟨hamp, fun hmem => hp ?_⟩
        have hsub : ∀ name ∈ entityNames, name ⊆ "amp;lt;gt;quot;".toList := by decide
        exact hsub name hname hmem
      rw [escape_cons, hc, hasPart_append_of_notMem hentity, ih, hasPart_cons,
        startsWith_cons_of_ne hpc, Bool.false_or]

/-- No entity of an apostrophe is written. -/
theorem hasPart_apostrophe_escape (s : Text) : hasPart "&#39;".toList (escape s) = false := by
  have hpart : "&#39;".toList = '&' :: "#39;".toList := by decide
  have hnames : ∀ name ∈ entityNames, '&' ∉ name ∧ name ≠ [] ∧ name.head? ≠ some '#' := by
    decide
  rw [hpart]
  induction s with
  | nil => rfl
  | cons c s ih =>
    rcases escapeChar_cases c with hc | ⟨-, name, hname, hc⟩
    · have hamp : c ≠ '&' := by
        rintro rfl
        exact absurd hc (by decide)
      rw [escape_cons, hc, List.singleton_append, hasPart_cons, startsWith_cons_of_ne hamp, ih]
      rfl
    · obtain ⟨hamp, hne, hhead⟩ := hnames name hname
      obtain ⟨d, rest, rfl⟩ := List.exists_cons_of_ne_nil hne
      have hd : d ≠ '#' := by simpa using hhead
      have hstarts : startsWith ('&' :: (d :: rest ++ escape s)) ('&' :: "#39;".toList) = false :=
        startsWith_cons_of_ne hd _ _
      rw [escape_cons, hc, List.cons_append, hasPart_cons, hstarts,
        hasPart_append_of_notMem hamp, ih]
      rfl

/-- A character that is in no entity is written only where it was. -/
theorem notMem_escape {c : Char} (hentity : ∀ name ∈ entityNames, c ∉ '&' :: name) {s : Text}
    (h : c ∉ s) : c ∉ escape s := by
  intro hmem
  obtain ⟨d, hd, hc⟩ := List.mem_flatMap.1 hmem
  rcases escapeChar_cases d with hsame | ⟨-, name, hname, hsame⟩
  · rw [hsame, List.mem_singleton] at hc
    exact h (hc ▸ hd)
  · rw [hsame] at hc
    exact hentity name hname hc

/-! ### Escaping as a replacement -/

/-- How characters are escaped for running text and attributes. -/
def escapeRules : List Rule :=
  [{ old := ['&'], new := "&amp;".toList }, { old := ['<'], new := "&lt;".toList },
    { old := ['>'], new := "&gt;".toList }, { old := ['"'], new := "&quot;".toList }]

theorem escape_eq_substitute : escape = substitute (claim escapeRules) := by
  have hfree : PrefixFree escapeRules := by decide
  refine funext fun s => (hfree.substitute_eq_flatMap (by decide) (fun c => ?_) s).symm
  rcases escapeChar_cases c with hc | ⟨hc, -⟩
  · exact .inl hc
  · have hrules : ∀ c ∈ ['&', '<', '>', '"'], ∃ rule ∈ escapeRules, rule.old = [c] :=
      List.all_iff_forall_prop.1 (by decide)
    exact .inr (hrules c hc)

/-- How quotes are decoded. -/
def quoteRule : Rule :=
  { old := "&quot;".toList, new := ['"'] }

/-- How apostrophes are decoded. -/
def apostropheRule : Rule :=
  { old := "&#39;".toList, new := ['\''] }

theorem decodeApostrophes_eq_substitute :
    decodeApostrophes = substitute (claim [apostropheRule]) :=
  replaceAll_eq_substitute apostropheRule

/-! ### Code blocks -/

/-- The entities of a code block, each with its character. -/
def codeEntityRules : List Rule :=
  [{ old := "&lt;".toList, new := ['<'] }, { old := "&gt;".toList, new := ['>'] }, quoteRule,
    apostropheRule]

/-- The entities of a code block. -/
def codeEntities : List Text :=
  ["&lt;".toList, "&gt;".toList, "&quot;".toList, "&#39;".toList]

/-- How characters are escaped for a code block. -/
def codeRules : List Rule :=
  codeEntityRules.map Rule.flip

/-- Turn the entities of a code block back into their characters, all in one pass. -/
def decodeCode (s : Text) : Text :=
  substitute (claim codeEntityRules) s

theorem escapeCode_eq_substitute (s : Text) : escapeCode s = substitute (claim codeRules) s := by
  have halone : codeRules.Pairwise Rule.LeavesAlone := by decide
  exact foldl_replaceAll halone s

theorem escapeCode_eq_flatMap (s : Text) : escapeCode s = s.flatMap escapeCodeChar := by
  have hfree : PrefixFree codeRules := by decide
  have hkept (c : Char) : escapeCodeChar c = [c] ∨ ∃ rule ∈ codeRules, rule.old = [c] := by
    unfold escapeCodeChar
    split
    · exact .inr (by decide)
    · exact .inr (by decide)
    · exact .inr (by decide)
    · exact .inr (by decide)
    · exact .inl rfl
  rw [escapeCode_eq_substitute]
  exact hfree.substitute_eq_flatMap (by decide) hkept s

/-- Escaping for a code block is one pass over the characters. It goes through both parts of a text
    apart, leaves none of the characters that it escapes, and changes nothing a second time. Decoding
    gives the same after it as before it, so the text itself if that has none of the entities. -/
theorem escapeCode_simultaneous (s : Text) :
    escapeCode s = s.flatMap escapeCodeChar ∧
      (∀ t, escapeCode (s ++ t) = escapeCode s ++ escapeCode t) ∧
      List.Disjoint (escapeCode s) ['<', '>', '"', '\''] ∧
      escapeCode (escapeCode s) = escapeCode s ∧
      decodeCode (escapeCode s) = decodeCode s ∧
      (decodeCode (escapeCode s) = s ↔ ¬ HasOneOf codeEntities s) := by
  have hescape : Settled codeRules := by decide
  have hdecode : Settled codeEntityRules := by decide
  have hback : decodeCode (escapeCode s) = decodeCode s := by
    rw [escapeCode_eq_substitute]
    exact hdecode.substitute_flip (by decide) (List.forall_mem_map.2 fun _ hrule => hrule) s
  refine ⟨escapeCode_eq_flatMap s, fun t => ?_, fun c hc hspecial => ?_, ?_, hback, ?_⟩
  · rw [escapeCode_eq_flatMap, escapeCode_eq_flatMap s, escapeCode_eq_flatMap t,
      List.flatMap_append]
  · have hold : ∀ c ∈ ['<', '>', '"', '\''], [c] ∈ codeRules.map Rule.old :=
      List.all_iff_forall_prop.1 (by decide)
    rw [escapeCode_eq_substitute] at hc
    exact hescape.not_hasOneOf s ⟨[c], hold c hspecial, (List.singleton_infix_iff c _).2 hc⟩
  · rw [escapeCode_eq_substitute, escapeCode_eq_substitute s, hescape.idempotent]
  · have hentities : codeEntities = codeEntityRules.map Rule.old := by decide
    rw [hback, hentities]
    exact hdecode.substitute_eq_self_iff

-- An entity that the text has of its own is decoded with those that escaping writes.
example : escapeCode "<b> &lt;\'\"".toList = "&lt;b&gt; &lt;&#39;&quot;".toList ∧
    decodeCode "&lt;b&gt; &lt;&#39;&quot;".toList = "<b> <\'\"".toList := by decide

end Docpress.Html
