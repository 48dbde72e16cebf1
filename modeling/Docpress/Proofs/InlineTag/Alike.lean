import Docpress.Proofs.InlineTag.Spoil
/-!
Texts that differ only where neither HTML nor inline tags have a meaning. What is spoilt in one of
them is spoilt in the other.
-/

namespace Docpress.InlineTag

open Html

/-- The characters that delimit regions, inline tags and attributes. -/
def isMark (c : Char) : Bool :=
  "<>\x7b\x7d@\"\r\n".toList.contains c

/-- A text that holds no mark and in which no entity of a quote begins or goes on. -/
structure IsInert (s : Text) : Prop where
  marks : s.all (!isMark ·) = true
  head : s.head?.any (!quoteEntity.tail.contains ·) = true
  ampersand : ∀ i < s.length, s[i]? = some '&' → s[i + 1]? = some '#'

instance (s : Text) : Decidable (IsInert s) :=
  decidable_of_iff (s.all (!isMark ·) = true ∧
      s.head?.any (!quoteEntity.tail.contains ·) = true ∧
        ∀ i < s.length, s[i]? = some '&' → s[i + 1]? = some '#')
    ⟨fun ⟨hmarks, hhead, hampersand⟩ => ⟨hmarks, hhead, hampersand⟩,
      fun h => ⟨h.marks, h.head, h.ampersand⟩⟩

theorem IsInert.notMem {s : Text} {c : Char} (h : IsInert s) (hc : isMark c = true) :
    c ∉ s := by
  intro hmem
  have hplain := List.all_eq_true.1 h.marks c hmem
  simp [hc] at hplain

theorem IsInert.exists_cons {s : Text} (h : IsInert s) :
    ∃ c rest, s = c :: rest ∧ c ∉ quoteEntity.tail := by
  have hhead := h.head
  cases s with
  | nil => cases hhead
  | cons c rest => exact ⟨c, rest, rfl, by simpa using hhead⟩

/-- One text results from the other when inert pieces are exchanged. -/
inductive Alike : Text → Text → Prop where
  | nil : Alike [] []
  | keep {s t} (c : Char) (h : Alike s t) : Alike (c :: s) (c :: t)
  | swap {s t old new} (hold : IsInert old) (hnew : IsInert new) (h : Alike s t) :
      Alike (old ++ s) (new ++ t)

theorem Alike.symm {s t : Text} (h : Alike s t) : Alike t s := by
  induction h with
  | nil => exact .nil
  | keep c _ ih => exact .keep c ih
  | swap hold hnew _ ih => exact .swap hnew hold ih

/-- A mark, or a character that goes on an entity, begins no inert text. -/
theorem Alike.of_cons {c : Char} {s t : Text} (h : Alike (c :: s) t)
    (hc : isMark c = true ∨ c ∈ quoteEntity.tail) : ∃ t', t = c :: t' ∧ Alike s t' := by
  generalize hs : c :: s = whole at h
  cases h with
  | nil => cases hs
  | keep d h =>
    obtain ⟨rfl, rfl⟩ := List.cons.inj hs
    exact ⟨_, rfl, h⟩
  | @swap _ _ old _ hold _ _ =>
    obtain ⟨d, rest, rfl, hd⟩ := hold.exists_cons
    obtain ⟨rfl, -⟩ := List.cons.inj hs
    obtain hc | hc := hc
    · exact absurd List.mem_cons_self (hold.notMem hc)
    · exact absurd hc hd

theorem Alike.of_append {mid s t : Text} (h : Alike (mid ++ s) t)
    (hmid : ∀ c ∈ mid, c ∈ quoteEntity.tail) : ∃ t', t = mid ++ t' ∧ Alike s t' := by
  induction mid generalizing t with
  | nil => exact ⟨t, rfl, h⟩
  | cons c mid ih =>
    obtain ⟨t₁, rfl, hafter⟩ := h.of_cons (.inr (hmid c (by simp)))
    obtain ⟨t₂, rfl, hrest⟩ := ih hafter fun d hd => hmid d (by simp [hd])
    exact ⟨t₂, rfl, hrest⟩

/-- A character that cannot lie in an inert text, given what follows it, lies in both texts, with
    alike texts around it. -/
theorem Alike.split {a b t : Text} {c : Char} (h : Alike (a ++ c :: b) t)
    (hc : ∀ x y s, IsInert (x ++ c :: y) → y ++ s ≠ b) :
    ∃ a' b', t = a' ++ c :: b' ∧ Alike a a' ∧ Alike b b' := by
  generalize hs : a ++ c :: b = whole at h
  induction h generalizing a with
  | nil => simp at hs
  | @keep s t d h ih =>
    cases a with
    | nil =>
      obtain ⟨rfl, rfl⟩ := List.cons.inj hs
      exact ⟨[], t, rfl, .nil, h⟩
    | cons e a =>
      obtain ⟨rfl, htail⟩ := List.cons.inj hs
      obtain ⟨a', b', rfl, ha, hb⟩ := ih htail
      exact ⟨e :: a', b', rfl, .keep e ha, hb⟩
  | @swap s t old new hold hnew h ih =>
    obtain ⟨x, hold', hrest⟩ | ⟨x, rfl, hrest⟩ := List.append_eq_append_iff.1 hs
    · cases x with
      | nil =>
        obtain ⟨a', b', rfl, ha, hb⟩ := ih (a := []) hrest
        rw [List.append_nil] at hold'
        refine ⟨new ++ a', b', by simp, ?_, hb⟩
        rw [← hold', ← List.append_nil old]
        exact .swap hold hnew ha
      | cons d x =>
        obtain ⟨rfl, htail⟩ := List.cons.inj hrest
        rw [hold'] at hold
        exact absurd htail.symm (hc a x s hold)
    · obtain ⟨a', b', rfl, ha, hb⟩ := ih hrest.symm
      exact ⟨new ++ a', b', by simp, .swap hold hnew ha, hb⟩

/-- The two texts have the same marks, with alike texts around them. -/
theorem Alike.split_mark {a b t : Text} {c : Char} (h : Alike (a ++ c :: b) t)
    (hc : isMark c = true) : ∃ a' b', t = a' ++ c :: b' ∧ Alike a a' ∧ Alike b b' := by
  refine h.split fun x y s hinert => ?_
  exact absurd (by simp) (hinert.notMem hc)

/-- The two texts have the same entities of quotes, with alike texts around them. -/
theorem Alike.split_entity {a b t : Text} (h : Alike (a ++ quoteEntity ++ b) t) :
    ∃ a' b', t = a' ++ quoteEntity ++ b' ∧ Alike a a' ∧ Alike b b' := by
  have hentity : quoteEntity ++ b = '&' :: (quoteEntity.tail ++ b) := rfl
  rw [List.append_assoc, hentity] at h
  -- In an inert text only a number follows an ampersand.
  have hc : ∀ x y s, IsInert (x ++ '&' :: y) → y ++ s ≠ quoteEntity.tail ++ b := by
    intro x y s hinert heq
    have hnumber := hinert.ampersand x.length (by simp) (by simp)
    rw [List.getElem?_append_right (by simp), Nat.add_sub_cancel_left] at hnumber
    cases y with
    | nil => simp at hnumber
    | cons d y =>
      obtain rfl : d = 'q' := (List.cons.inj heq).1
      simp at hnumber
  obtain ⟨a', rest, rfl, ha, hrest⟩ := h.split hc
  obtain ⟨b', rfl, hb⟩ := hrest.of_append fun c hc => hc
  exact ⟨a', b', by rw [List.append_assoc]; rfl, ha, hb⟩

/-! ### What alike texts share -/

theorem Alike.mem {s t : Text} {c : Char} (h : Alike s t) (hc : isMark c = true)
    (hmem : c ∈ s) : c ∈ t := by
  obtain ⟨a, b, rfl⟩ := List.append_of_mem hmem
  obtain ⟨a', b', rfl, -, -⟩ := h.split_mark hc
  simp

theorem Alike.isBody {s t : Text} (h : Alike s t) (hs : ∀ c ∈ s, isBody c = true) :
    ∀ c ∈ t, isBody c = true := by
  intro c hc
  cases hbody : InlineTag.isBody c with
  | true => rfl
  | false =>
    have hmark : isMark c = true := by
      have hcases : c = '}' ∨ c = '\r' ∨ c = '\n' := by
        simpa [InlineTag.isBody, Decidable.or_iff_not_imp_left] using hbody
      obtain rfl | rfl | rfl := hcases <;> rfl
    exact absurd (hs c (h.symm.mem hmark hc)) (by simp [hbody])

theorem Alike.opens {s t : Text} (h : Alike s t) (hs : Opens s) : Opens t := by
  obtain ⟨start, body, rfl, hbody⟩ := hs
  obtain ⟨start', rest, rfl, -, hrest⟩ := h.split_mark rfl
  obtain ⟨body', rfl, hbody'⟩ := hrest.of_cons (.inl rfl)
  exact ⟨start', body', rfl, hbody'.isBody hbody⟩

theorem Alike.closes {s t : Text} (h : Alike s t) (hs : Closes s) : Closes t := by
  obtain ⟨body, rest, rfl, hbody⟩ := hs
  obtain ⟨body', rest', rfl, hbody', -⟩ := h.split_mark rfl
  exact ⟨body', rest', rfl, hbody'.isBody hbody⟩

theorem Alike.opensRegion {s t : Text} (h : Alike s t) (hs : OpensRegion s) :
    OpensRegion t := by
  obtain ⟨start, inner, rfl, hinner⟩ := hs
  obtain ⟨start', inner', rfl, -, hinner'⟩ := h.split_mark rfl
  exact ⟨start', inner', rfl, fun hmem => hinner (hinner'.symm.mem rfl hmem)⟩

theorem Alike.spoils {s t : Text} (h : Alike s t) (hs : Spoils s) : Spoils t := by
  obtain ⟨before, after, rfl, ⟨hregion, hend⟩, hopens, hcloses⟩ := hs
  obtain ⟨before', after', rfl, hbefore, hafter⟩ := h.split_entity
  exact ⟨before', after', rfl, ⟨hbefore.opensRegion hregion, hafter.mem rfl hend⟩,
    hbefore.opens hopens, hafter.closes hcloses⟩

theorem Alike.spoils_iff {s t : Text} (h : Alike s t) : Spoils s ↔ Spoils t :=
  ⟨h.spoils, h.symm.spoils⟩

theorem Alike.quotesFrom {s t : Text} (h : Alike s t) (region : Option Text) :
    quotesFrom region s = quotesFrom region t := by
  induction h generalizing region with
  | nil => rfl
  | keep c _ ih => exact quotesFrom_cons_congr ih c region
  | @swap s t old new hold hnew h ih =>
    cases region with
    | none =>
      rw [quotesFrom_none_append (hold.notMem rfl), quotesFrom_none_append (hnew.notMem rfl), ih]
    | some region =>
      rw [quotesFrom_some_append (hold.notMem rfl), quotesFrom_some_append (hnew.notMem rfl), ih]
      refine quotesFrom_some_congr ?_ t
      rw [List.count_append, List.count_append, List.count_reverse, List.count_reverse,
        List.count_eq_zero_of_not_mem (hold.notMem rfl),
        List.count_eq_zero_of_not_mem (hnew.notMem rfl)]

/-- Replacing inert texts by inert ones gives an alike text. -/
theorem alike_substitute {find : Text → Option (Text × Nat)}
    (hfind : ∀ here new more, find here = some (new, more) → ∃ old, IsInert old ∧ IsInert new ∧
      Text.startsWith here old = true ∧ more = old.length - 1) (s : Text) :
    Alike s (Text.substitute find s) := by
  refine Text.substitute_induction (motive := Alike) .nil (fun c _ _ ih => .keep c ih)
    (fun c s new more hclaim ih => ?_) s
  obtain ⟨old, hold, hnew, hstarts, rfl⟩ := hfind _ new more hclaim
  obtain ⟨d, tail, rfl, -⟩ := hold.exists_cons
  obtain ⟨rest, hs⟩ := Text.startsWith_iff.1 hstarts
  rw [List.cons_append] at hs
  obtain ⟨rfl, rfl⟩ := List.cons.inj hs
  rw [List.length_cons, Nat.add_sub_cancel, List.drop_left] at ih ⊢
  exact .swap hold hnew ih

end Docpress.InlineTag
