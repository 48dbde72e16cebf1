import Docpress.Html.Escape
import Docpress.Proofs.Text.Alphanum
/-!
HTML whose angle brackets and double quotes all delimit: a `<` begins a tag, the next `>` ends it,
and double quotes stand in tags only, where they come in pairs around attribute values.
-/

namespace Docpress.Html

/-- Where a place in HTML lies: between tags, in a tag, or in the value of an attribute. -/
inductive Spot where
  | text
  | tag
  | value
deriving DecidableEq, Repr

/-- Where the place after a character lies, unless the character may not stand there. -/
def Spot.next : Spot → Char → Option Spot
  | .text, c =>
    if c == '<' then some .tag else if c == '>' || c == '"' then none else some .text
  | .tag, c =>
    if c == '>' then some .text else if c == '"' then some .value
    else if c == '<' then none else some .tag
  | .value, c => if c == '"' then some .tag else if c == '<' || c == '>' then none else some .value

/-- Where the place after a text lies, unless one of its characters may not stand where it does. -/
def Spot.walk : Spot → Text → Option Spot
  | spot, [] => some spot
  | spot, c :: s => (spot.next c).bind fun spot => spot.walk s

/-- The text begins and ends between tags, and its tags are well formed. -/
def IsMarkup (html : Text) : Prop :=
  Spot.walk .text html = some .text

/-- The text stands in a tag as a name or as attributes. -/
def IsTagInner (s : Text) : Prop :=
  Spot.walk .tag s = some .tag

/-- The text holds no character that delimits tags or attribute values. -/
def IsPlain (s : Text) : Prop :=
  ∀ c ∈ s, c ≠ '<' ∧ c ≠ '>' ∧ c ≠ '"'

instance (s : Text) : Decidable (IsMarkup s) := inferInstanceAs (Decidable (_ = _))

instance (s : Text) : Decidable (IsTagInner s) := inferInstanceAs (Decidable (_ = _))

instance (s : Text) : Decidable (IsPlain s) :=
  List.decidableBAll (fun c => c ≠ '<' ∧ c ≠ '>' ∧ c ≠ '"') s

variable {s t : Text}

theorem Spot.walk_append (spot : Spot) (s t : Text) :
    spot.walk (s ++ t) = (spot.walk s).bind fun spot => spot.walk t := by
  induction s generalizing spot with
  | nil => rfl
  | cons c s ih =>
    rw [List.cons_append, walk, walk]
    cases spot.next c with
    | none => rfl
    | some spot => exact ih spot

theorem isPlain_of_isWord (h : Text.IsWord s) : IsPlain s := by
  intro c hc
  refine ⟨?_, ?_, ?_⟩ <;>
    · rintro rfl
      exact h.notMem rfl hc

theorem IsPlain.append (hs : IsPlain s) (ht : IsPlain t) : IsPlain (s ++ t) :=
  List.forall_mem_append.2 ⟨hs, ht⟩

theorem IsPlain.walk (hs : IsPlain s) (spot : Spot) : spot.walk s = some spot := by
  induction s with
  | nil => rfl
  | cons c s ih =>
    obtain ⟨⟨hopen, hclose, hquote⟩, hs⟩ := List.forall_mem_cons.1 hs
    have hnext : spot.next c = some spot := by
      cases spot <;> simp [Spot.next, hopen, hclose, hquote]
    rw [Spot.walk, hnext]
    exact ih hs

theorem IsPlain.isMarkup (hs : IsPlain s) : IsMarkup s :=
  hs.walk .text

theorem IsPlain.isTagInner (hs : IsPlain s) : IsTagInner s :=
  hs.walk .tag

theorem IsMarkup.append (hs : IsMarkup s) (ht : IsMarkup t) : IsMarkup (s ++ t) := by
  rw [IsMarkup, Spot.walk_append, hs]
  exact ht

theorem IsMarkup.flatMap {α : Type} {f : α → Text} {l : List α} (h : ∀ a ∈ l, IsMarkup (f a)) :
    IsMarkup (l.flatMap f) := by
  induction l with
  | nil => rfl
  | cons a l ih =>
    obtain ⟨ha, hl⟩ := List.forall_mem_cons.1 h
    rw [List.flatMap_cons]
    exact ha.append (ih hl)

theorem IsTagInner.append (hs : IsTagInner s) (ht : IsTagInner t) : IsTagInner (s ++ t) := by
  rw [IsTagInner, Spot.walk_append, hs]
  exact ht

/-- A tag with something well formed after it. -/
theorem IsTagInner.isMarkup (hs : IsTagInner s) (ht : IsMarkup t) :
    IsMarkup ('<' :: s ++ '>' :: t) := by
  have hopen : Spot.walk .text ('<' :: s ++ '>' :: t) = Spot.walk .tag (s ++ '>' :: t) := rfl
  rw [IsMarkup, hopen, Spot.walk_append, hs]
  exact ht

/-- A quoted attribute value. -/
theorem IsPlain.isTagInner_quoted (hs : IsPlain s) : IsTagInner ('"' :: s ++ ['"']) := by
  have hopen : Spot.walk .tag ('"' :: s ++ ['"']) = Spot.walk .value (s ++ ['"']) := rfl
  rw [IsTagInner, hopen, Spot.walk_append, hs.walk]
  rfl

/-- Escaped text holds nothing that delimits. -/
theorem escape_isPlain (s : Text) : IsPlain (escape s) := by
  intro d hd
  obtain ⟨c, -, hd⟩ := List.mem_flatMap.1 hd
  have hentity : ∀ entity ∈ ["&amp;", "&lt;", "&gt;", "&quot;"], IsPlain entity.toList := by
    decide
  unfold escapeChar at hd
  split at hd
  · exact hentity "&amp;" (by simp) d hd
  · exact hentity "&lt;" (by simp) d hd
  · exact hentity "&gt;" (by simp) d hd
  · exact hentity "&quot;" (by simp) d hd
  · rename_i hopen hclose hquote
    rw [List.mem_singleton.1 hd]
    exact ⟨hopen, hclose, hquote⟩

end Docpress.Html
