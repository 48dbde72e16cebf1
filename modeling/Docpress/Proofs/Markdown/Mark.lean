import Docpress.Markdown.Delimiter
import Docpress.Proofs.Url.Masked
/-!
Putting emphasis in place moves marks only. Every other piece of a scope stays where it is, if the
delimiters of the scope are pieces of text.
-/

namespace Docpress.Markdown

open Url

/-- The piece is text without markers, such as a mark, or emphasis that has been made of one. -/
def Span.IsMark : Span → Prop
  | .text s => IsClear s
  | .openEmphasis _ => True
  | .closeEmphasis _ => True
  | _ => False

/-- A mark stands at a place among pieces. -/
def IsMarkAt (spans : Array Span) (i : Nat) : Prop :=
  ∃ s, spans[i]? = some s ∧ s.IsMark

/-- The pieces are the same, but marks may have become other marks. -/
def SameButMarks (before after : Array Span) : Prop :=
  ∀ i : Nat, after[i]? = before[i]? ∨ (IsMarkAt before i ∧ IsMarkAt after i)

/-- The places of all delimiters satisfy `P`. -/
def HasTokens (P : Nat → Prop) (delimiters : Array Delimiter) : Prop :=
  ∀ d ∈ delimiters, P d.token

variable {P : Nat → Prop} {delimiters : Array Delimiter} {before spans : Array Span}

/-! ### Pairing -/

theorem HasTokens.modify (h : HasTokens P delimiters) {f : Delimiter → Delimiter}
    (hf : ∀ d, (f d).token = d.token) (i : Nat) : HasTokens P (delimiters.modify i f) := by
  intro d hd
  obtain ⟨j, hj⟩ := Array.mem_iff_getElem?.1 hd
  rw [Array.getElem?_modify] at hj
  split at hj
  · obtain ⟨e, he, rfl⟩ := Option.map_eq_some_iff.1 hj
    rw [hf]
    exact h e (Array.mem_of_getElem? he)
  · exact h d (Array.mem_of_getElem? hj)

theorem HasTokens.pair {p : Pairing} (h : HasTokens P p.delimiters) (opener closer : Nat) :
    HasTokens P (p.pair opener closer).delimiters :=
  (h.modify (f := fun d => { d with opens := false }) (fun _ => rfl) closer).modify
    (f := fun d => { d with stop := some closer, closes := false }) (fun _ => rfl) opener

theorem HasTokens.step {p : Pairing} (h : HasTokens P p.delimiters) (k : Nat)
    (closer : Delimiter) : HasTokens P (p.step k closer).delimiters := by
  unfold Pairing.step
  dsimp only
  split
  · exact h
  · split
    · exact HasTokens.pair h _ k
    · exact h

theorem HasTokens.run {p : Pairing} (h : HasTokens P p.delimiters) (fuel k : Nat) :
    HasTokens P (Pairing.run fuel k p).delimiters := by
  induction fuel generalizing k p with
  | zero => exact h
  | succ fuel ih =>
    rw [Pairing.run]
    split
    · exact ih (h.step _ _) _
    · exact h

theorem HasTokens.pairDelimiters (h : HasTokens P delimiters) :
    HasTokens P (pairDelimiters delimiters) :=
  HasTokens.run (p := { delimiters }) h _ _

/-! ### Placing -/

namespace SameButMarks

theorem refl (spans : Array Span) : SameButMarks spans spans :=
  fun _ => .inl rfl

theorem isMarkAt_iff (h : SameButMarks before spans) (i : Nat) :
    IsMarkAt spans i ↔ IsMarkAt before i := by
  rcases h i with hsame | ⟨hbefore, hafter⟩
  · rw [IsMarkAt, hsame]
    exact Iff.rfl
  · exact ⟨fun _ => hbefore, fun _ => hafter⟩

theorem set (h : SameButMarks before spans) {i : Nat} (hi : IsMarkAt before i) {s : Span}
    (hs : s.IsMark) : SameButMarks before (spans.setIfInBounds i s) := by
  intro j
  rw [IsMarkAt.eq_def (spans.setIfInBounds i s), Array.getElem?_setIfInBounds]
  split
  · rename_i heq
    subst heq
    obtain ⟨old, hold, -⟩ := (h.isMarkAt_iff i).2 hi
    obtain ⟨hlt, -⟩ := Array.getElem?_eq_some_iff.1 hold
    rw [if_pos hlt]
    exact .inr ⟨hi, s, rfl, hs⟩
  · exact h j

theorem placeStrike {opener : Delimiter} {pieces : Array Span × List Nat}
    (hdelimiters : HasTokens (IsMarkAt before) delimiters) (hopener : IsMarkAt before opener.token)
    (h : SameButMarks before pieces.1 ∧ ∀ i ∈ pieces.2, IsMarkAt before i) :
    SameButMarks before (Markdown.placeStrike delimiters pieces opener).1 ∧
      ∀ i ∈ (Markdown.placeStrike delimiters pieces opener).2, IsMarkAt before i := by
  unfold Markdown.placeStrike
  split
  · rename_i closer hcloser
    obtain ⟨stop, -, hstop⟩ := Option.bind_eq_some_iff.1 hcloser
    have hcloser := hdelimiters closer (Array.mem_of_getElem? hstop)
    split
    · have hplaced : SameButMarks before ((pieces.1.setIfInBounds opener.token
          (.openEmphasis .strike)).setIfInBounds closer.token (.closeEmphasis .strike)) :=
        (h.1.set hopener (by trivial)).set hcloser (by trivial)
      dsimp only
      split
      · rename_i hodd
        refine ⟨hplaced, List.forall_mem_cons.2 ⟨?_, h.2⟩⟩
        have hodd := eq_of_beq (Bool.and_eq_true_iff.1 hodd).2
        exact (hplaced.isMarkAt_iff _).1 ⟨_, hodd, (by decide : IsClear ['~'])⟩
      · exact ⟨hplaced, h.2⟩
    · exact h
  · exact h

theorem lastStrikeClose_isMarkAt {fuel i : Nat} (h : IsMarkAt spans (i - 1)) :
    IsMarkAt spans (lastStrikeClose spans fuel i) := by
  induction fuel generalizing i with
  | zero => exact h
  | succ fuel ih =>
    rw [lastStrikeClose]
    split
    · rename_i hclose
      exact ih ⟨_, eq_of_beq hclose, trivial⟩
    · exact h

theorem moveOddMark (h : SameButMarks before spans) {i : Nat} (hi : IsMarkAt before i) :
    SameButMarks before (Markdown.moveOddMark spans i) := by
  have hlast : IsMarkAt spans (lastStrikeClose spans spans.size (i + 1)) :=
    lastStrikeClose_isMarkAt ((h.isMarkAt_iff i).2 hi)
  unfold Markdown.moveOddMark
  dsimp only
  split
  · rename_i a b ha hb
    obtain ⟨a', ha', hmark⟩ := (h.isMarkAt_iff i).2 hi
    obtain rfl := Option.some.inj (ha.symm.trans ha')
    have hj := (h.isMarkAt_iff _).1 hlast
    obtain ⟨b', hb', hmark'⟩ := hlast
    obtain rfl := Option.some.inj (hb.symm.trans hb')
    exact (h.set hj hmark).set hi hmark'
  · exact h

theorem placeEmphasis (hdelimiters : HasTokens (IsMarkAt before) delimiters) (k : Nat)
    (h : SameButMarks before spans) :
    SameButMarks before (Markdown.placeEmphasis delimiters k spans) := by
  induction k generalizing delimiters spans with
  | zero => exact h
  | succ k ih =>
    rw [Markdown.placeEmphasis]
    split
    · rename_i opener hopener
      have hopener := hdelimiters opener (Array.mem_of_getElem? hopener)
      split
      · rename_i stop _
        split
        · rename_i closer hcloser
          have hcloser := hdelimiters closer (Array.mem_of_getElem? hcloser)
          split
          · have hplaced (kind : Emphasis) : SameButMarks before ((spans.setIfInBounds opener.token
                (.openEmphasis kind)).setIfInBounds closer.token (.closeEmphasis kind)) :=
              (h.set hopener (by trivial)).set hcloser (by trivial)
            dsimp only
            split
            · rename_i o n ho hn
              split
              · rename_i hstrong
                simp only [Bool.and_eq_true, beq_iff_eq] at hstrong
                obtain ⟨⟨-, houter⟩, hnext⟩ := hstrong
                have ho : IsMarkAt before (opener.token - 1) := by
                  split at ho
                  · cases ho
                  · rw [← houter, Nat.add_sub_cancel]
                    exact hdelimiters o (Array.mem_of_getElem? ho)
                have hn : IsMarkAt before (closer.token + 1) :=
                  hnext ▸ hdelimiters n (Array.mem_of_getElem? hn)
                refine ih (hdelimiters.modify (f := fun d => { d with stop := none })
                  (fun _ => rfl) _) ?_
                have hempty : Span.IsMark (.text []) := Text.Within.nil
                exact ((hplaced .strong).set ho hempty).set hn hempty
              · exact ih hdelimiters (hplaced .plain)
            · rw [if_neg Bool.false_ne_true]
              exact ih hdelimiters (hplaced .plain)
          · exact ih hdelimiters h
        · exact ih hdelimiters h
      · exact ih hdelimiters h
    · exact ih hdelimiters h

theorem eq_nil {after : List Span} (h : SameButMarks #[] after.toArray) : after = [] := by
  cases after with
  | nil => rfl
  | cons s after =>
    rcases h 0 with hsame | ⟨⟨_, hbefore, -⟩, -⟩
    · simp at hsame
    · simp at hbefore

/-- What becomes of the first of several pieces. -/
theorem exists_cons {s : Span} {rest after : List Span}
    (h : SameButMarks (s :: rest).toArray after.toArray) :
    ∃ t more, after = t :: more ∧ (t = s ∨ (s.IsMark ∧ t.IsMark)) ∧
      SameButMarks rest.toArray more.toArray := by
  have hmark {l : List Span} {i : Nat} :
      IsMarkAt l.toArray i ↔ ∃ s, l[i]? = some s ∧ s.IsMark := by
    simp [IsMarkAt]
  cases after with
  | nil =>
    rcases h 0 with hsame | ⟨-, _, hafter, -⟩
    · simp at hsame
    · simp at hafter
  | cons t more =>
    refine ⟨t, more, rfl, ?_, fun i => ?_⟩
    · rcases h 0 with hsame | ⟨hs, ht⟩
      · exact .inl (by simpa using hsame)
      · rw [hmark] at hs ht
        exact .inr (by simpa using And.intro hs ht)
    · rcases h (i + 1) with hsame | ⟨hs, ht⟩
      · exact .inl (by simpa using hsame)
      · rw [hmark] at hs ht ⊢
        exact .inr ⟨by simpa using hs, by simpa [hmark] using ht⟩

end SameButMarks

/-- Resolving emphasis keeps all pieces but marks, if the delimiters stand at marks. -/
theorem resolveEmphasis_same {spans : List Span} {delimiters : List Delimiter}
    (h : ∀ d ∈ delimiters, IsMarkAt spans.toArray d.token) :
    SameButMarks spans.toArray (resolveEmphasis spans delimiters).toArray := by
  unfold resolveEmphasis
  split
  · exact .refl _
  · have hpaired : HasTokens (IsMarkAt spans.toArray) (pairDelimiters delimiters.toArray) :=
      HasTokens.pairDelimiters fun d hd => h d (by simpa using hd)
    let before := spans.toArray
    let paired := pairDelimiters delimiters.toArray
    have hplaced : SameButMarks before
          (paired.toList.foldl (placeStrike paired) (before, [])).1 ∧
        ∀ i ∈ (paired.toList.foldl (placeStrike paired) (before, [])).2, IsMarkAt before i :=
      List.foldlRecOn paired.toList (placeStrike paired)
        (motive := fun pieces => SameButMarks before pieces.1 ∧
          ∀ i ∈ pieces.2, IsMarkAt before i)
        ⟨.refl _, List.forall_mem_nil _⟩ fun _ h opener hopener =>
          SameButMarks.placeStrike hpaired (hpaired opener (Array.mem_toList_iff.1 hopener)) h
    rw [Array.foldl_toList] at hplaced
    have hmoved := List.foldlRecOn (paired.foldl (placeStrike paired) (before, [])).2
      moveOddMark (motive := SameButMarks before) hplaced.1
      fun _ h i hi => h.moveOddMark (hplaced.2 i hi)
    exact SameButMarks.placeEmphasis hpaired _ hmoved

end Docpress.Markdown
