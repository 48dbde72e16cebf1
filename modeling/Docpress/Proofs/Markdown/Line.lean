import Docpress.Markdown.BlockStart
import Docpress.Proofs.Text.Within
/-!
What holds of a document's text and passes to the texts of its lines and cells. Reading lines only
ever cuts a text at places that no escape spans, and joins what it has cut with a few characters of
its own.
-/

namespace Docpress.Markdown

open Text

/-- A property of texts that reading lines and blocks keeps. It passes to the part of a text after
    any place, and to the part before a character that no backslash is written for. -/
structure Kept (P : Text → Prop) : Prop where
  nil : P []
  append {s t : Text} : P s → P t → P (s ++ t)
  right {s t : Text} : P (s ++ t) → P t
  left {s t : Text} {c : Char} (hc : c ≠ '_' ∧ c ≠ '/') : P (s ++ c :: t) → P s
  /-- A divided tab leaves spaces. -/
  space : P [' ']
  lineEnd : P ['\n']
  /-- In a table a bar that was escaped loses its backslash. -/
  bar {s t : Text} : P (s ++ '\\' :: '|' :: t) → P (s ++ '|' :: t)

namespace Kept

variable {P : Text → Prop} {s : Text}

theorem drop (hP : Kept P) (hs : P s) (n : Nat) : P (s.drop n) :=
  hP.right (s := s.take n) (by rwa [List.take_append_drop])

theorem replicate (hP : Kept P) (n : Nat) : P (List.replicate n ' ') := by
  induction n with
  | zero => exact hP.nil
  | succ n ih => exact hP.append hP.space ih

theorem flatMap {α : Type} {f : α → Text} {l : List α} (hP : Kept P) (h : ∀ a ∈ l, P (f a)) :
    P (l.flatMap f) := by
  induction l with
  | nil => exact hP.nil
  | cons a l ih =>
    obtain ⟨ha, hl⟩ := List.forall_mem_cons.1 h
    exact hP.append ha (ih hl)

/-- The cuts of a predicate are at no character that a backslash is written for. -/
def Cuts (q : Char → Bool) : Prop :=
  q '_' = false ∧ q '/' = false

instance (q : Char → Bool) : Decidable (Cuts q) :=
  inferInstanceAs (Decidable (_ ∧ _))

theorem Cuts.ne {q : Char → Bool} (hq : Cuts q) {c : Char} (hc : q c = true) :
    c ≠ '_' ∧ c ≠ '/' := by
  refine ⟨?_, ?_⟩
  · rintro rfl
    exact Bool.false_ne_true (hq.1.symm.trans hc)
  · rintro rfl
    exact Bool.false_ne_true (hq.2.symm.trans hc)

theorem trimEnd (hP : Kept P) {q : Char → Bool} (hq : Cuts q) (hs : P s) :
    P (Text.trimEnd q s) := by
  obtain ⟨cut, heq, hcut⟩ := trimEnd_append q s
  cases cut with
  | nil => rwa [List.append_nil, ← heq] at *
  | cons c cut =>
    rw [heq] at hs
    exact hP.left (hq.ne (hcut c (by simp))) hs

theorem trim (hP : Kept P) {q : Char → Bool} (hq : Cuts q) (hs : P s) : P (Text.trim q s) := by
  refine hP.trimEnd hq (hP.right (s := s.takeWhile q) ?_)
  rwa [trimStart, List.takeWhile_append_dropWhile]

theorem splitBy (hP : Kept P) {q : Char → Bool} (hq : Cuts q) (hs : P s) :
    ∀ piece ∈ Text.splitBy q s, P piece := by
  -- The first piece may have more of the text before it.
  have hall : ∀ u, P (u ++ s) → ∃ first rest, Text.splitBy q s = first :: rest ∧
      P (u ++ first) ∧ ∀ piece ∈ rest, P piece := by
    clear hs
    induction s with
    | nil => exact fun u hu => ⟨[], [], rfl, hu, List.forall_mem_nil _⟩
    | cons c s ih =>
      intro u hu
      cases hc : q c with
      | true =>
        obtain ⟨first, rest, hsplit, hfirst, hrest⟩ := ih [] (hP.right (s := u ++ [c]) (by simpa))
        refine ⟨[], _, splitBy_cons_of_pos hc s, ?_, ?_⟩
        · rw [List.append_nil]
          exact hP.left (hq.ne hc) hu
        · rw [hsplit]
          exact List.forall_mem_cons.2 ⟨hfirst, hrest⟩
      | false =>
        obtain ⟨first, rest, hsplit, hfirst, hrest⟩ := ih (u ++ [c]) (by simpa)
        obtain ⟨_, _, hsplit', hcons⟩ := splitBy_cons_of_not hc s
        obtain ⟨rfl, rfl⟩ := List.cons.inj (hsplit'.symm.trans hsplit)
        exact ⟨_, _, hcons, by simpa using hfirst, hrest⟩
  obtain ⟨first, rest, hsplit, hfirst, hrest⟩ := hall [] hs
  rw [hsplit]
  exact List.forall_mem_cons.2 ⟨hfirst, hrest⟩

end Kept

variable {P : Text → Prop}

/-! ### Lines -/

/-- The lines are made of the pieces. -/
theorem exists_of_mem_linesOfPieces {pieces : List Text} {l : Line}
    (h : l ∈ linesOfPieces pieces) :
    ∃ s ∈ pieces, ∃ ended, l = .ofText s ended := by
  induction pieces using linesOfPieces.induct with
  | case1 => cases h
  | case2 s hindent =>
    rw [linesOfPieces, if_pos hindent] at h
    cases h
  | case3 s hindent =>
    rw [linesOfPieces, if_neg hindent, List.mem_singleton] at h
    exact ⟨s, List.mem_cons_self, false, h⟩
  | case4 s rest hrest ih =>
    rw [linesOfPieces] at h
    · rcases List.mem_cons.1 h with rfl | h
      · exact ⟨s, List.mem_cons_self, true, rfl⟩
      · obtain ⟨t, ht, hl⟩ := ih h
        exact ⟨t, List.mem_cons_of_mem _ ht, hl⟩
    · exact hrest

theorem linesOfPieces_kept {pieces : List Text} (h : ∀ s ∈ pieces, P s) :
    ∀ l ∈ linesOfPieces pieces, P l.text := by
  intro l hl
  obtain ⟨s, hs, ended, rfl⟩ := exists_of_mem_linesOfPieces hl
  exact h s hs

theorem linesOf_kept (hP : Kept P) {source : Text} (h : P (normalize source)) :
    ∀ l ∈ linesOf source, P l.text :=
  linesOfPieces_kept (hP.splitBy (by decide) h)

theorem content_kept (hP : Kept P) {l : Line} (h : P l.text) : P l.content :=
  hP.drop h l.lead

theorem dropColumns_kept (hP : Kept P) (base width lead column : Nat) {s : Text} (hs : P s) :
    P (dropColumns base width lead column s) := by
  induction s generalizing lead column with
  | nil => exact hP.replicate _
  | cons c s ih =>
    have hrest : P s := hP.drop hs 1
    rw [dropColumns]
    split
    · exact hP.append (hP.replicate _) hs
    · split
      · exact ih _ _ hrest
      · split
        · exact ih _ _ hrest
        · exact hs

theorem dedentAll_kept (hP : Kept P) (width : Nat) {lines : List Line}
    (h : ∀ l ∈ lines, P l.text) : P (dedentAll width lines) := by
  refine hP.flatMap fun l hl => hP.append (dropColumns_kept hP _ _ _ _ (h l hl)) ?_
  split
  · exact hP.lineEnd
  · exact hP.nil

theorem dropLastEnd_kept (hP : Kept P) {s : Text} (hs : P s) : P (dropLastEnd s) := by
  unfold dropLastEnd
  split
  · rename_i hlast
    obtain ⟨front, rfl⟩ := List.getLast?_eq_some_iff.1 (eq_of_beq hlast)
    rw [List.dropLast_concat]
    exact hP.left (by decide) hs
  · exact hs

/-! ### Tables and headings -/

/-- A cell that is being read and the rest of its row are one text with the property. -/
theorem splitRow_kept (hP : Kept P) (escaped : Bool) {current row : Text}
    (hescaped : escaped = true → ∃ before, current = '\\' :: before)
    (h : P (current.reverse ++ row)) : ∀ cell ∈ splitRow escaped current row, P cell := by
  induction row generalizing escaped current with
  | nil =>
    intro cell hcell
    rw [List.mem_singleton.1 hcell]
    rwa [List.append_nil] at h
  | cons c row ih =>
    rw [splitRow]
    split
    · rename_i hbar
      obtain rfl := eq_of_beq hbar
      split
      · rename_i hmark
        obtain ⟨before, rfl⟩ := hescaped hmark
        refine ih false (fun h => by cases h) ?_
        have hdropped : P (before.reverse ++ '|' :: row) := hP.bar (by simpa using h)
        simpa using hdropped
      · refine List.forall_mem_cons.2 ⟨hP.left (by decide) h, ih false (fun h => by cases h) ?_⟩
        exact hP.right (s := current.reverse ++ ['|']) (by simpa using h)
    · refine ih _ (fun hmark => ⟨current, ?_⟩) (by simpa using h)
      rw [eq_of_beq hmark]

theorem rowCells_kept (hP : Kept P) {row : Text} (hrow : P row) :
    ∀ cell ∈ rowCells row, P cell := by
  intro cell hcell
  obtain ⟨written, hwritten, rfl⟩ := List.mem_map.1 hcell
  have hcells : ∀ cell ∈ splitRow false [] row, P cell :=
    splitRow_kept hP false (fun h => by cases h) hrow
  refine hP.trim (by decide) (hcells written ?_)
  have hlast {cells : List Text} {s : Text}
      (h : s ∈ if cells.getLast? == some [] then cells.dropLast else cells) : s ∈ cells := by
    split at h
    · exact List.dropLast_subset cells h
    · exact h
  have hfirst := hlast hwritten
  split at hfirst
  · exact List.drop_subset 1 _ hfirst
  · exact hfirst

theorem heading?_kept (hP : Kept P) {scope : Scope} {l : Line} {level : Nat} {content : Text}
    (hl : P l.text) (h : heading? scope l = some (level, content)) : P content := by
  unfold heading? at h
  dsimp only at h
  split at h
  · cases h
  · obtain ⟨-, rfl⟩ := Prod.mk.inj (Option.some.inj h)
    have hrest := hP.drop (content_kept hP hl) (l.content.takeWhile (· == '#')).length
    refine hP.trim (by decide) ?_
    split
    · exact hP.trimEnd (by decide) (hP.trimEnd (by decide) hrest)
    · exact hP.trimEnd (by decide) hrest

theorem tableStart?_kept (hP : Kept P) {scope : Scope} {lines : List Line}
    {cells : List Text} {aligns : List (Option Alignment)} (hlines : ∀ l ∈ lines, P l.text)
    (h : tableStart? scope lines = some (cells, aligns)) : ∀ cell ∈ cells, P cell := by
  unfold tableStart? at h
  split at h
  · rename_i head second rest
    split at h
    · cases h
    · split at h
      · cases h
      · dsimp only at h
        split at h
        · obtain ⟨rfl, -⟩ := Prod.mk.inj (Option.some.inj h)
          exact rowCells_kept hP (hP.trim (by decide) (content_kept hP (hlines head (by simp))))
        · cases h
  · cases h

/-- A block of HTML begins with a `<`. -/
theorem exists_of_htmlStart? (hP : Kept P) {scope : Scope} {l : Line} {kind : Html.BlockStart}
    (hl : P l.text) (h : htmlStart? scope l = some kind) : ∃ rest, P ('<' :: rest) := by
  unfold htmlStart? at h
  split at h
  · cases h
  · unfold Html.blockStart? at h
    dsimp only at h
    split at h
    · cases h
    · rename_i hhead
      have hhead : l.content.head? = some '<' := by simpa using hhead
      obtain ⟨rest, hrest⟩ := List.head?_eq_some_iff.1 hhead
      exact ⟨rest, hrest ▸ content_kept hP hl⟩

/-! ### Characters -/

/-- A predicate holds of the characters that reading a document writes of its own: the spaces of a
    divided tab, line ends, the bars that were escaped in a table, and what replaces a null
    character. -/
structure HoldsOfOwn (p : Char → Prop) : Prop where
  space : p ' '
  lineEnd : p '\n'
  bar : p '|'
  replacement : p (Char.ofNat 0xFFFD)

variable {p : Char → Prop}

/-- To have all its characters within a set is a property of a text that is kept. -/
theorem HoldsOfOwn.kept (hown : HoldsOfOwn p) : Kept (Text.Within p) where
  nil := .nil
  append := .append
  right h := h.of_subset (List.subset_append_right _ _)
  left _ h := h.of_subset (List.subset_append_left _ _)
  space := within_cons.2 ⟨hown.space, .nil⟩
  lineEnd := within_cons.2 ⟨hown.lineEnd, .nil⟩
  bar h := h.of_subset fun c hc => by
    obtain hc | hc := List.mem_append.1 hc
    · exact List.mem_append_left _ hc
    · exact List.mem_append_right _ (List.mem_cons_of_mem _ hc)

theorem normalize_within (hown : HoldsOfOwn p) {s : Text} (hs : Text.Within p s) :
    Text.Within p (normalize s) := by
  induction s using normalize.induct with
  | case1 => exact hs
  | case2 s ih =>
    obtain ⟨-, hs⟩ := within_cons.1 hs
    obtain ⟨-, hs⟩ := within_cons.1 hs
    rw [normalize]
    exact within_cons.2 ⟨hown.lineEnd, ih hs⟩
  | case3 c s hcrlf ih =>
    obtain ⟨hc, hs⟩ := within_cons.1 hs
    rw [normalize]
    · refine within_cons.2 ⟨?_, ih hs⟩
      split
      · exact hown.lineEnd
      · split
        · exact hown.replacement
        · exact hc
    · exact hcrlf

end Docpress.Markdown
