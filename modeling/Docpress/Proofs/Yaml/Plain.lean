import Docpress.Proofs.Text.Alphanum
import Docpress.Proofs.Text.Utf8
import Docpress.Proofs.Yaml.Cursor
import Docpress.Yaml.Plain
/-!
Plain scalars of one word. What follows the word, spaces and line ends included, is looked at to see
whether the scalar goes on, and it does not where a bracket or a comma comes next.
-/

namespace Docpress.Yaml

open Reader

/-- The text consists of spaces and line feeds. -/
def IsLoose (s : Text) : Prop :=
  ∀ c ∈ s, c = ' ' ∨ c = '\n'

/-- A character of a word: a letter, a digit, a sign or a point. -/
def isWordChar (c : Char) : Bool :=
  c.isAlphanum || c == '-' || c == '+' || c == '.'

/-- The text ends here, or an item or a collection does. -/
def Closes (s : Text) : Prop :=
  ∀ c ∈ s.head?, c = ',' ∨ c = ']' ∨ c = '\x7d'

/-- Spaces come first, and then lines if there are any. -/
theorem IsLoose.exists_spaces {gap : Text} (h : IsLoose gap) :
    ∃ spaces tail, gap = spaces ++ tail ∧ (∀ c ∈ spaces, (c == ' ') = true) ∧
      (tail = [] ∨ ∃ lines, tail = '\n' :: lines ∧ IsLoose lines) := by
  refine ⟨gap.takeWhile (· == ' '), gap.dropWhile (· == ' '),
    List.takeWhile_append_dropWhile.symm, List.all_eq_true.1 List.all_takeWhile, ?_⟩
  have hloose : IsLoose (gap.dropWhile (· == ' ')) :=
    fun c hc => h c ((List.dropWhile_suffix _).subset hc)
  have hhead := List.head?_dropWhile_not (· == ' ') gap
  cases htail : gap.dropWhile (· == ' ') with
  | nil => exact .inl rfl
  | cons c lines =>
    rw [htail] at hhead hloose
    refine .inr ⟨lines, ?_, fun d hd => hloose d (List.mem_cons_of_mem _ hd)⟩
    rw [(hloose c List.mem_cons_self).resolve_left (by simpa using hhead)]

theorem isLoose_nil : IsLoose [] :=
  List.forall_mem_nil _

theorem IsLoose.append {s t : Text} (hs : IsLoose s) (ht : IsLoose t) : IsLoose (s ++ t) :=
  List.forall_mem_append.2 ⟨hs, ht⟩

theorem toNat_lt_of_isWordChar {c : Char} (h : isWordChar c = true) : c.toNat < 123 := by
  simp only [isWordChar, Bool.or_eq_true, beq_iff_eq] at h
  rcases h with ((h | rfl) | rfl) | rfl
  · have := Text.toNat_of_isAlphanum h
    omega
  all_goals decide

/-- A word character has no other meaning. -/
theorem isWordChar_spec {c : Char} (h : isWordChar c = true) :
    isGapOrEnd c = false ∧ isFlowMark c = false ∧ c ≠ ':' ∧ c ≠ '?' ∧ c ≠ '#' := by
  exact Text.forall_of_toNat_lt (P := fun c => isWordChar c = true → isGapOrEnd c = false ∧
    isFlowMark c = false ∧ c ≠ ':' ∧ c ≠ '?' ∧ c ≠ '#') (by decide +kernel)
    (toNat_lt_of_isWordChar h) h

theorem plainLength_append {flow : Bool} {w rest : Text} (hw : ∀ c ∈ w, isWordChar c = true)
    (hrest : plainLength flow rest = 0) : plainLength flow (w ++ rest) = w.length := by
  induction w with
  | nil => exact hrest
  | cons c w ih =>
    obtain ⟨hc, hw⟩ := List.forall_mem_cons.1 hw
    obtain ⟨hgap, hmark, hcolon, hquestion, -⟩ := isWordChar_spec hc
    rw [List.cons_append, plainLength, ih hw]
    simp [hgap, hmark, hcolon, hquestion]

/-- Where a text closes, no scalar goes on: within brackets, or at the end. -/
theorem plainLength_of_closes {flow : Bool} {s : Text} (h : Closes s)
    (hflow : flow = true ∨ s = []) : plainLength flow s = 0 := by
  cases s with
  | nil => rfl
  | cons c s =>
    obtain rfl := hflow.resolve_right (List.cons_ne_nil _ _)
    rcases h c rfl with rfl | rfl | rfl <;> simp [plainLength, isFlowMark]

theorem plainLength_of_loose {flow : Bool} {gap : Text} (h : IsLoose gap) (hne : gap ≠ [])
    (s : Text) : plainLength flow (gap ++ s) = 0 := by
  obtain ⟨c, gap, rfl⟩ := List.exists_cons_of_ne_nil hne
  rcases h c List.mem_cons_self with rfl | rfl <;>
    simp [plainLength, isGapOrEnd, isSpaceOrEnd, isBreakOrEnd, isBreak]

/-- The character that comes next where a text closes. -/
theorem Closes.peek_mem {s : Text} (h : Closes s) (m : Mark) :
    Cursor.peek ⟨m, s⟩ 0 ∈ [endChar, ',', ']', '\x7d'] := by
  cases s with
  | nil => exact List.mem_cons_self
  | cons c s => simpa using .inr (h c rfl)

/-- Where a text closes, no line ends and no comment begins. -/
theorem Closes.peek_ne {s : Text} (h : Closes s) (m : Mark) :
    Cursor.peek ⟨m, s⟩ 0 ≠ ' ' ∧ isBreak (Cursor.peek ⟨m, s⟩ 0) = false ∧
      Cursor.peek ⟨m, s⟩ 0 ≠ '#' :=
  (Text.forall_of_all (by decide) :
    ∀ c ∈ [endChar, ',', ']', '\x7d'], c ≠ ' ' ∧ isBreak c = false ∧ c ≠ '#') _ (h.peek_mem m)

/-- A document neither begins nor ends where a text closes. -/
theorem Closes.hasSeparator {gap s : Text} (h : Closes s) (hgap : IsLoose gap) (m : Mark) :
    Cursor.hasSeparator ⟨m, gap ++ s⟩ = false := by
  have hmem : Cursor.peek ⟨m, gap ++ s⟩ 0 ∈ [' ', '\n', endChar, ',', ']', '\x7d'] := by
    cases gap with
    | nil => exact List.mem_cons_of_mem _ (List.mem_cons_of_mem _ (h.peek_mem m))
    | cons c gap => rcases hgap c List.mem_cons_self with rfl | rfl <;> simp
  have hne : ∀ c ∈ [' ', '\n', endChar, ',', ']', '\x7d'], c ≠ '-' ∧ c ≠ '.' :=
    Text.forall_of_all (by decide)
  simp [Cursor.hasSeparator, Cursor.hasMarker, hne _ hmem]

theorem takeBreak_lineFeed (m : Mark) (s : Text) :
    takeBreak ⟨m, '\n' :: s⟩ = .ok (['\n'], ⟨m.past '\n', s⟩) := rfl

theorem plainBreaks_loose {gap rest : Text} (hgap : IsLoose gap) (hrest : Closes rest) (m : Mark)
    (fuel : Nat) (hfuel : gap.length < fuel) :
    ∃ breaks, plainBreaks fuel ⟨m, gap ++ rest⟩ = .ok (some breaks, ⟨m.pastAll gap, rest⟩) := by
  induction gap generalizing m fuel with
  | nil =>
    obtain ⟨hspace, hbreak, -⟩ := hrest.peek_ne m
    obtain ⟨fuel, rfl⟩ : ∃ n, fuel = n + 1 := ⟨fuel - 1, by omega⟩
    refine ⟨[], ?_⟩
    rw [List.nil_append, plainBreaks, peek_bind, if_neg (by simpa using hspace),
      if_neg (by simp [hbreak])]
    rfl
  | cons c gap ih =>
    obtain ⟨hc, htail⟩ := List.forall_mem_cons.1 hgap
    rw [List.length_cons] at hfuel
    obtain ⟨fuel, rfl⟩ : ∃ n, fuel = n + 1 := ⟨fuel - 1, by omega⟩
    obtain ⟨breaks, hbreaks⟩ := ih htail (m.past c) fuel (by omega)
    rcases hc with rfl | rfl
    · exact ⟨breaks, hbreaks⟩
    · refine ⟨'\n' :: breaks, ?_⟩
      change (get >>= fun c => (if c.hasSeparator then pure none else
        plainBreaks fuel >>= fun more => pure (more.map (['\n'] ++ ·)) : Reader (Option Text)))
          ⟨m.past '\n', gap ++ rest⟩ = _
      rw [get_bind, if_neg (by simp [hrest.hasSeparator htail]), bind_of_ok hbreaks]
      rfl

/-- What is read after a word: the gap is gone, and a text is left for it. -/
theorem plainGap_loose {gap rest : Text} (hgap : IsLoose gap) (hrest : Closes rest) (m : Mark) :
    ∃ fold lineEnd, plainGap ⟨m, gap ++ rest⟩ = .ok ((fold, lineEnd), ⟨m.pastAll gap, rest⟩) := by
  obtain ⟨spaces, tail, rfl, hspaces, rfl | ⟨lines, rfl, hlines⟩⟩ := hgap.exists_spaces
  · have hend : ∀ c ∈ rest.head?, (c == ' ') = false := by
      intro c hc
      rcases hrest c hc with rfl | rfl | rfl <;> rfl
    refine ⟨spaces, false, ?_⟩
    rw [List.append_nil, plainGap, bind_of_ok (takeWhile_append hspaces hend m), peek_bind,
      if_neg (by simp [(hrest.peek_ne _).2.1])]
    rfl
  · obtain ⟨breaks, hbreaks⟩ := plainBreaks_loose hlines hrest
      ((m.pastAll spaces).past '\n') ((lines ++ rest).length + 1)
      (by rw [List.length_append]; omega)
    have hline : ∀ c ∈ ('\n' :: (lines ++ rest)).head?, (c == ' ') = false := by
      rintro c ⟨⟩
      rfl
    refine ⟨(if breaks.isEmpty then [' '] else []) ++ breaks, true, ?_⟩
    rw [List.append_assoc, List.cons_append, plainGap,
      bind_of_ok (takeWhile_append hspaces hline m), peek_bind, if_pos (by rfl),
      bind_of_ok (takeBreak_lineFeed _ _), get_bind, if_neg (by simp [hrest.hasSeparator hlines]),
      fuel_bind, bind_of_ok hbreaks, Mark.pastAll_append]
    rfl

/-- No scalar begins where a text closes. -/
theorem plainFrom_of_closes {flow : Bool} {s : Text} (hs : Closes s)
    (hflow : flow = true ∨ s = []) (indent : Nat) (gap : Text) (lineEnd : Bool) (m : Mark)
    (fuel : Nat) : plainFrom flow indent fuel gap lineEnd ⟨m, s⟩ = .ok (([], lineEnd), ⟨m, s⟩) := by
  cases fuel with
  | zero => rfl
  | succ fuel =>
    rw [plainFrom, get_bind, get_bind, peek_bind, plainLength_of_closes hs hflow, if_pos (by simp)]
    rfl

/-- A word, with the gap after it, is a plain scalar where an item or a collection ends. -/
theorem plainScalar_word {flow : Bool} {w gap rest : Text} (hw : ∀ c ∈ w, isWordChar c = true)
    (hne : w ≠ []) (hgap : IsLoose gap) (hrest : Closes rest) (hflow : flow = true ∨ rest = [])
    (indent : Nat) (m : Mark) :
    ∃ stop lineEnd, plainScalar flow indent ⟨m, w ++ (gap ++ rest)⟩ =
      .ok ((⟨.scalar { chars := w } true, m, stop⟩, lineEnd),
        ⟨(m.pastAll w).pastAll gap, rest⟩) := by
  have hlength : plainLength flow (w ++ (gap ++ rest)) = w.length := by
    refine plainLength_append hw ?_
    by_cases hnil : gap = []
    · rw [hnil]
      exact plainLength_of_closes hrest hflow
    · exact plainLength_of_loose hgap hnil rest
  have hrun : (w ++ (gap ++ rest)).take (plainLength flow (w ++ (gap ++ rest))) = w := by
    rw [hlength, List.take_left']
    rfl
  obtain ⟨fold, lineEnd, hfold⟩ := plainGap_loose hgap hrest (m.pastAll w)
  have hcomment : Cursor.peek ⟨m, w ++ (gap ++ rest)⟩ 0 ≠ '#' := by
    obtain ⟨c, w, rfl⟩ := List.exists_cons_of_ne_nil hne
    exact (isWordChar_spec (hw c List.mem_cons_self)).2.2.2.2
  have hfrom : ∀ fuel, plainFrom flow indent (fuel + 1) [] false ⟨m, w ++ (gap ++ rest)⟩ =
      .ok ((w, lineEnd), ⟨(m.pastAll w).pastAll gap, rest⟩) := by
    intro fuel
    rw [plainFrom, get_bind, get_bind, peek_bind, hrun, if_neg (by simp [hcomment, hne]), skip_bind,
      Cursor.advance_append, bind_of_ok hfold]
    -- Whether or not it looks for more after the gap, there is nothing more.
    simp only [peek_bind, mark_bind, ite_run]
    split
    · rfl
    · rw [bind_of_ok (plainFrom_of_closes hrest hflow indent fold lineEnd _ fuel)]
      simp
  refine ⟨(m.pastAll w).pastAll gap, lineEnd, ?_⟩
  rw [plainScalar, mark_bind, fuel_bind, bind_of_ok (hfrom _)]
  rfl

end Docpress.Yaml
