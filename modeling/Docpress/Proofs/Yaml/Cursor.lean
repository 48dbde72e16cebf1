import Docpress.Yaml.Cursor
/-!
Going on in a document. A reader that goes on takes a text off what is left, and the place moves past
it.
-/

namespace Docpress.Yaml

/-- The place after a text. -/
def Mark.pastAll (m : Mark) (s : Text) : Mark :=
  s.foldl Mark.past m

namespace Mark

@[simp] theorem pastAll_nil (m : Mark) : m.pastAll [] = m := rfl

@[simp] theorem pastAll_cons (m : Mark) (c : Char) (s : Text) :
    m.pastAll (c :: s) = (m.past c).pastAll s := rfl

theorem pastAll_append (m : Mark) (s s' : Text) :
    m.pastAll (s ++ s') = (m.pastAll s).pastAll s' :=
  List.foldl_append

@[simp] theorem index_past (m : Mark) (c : Char) : (m.past c).index = m.index + 1 := by
  unfold past
  split <;> rfl

theorem line_past (m : Mark) (c : Char) :
    (m.past c).line = if isBreak c then m.line + 1 else m.line := by
  unfold past
  split <;> rfl

theorem index_pastAll (m : Mark) (s : Text) : (m.pastAll s).index = m.index + s.length := by
  induction s generalizing m with
  | nil => rfl
  | cons c s ih =>
    rw [pastAll_cons, ih, index_past, List.length_cons]
    omega

theorem line_le_pastAll (m : Mark) (s : Text) : m.line ≤ (m.pastAll s).line := by
  induction s generalizing m with
  | nil => exact Nat.le_refl _
  | cons c s ih =>
    refine Nat.le_trans ?_ (ih (m.past c))
    rw [line_past]
    split <;> omega

/-- A text without line ends stays in its line. -/
theorem line_pastAll {s : Text} (h : ∀ c ∈ s, isBreak c = false) (m : Mark) :
    (m.pastAll s).line = m.line := by
  induction s generalizing m with
  | nil => rfl
  | cons c s ih =>
    obtain ⟨hc, hs⟩ := List.forall_mem_cons.1 h
    rw [pastAll_cons, ih hs, line_past, hc]
    rfl

end Mark

namespace Cursor

@[simp] theorem peek_cons_zero (m : Mark) (c : Char) (s : Text) : peek ⟨m, c :: s⟩ 0 = c := rfl

@[simp] theorem peek_nil (m : Mark) (n : Nat) : peek ⟨m, []⟩ n = endChar := rfl

/-- Going on by as many characters as a text has goes past it. -/
theorem advance_append (m : Mark) (s rest : Text) :
    advance s.length ⟨m, s ++ rest⟩ = ⟨m.pastAll s, rest⟩ := by
  induction s generalizing m with
  | nil => rfl
  | cons c s ih => exact ih (m.past c)

@[simp] theorem advance_one (m : Mark) (c : Char) (s : Text) :
    advance 1 ⟨m, c :: s⟩ = ⟨m.past c, s⟩ := rfl

/-- However far one goes on, a text is passed. -/
theorem advance_eq (n : Nat) (c : Cursor) :
    advance n c = ⟨c.mark.pastAll (c.rest.take n), c.rest.drop n⟩ := by
  obtain ⟨m, rest⟩ := c
  induction n generalizing m rest with
  | zero => rfl
  | succ n ih =>
    cases rest with
    | nil => rfl
    | cons c rest => exact ih (m.past c) rest

/-- The second cursor is further on. -/
def Leads (c c' : Cursor) : Prop :=
  ∃ n, c' = advance n c

theorem Leads.refl (c : Cursor) : c.Leads c :=
  ⟨0, rfl⟩

theorem Leads.trans {c c' c'' : Cursor} (h : c.Leads c') (h' : c'.Leads c'') : c.Leads c'' := by
  obtain ⟨n, rfl⟩ := h
  obtain ⟨k, rfl⟩ := h'
  refine ⟨n + k, ?_⟩
  simp only [advance_eq, ← Mark.pastAll_append, List.drop_drop, List.take_add]

/-- What comes after a text is further on. -/
theorem leads_of_append {c : Cursor} {s rest : Text} (h : c.rest = s ++ rest) :
    c.Leads ⟨c.mark.pastAll s, rest⟩ := by
  refine ⟨s.length, ?_⟩
  rw [← advance_append, ← h]

theorem Leads.line_le {c c' : Cursor} (h : c.Leads c') : c.mark.line ≤ c'.mark.line := by
  obtain ⟨n, rfl⟩ := h
  rw [advance_eq]
  exact Mark.line_le_pastAll _ _

theorem Leads.index_le {c c' : Cursor} (h : c.Leads c') : c.mark.index ≤ c'.mark.index := by
  obtain ⟨n, rfl⟩ := h
  rw [advance_eq, Mark.index_pastAll]
  omega

end Cursor

namespace Reader

variable {α β : Type}

/-! ### Running readers -/

section Run

variable (c : Cursor) (n : Nat) (p : Char → Bool)

theorem bind_run (read : Reader α) (next : α → Reader β) :
    (read >>= next) c = (read c) >>= fun (a, c') => next a c' := rfl

@[simp] theorem pure_run (a : α) : (pure a : Reader α) c = .ok (a, c) := rfl

theorem takeWhile_run :
    takeWhile p c = .ok (c.rest.takeWhile p, c.advance (c.rest.takeWhile p).length) := rfl

@[simp] theorem peek_bind (next : Char → Reader β) :
    (peek n >>= next) c = next (c.peek n) c := rfl

@[simp] theorem mark_bind (next : Mark → Reader β) : (mark >>= next) c = next c.mark c := rfl

@[simp] theorem get_bind (next : Cursor → Reader β) : (get >>= next) c = next c c := rfl

@[simp] theorem fuel_bind (next : Nat → Reader β) :
    (fuel >>= next) c = next (c.rest.length + 1) c := rfl

@[simp] theorem skip_bind (next : Unit → Reader β) :
    (skip n >>= next) c = next () (c.advance n) := rfl

theorem takeWhile_bind (next : Text → Reader β) :
    (takeWhile p >>= next) c =
      next (c.rest.takeWhile p) (c.advance (c.rest.takeWhile p).length) := rfl

theorem ite_run (q : Prop) [Decidable q] (read read' : Reader α) :
    (if q then read else read') c = if q then read c else read' c := by
  split <;> rfl

variable {c}

theorem bind_of_ok {read : Reader α} {a : α} {c' : Cursor} (h : read c = .ok (a, c'))
    (next : α → Reader β) : (read >>= next) c = next a c' := by
  rw [bind_run, h]
  rfl

theorem exists_of_bind_ok {read : Reader α} {next : α → Reader β} {b : β} {c'' : Cursor}
    (h : (read >>= next) c = .ok (b, c'')) :
    ∃ a c', read c = .ok (a, c') ∧ next a c' = .ok (b, c'') := by
  rw [bind_run] at h
  cases hread : read c with
  | error e =>
    rw [hread] at h
    cases h
  | ok found =>
    rw [hread] at h
    exact ⟨found.1, found.2, rfl, h⟩

end Run

/-- A run of characters of a kind is taken as a whole. -/
theorem takeWhile_append {p : Char → Bool} {s rest : Text} (hs : ∀ c ∈ s, p c = true)
    (hrest : ∀ c ∈ rest.head?, p c = false) (m : Mark) :
    takeWhile p ⟨m, s ++ rest⟩ = .ok (s, ⟨m.pastAll s, rest⟩) := by
  have hrun : (s ++ rest).takeWhile p = s := by
    rw [List.takeWhile_append_of_pos hs]
    cases rest with
    | nil => simp
    | cons c rest => simp [hrest c rfl]
  rw [takeWhile_run, hrun, Cursor.advance_append]

theorem skipWhile_append {p : Char → Bool} {s rest : Text} (hs : ∀ c ∈ s, p c = true)
    (hrest : ∀ c ∈ rest.head?, p c = false) (m : Mark) :
    skipWhile p ⟨m, s ++ rest⟩ = .ok ((), ⟨m.pastAll s, rest⟩) := by
  rw [skipWhile, bind_run, takeWhile_append hs hrest]
  rfl

/-- The reader only goes on. -/
def GoesOn (read : Reader α) : Prop :=
  ∀ c a c', read c = .ok (a, c') → c.Leads c'

theorem GoesOn.bind {read : Reader α} {next : α → Reader β} (h : read.GoesOn)
    (h' : ∀ a, (next a).GoesOn) : GoesOn (read >>= next) := by
  intro c b c'' hrun
  obtain ⟨a, c', hread, hnext⟩ := exists_of_bind_ok hrun
  exact (h c a c' hread).trans (h' a c' b c'' hnext)

theorem goesOn_pure (a : α) : GoesOn (pure a) := by
  rintro c _ _ ⟨⟩
  exact Cursor.Leads.refl c

theorem goesOn_peek (n : Nat) : GoesOn (peek n) := by
  rintro c _ _ ⟨⟩
  exact Cursor.Leads.refl c

theorem goesOn_skip (n : Nat) : GoesOn (skip n) := by
  rintro c _ _ ⟨⟩
  exact ⟨n, rfl⟩

theorem goesOn_skipWhile (p : Char → Bool) : GoesOn (skipWhile p) := by
  rintro c _ _ ⟨⟩
  exact ⟨_, rfl⟩

theorem goesOn_skipComment : GoesOn skipComment := by
  refine (goesOn_peek 0).bind fun c => ?_
  split
  · exact goesOn_skipWhile _
  · exact goesOn_pure _

theorem goesOn_takeBreak : GoesOn takeBreak := by
  unfold takeBreak
  refine (goesOn_peek 0).bind fun c => ?_
  split
  · exact goesOn_pure _
  · refine (goesOn_peek 1).bind fun _ => ?_
    exact (goesOn_skip _).bind fun _ => goesOn_pure _

end Reader

end Docpress.Yaml
