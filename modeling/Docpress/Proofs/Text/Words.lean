import Docpress.Text.Basic
/-!
Pieces of a text between separators. A separator cuts a text in two whatever stands after it, so the
words of a text that was joined from words are those words.
-/

namespace Docpress.Text

variable {p : Char → Bool} {s : Text}

/-- What follows the elements at the start that satisfy a predicate. -/
theorem drop_length_takeWhile {α : Type} (p : α → Bool) (s : List α) :
    s.drop (s.takeWhile p).length = s.dropWhile p := by
  calc s.drop (s.takeWhile p).length
    _ = (s.takeWhile p ++ s.dropWhile p).drop (s.takeWhile p).length := by
      rw [List.takeWhile_append_dropWhile]
    _ = s.dropWhile p := List.drop_left

theorem splitBy_ne_nil (p : Char → Bool) (s : Text) : splitBy p s ≠ [] := by
  cases s with
  | nil => exact List.cons_ne_nil _ _
  | cons c s =>
    rw [splitBy]
    split
    · exact List.cons_ne_nil _ _
    · split <;> exact List.cons_ne_nil _ _

/-- A separator ends an empty piece. -/
theorem splitBy_cons_of_pos {sep : Char} (hsep : p sep = true) (s : Text) :
    splitBy p (sep :: s) = [] :: splitBy p s :=
  if_pos hsep

/-- A character that is no separator begins the first piece of what follows. -/
theorem splitBy_cons_of_not {c : Char} (hc : p c = false) (s : Text) :
    ∃ piece pieces, splitBy p s = piece :: pieces ∧
      splitBy p (c :: s) = (c :: piece) :: pieces := by
  obtain ⟨piece, pieces, hsplit⟩ := List.exists_cons_of_ne_nil (splitBy_ne_nil p s)
  refine ⟨piece, pieces, hsplit, ?_⟩
  rw [splitBy, if_neg (by simp [hc]), hsplit]

/-- A separator cuts a text in two. -/
theorem splitBy_append (s : Text) {sep : Char} (hsep : p sep = true) (t : Text) :
    splitBy p (s ++ sep :: t) = splitBy p s ++ splitBy p t := by
  induction s with
  | nil => exact splitBy_cons_of_pos hsep t
  | cons c s ih =>
    rw [List.cons_append]
    cases hc : p c with
    | true => rw [splitBy_cons_of_pos hc, splitBy_cons_of_pos hc, ih, List.cons_append]
    | false =>
      obtain ⟨piece, pieces, hsplit, hcons⟩ := splitBy_cons_of_not hc s
      obtain ⟨_, _, hsplit', hcons'⟩ := splitBy_cons_of_not hc (s ++ sep :: t)
      rw [ih, hsplit, List.cons_append] at hsplit'
      obtain ⟨rfl, rfl⟩ := List.cons.inj hsplit'
      rw [hcons', hcons, List.cons_append]

/-- The first separator ends the first piece. -/
theorem splitBy_append_cons (hs : ∀ c ∈ s, p c = false) {sep : Char} (hsep : p sep = true)
    (t : Text) : splitBy p (s ++ sep :: t) = s :: splitBy p t := by
  induction s with
  | nil => exact splitBy_cons_of_pos hsep t
  | cons c s ih =>
    obtain ⟨hc, hs⟩ := List.forall_mem_cons.1 hs
    obtain ⟨piece, pieces, hsplit, hcons⟩ := splitBy_cons_of_not hc (s ++ sep :: t)
    obtain ⟨rfl, rfl⟩ := List.cons.inj (hsplit.symm.trans (ih hs))
    exact hcons

theorem splitBy_of_forall_not (hs : ∀ c ∈ s, p c = false) : splitBy p s = [s] := by
  induction s with
  | nil => rfl
  | cons c s ih =>
    obtain ⟨hc, hs⟩ := List.forall_mem_cons.1 hs
    obtain ⟨piece, pieces, hsplit, hcons⟩ := splitBy_cons_of_not hc s
    obtain ⟨rfl, rfl⟩ := List.cons.inj (hsplit.symm.trans (ih hs))
    exact hcons

theorem forall_not_of_mem_splitBy : ∀ piece ∈ splitBy p s, ∀ c ∈ piece, p c = false := by
  induction s with
  | nil => exact List.forall_mem_singleton.2 (List.forall_mem_nil _)
  | cons d s ih =>
    cases hd : p d with
    | true =>
      rw [splitBy_cons_of_pos hd]
      exact List.forall_mem_cons.2 ⟨List.forall_mem_nil _, ih⟩
    | false =>
      obtain ⟨piece, pieces, hsplit, hcons⟩ := splitBy_cons_of_not hd s
      rw [hsplit] at ih
      obtain ⟨hpiece, hpieces⟩ := List.forall_mem_cons.1 ih
      rw [hcons]
      exact List.forall_mem_cons.2 ⟨List.forall_mem_cons.2 ⟨hd, hpiece⟩, hpieces⟩

/-- A character that is no separator is in one of the pieces. -/
theorem exists_mem_splitBy {c : Char} (hc : c ∈ s) (hp : p c = false) :
    ∃ piece ∈ splitBy p s, c ∈ piece := by
  induction s with
  | nil => cases hc
  | cons d s ih =>
    cases hd : p d with
    | true =>
      have hs : c ∈ s := (List.mem_cons.1 hc).resolve_left (by rintro rfl; simp [hp] at hd)
      obtain ⟨piece, hpiece, hmem⟩ := ih hs
      rw [splitBy_cons_of_pos hd]
      exact ⟨piece, List.mem_cons_of_mem _ hpiece, hmem⟩
    | false =>
      obtain ⟨first, pieces, hsplit, hcons⟩ := splitBy_cons_of_not hd s
      rw [hcons]
      rcases List.mem_cons.1 hc with rfl | hs
      · exact ⟨_, List.mem_cons_self, List.mem_cons_self⟩
      · obtain ⟨piece, hpiece, hmem⟩ := ih hs
        rw [hsplit] at hpiece
        rcases List.mem_cons.1 hpiece with rfl | hpiece
        · exact ⟨_, List.mem_cons_self, List.mem_cons_of_mem _ hmem⟩
        · exact ⟨piece, List.mem_cons_of_mem _ hpiece, hmem⟩

/-- Separators at the beginning stand before no word. -/
theorem words_cons_of_pos {sep : Char} (hsep : p sep = true) (s : Text) :
    words p (sep :: s) = words p s := by
  rw [words, splitBy_cons_of_pos hsep]
  rfl

/-- Each text but the first has a separator before it. -/
theorem join_cons (sep s : Text) (rest : List Text) :
    join sep (s :: rest) = s ++ rest.flatMap (sep ++ ·) := by
  induction rest generalizing s with
  | nil => exact (List.append_nil s).symm
  | cons t rest ih => rw [join, ih, List.flatMap_cons, List.append_assoc, List.append_assoc]

/-- The words of words that were joined. -/
theorem words_join {sep : Char} (hsep : p sep = true) {names : List Text}
    (hnames : ∀ name ∈ names, name ≠ [] ∧ ∀ c ∈ name, p c = false) :
    words p (join [sep] names) = names := by
  have hword : ∀ name ∈ names, (!name.isEmpty) = true := fun name hname => by
    simpa using (hnames name hname).1
  cases names with
  | nil => rfl
  | cons name rest =>
    have hsplit : splitBy p (join [sep] (name :: rest)) = name :: rest := by
      clear hword
      induction rest generalizing name with
      | nil => exact splitBy_of_forall_not (hnames name (by simp)).2
      | cons next rest ih =>
        rw [join, List.append_assoc, List.singleton_append,
          splitBy_append_cons (hnames name (by simp)).2 hsep,
          ih next fun other hother => hnames other (List.mem_cons_of_mem _ hother)]
    rw [words, hsplit, List.filter_eq_self.2 hword]

end Docpress.Text
