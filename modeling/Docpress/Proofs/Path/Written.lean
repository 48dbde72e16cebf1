import Docpress.Path
import Docpress.Proofs.Text.Words
/-!
Paths and how they are written. A path that could be read from a text can be read again from what it
is written as, so it may be handed on as an argument.
-/

namespace Docpress.Path

/-- A name that a path may hold when it is read: one that stands for itself between slashes. -/
def IsPart (name : Text) : Prop :=
  name ≠ [] ∧ name ≠ ['.'] ∧ '/' ∉ name

/-- The path is one that can be read. -/
structure IsReadable (p : Path) : Prop where
  root : p.root = [] ∨ p.root = ['/'] ∨ p.root = ['/', '/']
  parts : ∀ name ∈ p.names, IsPart name

/-- What is read is readable. -/
theorem isReadable_ofText (s : Text) : (ofText s).IsReadable := by
  constructor
  · simp only [ofText, rootOf]
    split
    · rename_i hlength
      have hslash : ∀ c ∈ s.takeWhile (· == '/'), c = '/' := fun c hc => by
        simpa using List.all_eq_true.1 List.all_takeWhile c hc
      match h : s.takeWhile (· == '/'), hlength with
      | [], _ => simp
      | [a], _ => simp [hslash a (by simp [h])]
      | [a, b], _ => simp [hslash a (by simp [h]), hslash b (by simp [h])]
    · simp
  · intro name hname
    simp only [ofText, namesOf, Text.words, List.mem_filter, bne_iff_ne] at hname
    obtain ⟨⟨hpiece, hne⟩, hdot⟩ := hname
    refine ⟨by simpa using hne, hdot, fun hslash => ?_⟩
    simpa using Text.forall_not_of_mem_splitBy name hpiece '/' hslash

/-- The names of a readable path are read one by one. -/
theorem IsReadable.namesOf_join {p : Path} (hp : p.IsReadable) :
    namesOf (Text.join ['/'] p.names) = p.names := by
  have hwords : Text.words (· == '/') (Text.join ['/'] p.names) = p.names := by
    refine Text.words_join (by decide) fun name hname => ⟨(hp.parts name hname).1, fun c hc => ?_⟩
    have hslash : c ≠ '/' := fun h => (hp.parts name hname).2.2 (h ▸ hc)
    simpa using hslash
  rw [namesOf, hwords, List.filter_eq_self]
  intro name hname
  simpa using (hp.parts name hname).2.1

/-- Names that are joined begin with no slash. -/
theorem IsReadable.takeWhile_join {p : Path} (hp : p.IsReadable) :
    (Text.join ['/'] p.names).takeWhile (· == '/') = [] := by
  have hfirst : ∀ name more, IsPart name → (name ++ more).takeWhile (· == '/') = [] := by
    rintro name more ⟨hne, -, hslash⟩
    obtain ⟨c, rest, rfl⟩ := List.exists_cons_of_ne_nil hne
    have hc : (c == '/') = false := by
      simpa using fun h : c = '/' => hslash (by simp [h])
    rw [List.cons_append, List.takeWhile_cons, hc]
    rfl
  match h : p.names with
  | [] => rfl
  | [name] =>
    have hfound := hfirst name [] (hp.parts name (by simp [h]))
    rwa [List.append_nil] at hfound
  | name :: next :: rest =>
    rw [Text.join, List.append_assoc]
    exact hfirst name _ (hp.parts name (by simp [h]))

/-- A readable path can be read again from its text. -/
theorem IsReadable.ofText_toText {p : Path} (hp : p.IsReadable) : ofText p.toText = p := by
  have hnames := hp.namesOf_join
  have hroot := hp.takeWhile_join
  obtain ⟨root, names⟩ := p
  cases hempty : root ++ Text.join ['/'] names with
  | nil =>
    obtain ⟨rfl, hjoin⟩ := List.append_eq_nil_iff.1 hempty
    simp only at hnames
    rw [hjoin] at hnames
    rw [toText]
    simp only [hempty]
    exact congrArg (Path.mk []) hnames
  | cons c s =>
    have htext : toText ⟨root, names⟩ = root ++ Text.join ['/'] names := by
      rw [toText]
      simp only [hempty]
    have hslash : ∀ c ∈ root, (c == '/') = true := by
      rcases hp.root with rfl | rfl | rfl <;> simp
    have hread : ∀ lead : Text, (∀ c ∈ lead, (c == '/') = true) →
        namesOf (lead ++ Text.join ['/'] names) = names := by
      intro lead hlead
      induction lead with
      | nil => exact hnames
      | cons c lead ih =>
        have hskip := Text.words_cons_of_pos (p := (· == '/')) (hlead c (by simp))
          (lead ++ Text.join ['/'] names)
        rw [namesOf, List.cons_append, hskip]
        exact ih fun d hd => hlead d (List.mem_cons_of_mem _ hd)
    have hbefore : (root ++ Text.join ['/'] names).takeWhile (· == '/') = root := by
      rw [List.takeWhile_append_of_pos hslash, hroot, List.append_nil]
    rw [htext, ofText, hread root hslash, rootOf, hbefore]
    rcases hp.root with rfl | rfl | rfl <;> rfl


/-- A name is read as the path that it is the only name of. -/
theorem IsPart.ofText_eq {name : Text} (h : IsPart name) : ofText name = { names := [name] } := by
  have hself : ({ names := [name] } : Path).IsReadable :=
    ⟨.inl rfl, fun other hother => List.mem_singleton.1 hother ▸ h⟩
  have htext : ({ names := [name] } : Path).toText = name := by
    unfold toText
    obtain ⟨c, rest, rfl⟩ := List.exists_cons_of_ne_nil h.1
    rfl
  rw [← htext, hself.ofText_toText, htext]

/-- A character that is not about the path's shape is in one of its names. -/
theorem exists_mem_names_ofText {s : Text} {c : Char} (hc : c ∈ s) (hslash : c ≠ '/')
    (hdot : c ≠ '.') : ∃ name ∈ (ofText s).names, c ∈ name := by
  obtain ⟨name, hname, hmem⟩ :=
    Text.exists_mem_splitBy (p := (· == '/')) hc (by simpa using hslash)
  refine ⟨name, ?_, hmem⟩
  simp only [ofText, namesOf, Text.words, List.mem_filter, bne_iff_ne]
  refine ⟨⟨hname, by simpa using List.ne_nil_of_mem hmem⟩, ?_⟩
  rintro rfl
  exact hdot (List.mem_singleton.1 hmem)

end Docpress.Path
