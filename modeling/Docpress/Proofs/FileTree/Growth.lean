import Docpress.FileTree
/-!
Trees that only grow. Making directories and writing files takes nothing away: a directory stays a
directory, a file stays a file, and only what was written has another content. So a path that leads
to a place keeps leading there.
-/

namespace Docpress.FileTree

/-! ### What is at a place after an entry was put somewhere -/

@[simp] theorem find?_nil (t : FileTree) : t.find? [] = some .directory := rfl

theorem find?_of_ne_nil (t : FileTree) {place : Place} (h : place ≠ []) :
    t.find? place = t.entries.lookup place := by
  simp [find?, h]

theorem find?_put_self (t : FileTree) {place : Place} (h : place ≠ []) (e : Entry) :
    (t.put place e).find? place = some e := by
  have hnone : (t.entries.filter (·.1 != place)).lookup place = none := by
    rw [List.lookup_eq_none_iff]
    intro entry hentry
    simp only [List.mem_filter, bne_iff_ne] at hentry
    simpa using fun h => hentry.2 h.symm
  rw [find?_of_ne_nil _ h, put, List.lookup_append, hnone]
  simp

theorem find?_put_ne (t : FileTree) {place other : Place} (h : other ≠ place) (e : Entry) :
    (t.put place e).find? other = t.find? other := by
  by_cases hnil : other = []
  · simp [hnil]
  have hfilter : ∀ entries : List (Place × Entry),
      (entries.filter (·.1 != place)).lookup other = entries.lookup other := by
    intro entries
    induction entries with
    | nil => rfl
    | cons entry rest ih =>
      by_cases hp : entry.1 = place
      · have hne : (other == entry.1) = false := beq_eq_false_iff_ne.2 (hp ▸ h)
        have hdrop : (entry.1 != place) = false := by simp [hp]
        rw [List.filter_cons, if_neg (by simp [hdrop]), ih, List.lookup_cons, hne]
      · have hkeep : (entry.1 != place) = true := by simpa using hp
        rw [List.filter_cons, if_pos hkeep, List.lookup_cons, List.lookup_cons, ih]
  have hlast : List.lookup other [(place, e)] = none := by
    have hne : (other == place) = false := beq_eq_false_iff_ne.2 h
    simp only [List.lookup_cons, hne, List.lookup_nil]
  rw [find?_of_ne_nil _ hnil, find?_of_ne_nil _ hnil, put, List.lookup_append, hfilter, hlast]
  simp

/-! ### Growth -/

/-- The second tree is what making directories and writing files, at the places that `written`
    tells, can make of the first. -/
structure Grown (written : Place → Prop) (t t' : FileTree) : Prop where
  here : t'.here = t.here
  directory : ∀ place, t.find? place = some .directory → t'.find? place = some .directory
  file : ∀ place content, t.find? place = some (.file content) →
    ∃ content', t'.find? place = some (.file content') ∧ (¬ written place → content' = content)
  origin : ∀ place content, t'.find? place = some (.file content) →
    t.find? place = some (.file content) ∨ written place

theorem Grown.refl (written : Place → Prop) (t : FileTree) : Grown written t t :=
  ⟨rfl, fun _ h => h, fun _ content h => ⟨content, h, fun _ => rfl⟩, fun _ _ h => .inl h⟩

theorem Grown.mono {written written' : Place → Prop} {t t' : FileTree} (h : Grown written t t')
    (hsub : ∀ place, written place → written' place) : Grown written' t t' := by
  refine ⟨h.here, h.directory, fun place content hfile => ?_,
    fun place content hfile => (h.origin place content hfile).imp_right (hsub place)⟩
  obtain ⟨content', hfound, hkept⟩ := h.file place content hfile
  exact ⟨content', hfound, fun hnot => hkept fun hwritten => hnot (hsub place hwritten)⟩

theorem Grown.trans {written : Place → Prop} {t t' t'' : FileTree} (h : Grown written t t')
    (h' : Grown written t' t'') : Grown written t t'' := by
  refine ⟨h'.here.trans h.here, fun place hdir => h'.directory place (h.directory place hdir),
    fun place content hfile => ?_, fun place content hfile =>
      (h'.origin place content hfile).elim (h.origin place content) .inr⟩
  obtain ⟨content', hfound, hkept⟩ := h.file place content hfile
  obtain ⟨content'', hfound', hkept'⟩ := h'.file place content' hfound
  exact ⟨content'', hfound', fun hnot => (hkept' hnot).trans (hkept hnot)⟩

/-- What is found stays to be found. -/
theorem Grown.isSome {written : Place → Prop} {t t' : FileTree} (h : Grown written t t')
    {place : Place} (hfound : (t.find? place).isSome = true) :
    (t'.find? place).isSome = true := by
  obtain ⟨e, he⟩ := Option.isSome_iff_exists.1 hfound
  cases e with
  | directory => simp [h.directory place he]
  | file content =>
    obtain ⟨content', hfile, -⟩ := h.file place content he
    simp [hfile]

/-- A file that is not written keeps its content. -/
theorem Grown.find?_file {written : Place → Prop} {t t' : FileTree} (h : Grown written t t')
    {place : Place} {content : List Nat} (hfile : t.find? place = some (.file content))
    (hnot : ¬ written place) : t'.find? place = some (.file content) := by
  obtain ⟨content', hfound, hkept⟩ := h.file place content hfile
  rw [hfound, hkept hnot]

/-- Nothing is changed by a change of one file to what it holds. -/
theorem Grown.of_same {t t' : FileTree} {place : Place} {content : List Nat}
    (h : Grown (· = place) t t') (hbefore : t.find? place = some (.file content))
    (hafter : t'.find? place = some (.file content)) : Grown (fun _ => False) t t' := by
  refine ⟨h.here, h.directory, fun other old hold => ?_, fun other new hnew => .inl ?_⟩
  · by_cases hother : other = place
    · subst hother
      obtain rfl : old = content := by simpa [hbefore] using hold.symm
      exact ⟨old, hafter, fun _ => rfl⟩
    · exact ⟨old, h.find?_file hold hother, fun _ => rfl⟩
  · rcases h.origin other new hnew with hold | rfl
    · exact hold
    · rwa [hbefore, ← hafter]

/-- A directory is put only where nothing is. -/
theorem Grown.put_directory {t : FileTree} {place : Place} (hfree : t.find? place = none) :
    Grown (fun _ => False) t (t.put place .directory) := by
  have hnil : place ≠ [] := by
    rintro rfl
    cases hfree
  have hkeep : ∀ other e, t.find? other = some e →
      (t.put place .directory).find? other = some e := by
    intro other e he
    rw [find?_put_ne _ (by rintro rfl; simp [hfree] at he), he]
  refine ⟨rfl, fun other h => hkeep other _ h, fun other content h =>
    ⟨content, hkeep other _ h, fun _ => rfl⟩, fun other content h => .inl ?_⟩
  by_cases hother : other = place
  · subst hother
    rw [find?_put_self t hnil] at h
    cases h
  · rwa [find?_put_ne _ hother] at h

/-- A file is put only where no directory is. -/
theorem Grown.put_file {t : FileTree} {place : Place} (content : List Nat)
    (hfree : t.find? place ≠ some .directory) :
    Grown (· = place) t (t.put place (.file content)) := by
  have hnil : place ≠ [] := by
    rintro rfl
    exact hfree rfl
  refine ⟨rfl, fun other h => ?_, fun other old h => ?_, fun other new h => ?_⟩
  · rw [find?_put_ne _ (by rintro rfl; exact hfree h), h]
  · by_cases hother : other = place
    · subst hother
      exact ⟨content, find?_put_self t hnil _, fun hnot => absurd rfl hnot⟩
    · exact ⟨old, by rw [find?_put_ne _ hother, h], fun _ => rfl⟩
  · by_cases hother : other = place
    · exact .inr hother
    · exact .inl (by rwa [find?_put_ne _ hother] at h)

/-! ### Following names -/

theorem walk_append (t : FileTree) (place : Place) (names more : List Text) :
    t.walk place (names ++ more) = (t.walk place names).bind fun dest => t.walk dest more := by
  induction names generalizing place with
  | nil => rfl
  | cons name rest ih =>
    simp only [List.cons_append, walk]
    split
    · rfl
    · rfl
    · split
      · exact ih _
      · split
        · exact ih _
        · rfl

/-- One name leads on from a directory to what is in it. -/
theorem walk_singleton {t : FileTree} {place : Place} {name : Text}
    (hplace : t.find? place = some .directory) (hname : name ≠ Path.up)
    (hfound : (t.find? (place ++ [name])).isSome = true) :
    t.walk place [name] = .ok (place ++ [name]) := by
  simp [walk, hplace, hname, hfound]

/-- There are no links, so where names lead to can be told from the names alone. -/
theorem eq_settle_of_walk {t : FileTree} {place dest : Place} {names : List Text}
    (h : t.walk place names = .ok dest) : dest = Path.settle place names := by
  induction names generalizing place with
  | nil =>
    cases h
    rfl
  | cons name rest ih =>
    simp only [walk] at h
    split at h
    · cases h
    · cases h
    · rw [Path.settle]
      split at h
      · rename_i hup
        rw [if_pos hup]
        exact ih h
      · rename_i hup
        rw [if_neg hup]
        split at h
        · exact ih h
        · cases h

/-- Names lead to the same place in a tree that has grown. -/
theorem Grown.walk {written : Place → Prop} {t t' : FileTree} (hg : Grown written t t')
    {place dest : Place} {names : List Text} (h : t.walk place names = .ok dest) :
    t'.walk place names = .ok dest := by
  induction names generalizing place with
  | nil => exact h
  | cons name rest ih =>
    simp only [FileTree.walk] at h ⊢
    split at h
    · cases h
    · cases h
    · rename_i hdir
      simp only [hg.directory place hdir]
      split at h
      · rename_i hup
        rw [if_pos hup]
        exact ih h
      · rename_i hup
        rw [if_neg hup]
        split at h
        · rename_i hfound
          rw [if_pos (hg.isSome hfound)]
          exact ih h
        · cases h

theorem Grown.start {written : Place → Prop} {t t' : FileTree} (hg : Grown written t t')
    (p : Path) : t'.start p = t.start p := by
  simp [FileTree.start, hg.here]

theorem Grown.settle {written : Place → Prop} {t t' : FileTree} (hg : Grown written t t')
    (p : Path) : t'.settle p = t.settle p := by
  simp [FileTree.settle, hg.start]

/-- A path that leads to a place leads to the place that its names alone tell. -/
theorem eq_settle_of_locate {t : FileTree} {p : Path} {place : Place}
    (h : t.locate p = .ok place) : place = t.settle p := by
  unfold locate at h
  split at h
  · cases h
  · exact eq_settle_of_walk h

theorem Grown.locate {written : Place → Prop} {t t' : FileTree} (hg : Grown written t t')
    {p : Path} {place : Place} (h : t.locate p = .ok place) : t'.locate p = .ok place := by
  unfold FileTree.locate at h ⊢
  split at h
  · cases h
  · rename_i hzero
    rw [if_neg hzero, hg.start]
    exact hg.walk h

/-- A file can be read if its path leads to it. -/
theorem readBytes_eq_ok_iff {t : FileTree} {p : Path} {content : List Nat} :
    t.readBytes p = .ok content ↔
      t.locate p = .ok (t.settle p) ∧ t.find? (t.settle p) = some (.file content) := by
  unfold readBytes
  cases h : t.locate p with
  | error fault => simp
  | ok place =>
    obtain rfl := eq_settle_of_locate h
    simp only [true_and]
    cases t.find? (t.settle p) with
    | none => simp
    | some e => cases e <;> simp

/-- A file that is not written is read as before. -/
theorem Grown.readBytes {written : Place → Prop} {t t' : FileTree} (hg : Grown written t t')
    {p : Path} {content : List Nat} (h : t.readBytes p = .ok content)
    (hnot : ¬ written (t.settle p)) : t'.readBytes p = .ok content := by
  rw [readBytes_eq_ok_iff] at h ⊢
  rw [hg.settle]
  exact ⟨hg.locate h.1, hg.find?_file h.2 hnot⟩

end Docpress.FileTree
