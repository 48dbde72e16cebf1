import Docpress.Proofs.FileTree.Growth
import Mathlib.Data.List.Induction
/-!
How files are laid out: each place holds one entry, and lies in a directory. So the names of an
entry lead to it.
-/

namespace Docpress

/-- What a file or a directory may be called. -/
def IsName (name : Text) : Prop :=
  name ≠ [] ∧ name ≠ ['.'] ∧ name ≠ Path.up ∧ '/' ∉ name ∧ Char.ofNat 0 ∉ name

instance (name : Text) : Decidable (IsName name) :=
  inferInstanceAs (Decidable (_ ∧ _))

namespace FileTree

/-- The tree is one that files can form: no place has two entries, entries have proper names and
    lie in directories, and the current directory is one. -/
structure WellFormed (t : FileTree) : Prop where
  distinct : (t.entries.map (·.1)).Nodup
  named : ∀ entry ∈ t.entries, entry.1 ≠ [] ∧ ∀ name ∈ entry.1, IsName name
  inDirectory : ∀ entry ∈ t.entries, t.find? entry.1.dropLast = some .directory
  here : t.find? t.here = some .directory

/-- An entry is found at its place. -/
theorem WellFormed.find?_of_mem {t : FileTree} (ht : t.WellFormed) {place : Place} {e : Entry}
    (h : (place, e) ∈ t.entries) : t.find? place = some e := by
  have hlookup : ∀ entries : List (Place × Entry), (entries.map (·.1)).Nodup →
      (place, e) ∈ entries → entries.lookup place = some e := by
    intro entries hnodup hmem
    induction entries with
    | nil => cases hmem
    | cons entry rest ih =>
      rw [List.map_cons, List.nodup_cons] at hnodup
      rcases List.mem_cons.1 hmem with rfl | hrest
      · simp only [List.lookup_cons, beq_self_eq_true]
      · have hne : place ≠ entry.1 := by
          rintro rfl
          exact hnodup.1 (List.mem_map.2 ⟨_, hrest, rfl⟩)
        have hbeq : (place == entry.1) = false := beq_eq_false_iff_ne.2 hne
        rw [List.lookup_cons, hbeq]
        exact ih hnodup.2 hrest
  rw [find?_of_ne_nil _ (ht.named _ h).1]
  exact hlookup t.entries ht.distinct h

/-- What is found below the top is an entry. -/
theorem mem_of_find? {t : FileTree} {place : Place} {e : Entry} (hplace : place ≠ [])
    (h : t.find? place = some e) : (place, e) ∈ t.entries := by
  rw [find?_of_ne_nil _ hplace, List.lookup_eq_some_iff] at h
  obtain ⟨before, after, hentries, -⟩ := h
  simp [hentries]

/-- What has something below it is a directory. -/
theorem WellFormed.directory_of_below {t : FileTree} (ht : t.WellFormed) {place : Place}
    {name : Text} {rest : List Text} (h : (t.find? (place ++ name :: rest)).isSome = true) :
    t.find? place = some .directory := by
  induction rest using List.reverseRecOn with
  | nil =>
    obtain ⟨e, he⟩ := Option.isSome_iff_exists.1 h
    have hdir := ht.inDirectory _ (mem_of_find? (by simp) he)
    rwa [List.dropLast_concat] at hdir
  | append_singleton rest last ih =>
    obtain ⟨e, he⟩ := Option.isSome_iff_exists.1 h
    have hdir := ht.inDirectory _ (mem_of_find? (by simp) he)
    rw [← List.cons_append, ← List.append_assoc, List.dropLast_concat] at hdir
    exact ih (by rw [hdir, Option.isSome_some])

/-- What has something below it is a directory, and so is the current directory. That is all of a
    tree's form that its readers and writers rely on. -/
structure Closed (t : FileTree) : Prop where
  here : t.find? t.here = some .directory
  above : ∀ place name rest, (t.find? (place ++ name :: rest)).isSome = true →
    t.find? place = some .directory

theorem WellFormed.closed {t : FileTree} (ht : t.WellFormed) : t.Closed :=
  ⟨ht.here, fun _ _ _ => ht.directory_of_below⟩

/-- Names lead to what is found below a place. -/
theorem Closed.walk_of_find? {t : FileTree} (ht : t.Closed) {place : Place} {names : List Text}
    (hnames : Path.up ∉ names) (h : (t.find? (place ++ names)).isSome = true) :
    t.walk place names = .ok (place ++ names) := by
  induction names generalizing place with
  | nil => simp [walk]
  | cons name rest ih =>
    have hdir := ht.above place name rest h
    have hname : name ≠ Path.up := fun heq => hnames (by simp [heq])
    rw [List.append_cons] at h ⊢
    have hfound : (t.find? (place ++ [name])).isSome = true := by
      cases rest with
      | nil => simpa using h
      | cons next rest => rw [ht.above _ next rest h, Option.isSome_some]
    rw [← List.singleton_append, walk_append, walk_singleton hdir hname hfound]
    exact ih (fun hmem => hnames (List.mem_cons_of_mem _ hmem)) h

theorem WellFormed.walk_of_find? {t : FileTree} (ht : t.WellFormed) {place : Place}
    {names : List Text} (hnames : Path.up ∉ names)
    (h : (t.find? (place ++ names)).isSome = true) :
    t.walk place names = .ok (place ++ names) :=
  ht.closed.walk_of_find? hnames h

end FileTree

end Docpress
