import Docpress.Config.Load
import Docpress.Proofs.FileTree.Layout
import Docpress.Proofs.Path.Written
import Mathlib.Data.List.Infix
/-!
The directories that a configuration gives. Wherever they come from, what their paths are written as
can be read again, and seen from a directory they are absolute.
-/

namespace Docpress

/-- A computation has failed in its first part, or it goes on with what that has given. -/
theorem bind_cases {ε α β : Type} {first : Except ε α} {next : α → Except ε β}
    {result : Except ε β} (h : first >>= next = result) :
    (∃ e, first = .error e ∧ result = .error e) ∨ ∃ a, first = .ok a ∧ next a = result := by
  cases first with
  | error e => exact .inl ⟨e, rfl, h.symm⟩
  | ok a => exact .inr ⟨a, rfl, h⟩

/-- A computation that ends well has gone through both of its parts. -/
theorem exists_of_bind_eq_ok {ε α β : Type} {first : Except ε α} {next : α → Except ε β} {b : β}
    (h : first >>= next = .ok b) : ∃ a, first = .ok a ∧ next a = .ok b :=
  (bind_cases h).resolve_left fun ⟨_, _, heq⟩ => by cases heq

/-- An error that was given another wording comes from one. -/
theorem exists_of_mapError_eq_error {ε ε' α : Type} {result : Except ε α} {f : ε → ε'} {e : ε'}
    (h : result.mapError f = .error e) : ∃ e', f e' = e := by
  cases result with
  | error e' => exact ⟨e', Except.error.inj h⟩
  | ok a => cases h

theorem mapError_eq_ok {ε ε' α : Type} {result : Except ε α} {f : ε → ε'} {a : α} :
    result.mapError f = .ok a ↔ result = .ok a := by
  cases result <;> simp [Except.mapError]

theorem IsName.isPart {name : Text} (h : IsName name) : Path.IsPart name :=
  ⟨h.1, h.2.1, h.2.2.2.1⟩

/-- Names below a readable directory make a readable path. -/
theorem Path.IsReadable.join_names {dir : Path} (hdir : dir.IsReadable) {names : List Text}
    (hnames : ∀ name ∈ names, IsPart name) : (dir.join { names }).IsReadable := by
  refine ⟨hdir.root, fun name hname => ?_⟩
  rcases List.mem_append.1 hname with h | h
  · exact hdir.parts name h
  · exact hnames name h

theorem Path.mem_settle {base names : List Text} {name : Text} (h : name ∈ settle base names) :
    name ∈ base ∨ name ∈ names := by
  induction names generalizing base with
  | nil => exact .inl h
  | cons next rest ih =>
    rw [settle] at h
    split at h
    · exact (ih h).imp List.mem_of_mem_dropLast (List.mem_cons_of_mem _)
    · rcases ih h with hbase | hrest
      · rcases List.mem_append.1 hbase with hbase | hnext
        · exact .inl hbase
        · exact .inr (List.mem_singleton.1 hnext ▸ List.mem_cons_self)
      · exact .inr (List.mem_cons_of_mem _ hrest)

/-- The current directory has proper names. -/
theorem FileTree.WellFormed.isName_of_mem_here {t : FileTree} (ht : t.WellFormed) {name : Text}
    (h : name ∈ t.here) : IsName name :=
  (ht.named _ (mem_of_find? (List.ne_nil_of_mem h) ht.here)).2 name h

/-- The place of a readable path has names that paths may hold. -/
theorem FileTree.WellFormed.isPart_of_mem_settle {t : FileTree} (ht : t.WellFormed) {p : Path}
    (hp : p.IsReadable) {name : Text} (h : name ∈ t.settle p) : Path.IsPart name := by
  rcases Path.mem_settle h with hstart | hnames
  · unfold FileTree.start at hstart
    split at hstart
    · cases hstart
    · exact (ht.isName_of_mem_here hstart).isPart
  · exact hp.parts name hnames

theorem readPath_isReadable {default p : Path} (hdefault : default.IsReadable) {v : Option Value}
    (h : readPath default v = .ok p) : p.IsReadable := by
  unfold readPath at h
  split at h
  · cases h
    exact hdefault
  · cases h
    exact Path.isReadable_ofText _
  · cases h
    exact hdefault
  · cases h
  · cases h

theorem Config.ofEntries_isReadable {entries : List (Value × Value)} {config : Config}
    (h : Config.ofEntries entries = .ok config) :
    config.sourceDir.IsReadable ∧ config.outputDir.IsReadable := by
  unfold Config.ofEntries at h
  split at h
  · cases h
  obtain ⟨sourceDir, hsource, h⟩ := exists_of_bind_eq_ok h
  obtain ⟨outputDir, houtput, h⟩ := exists_of_bind_eq_ok h
  split at h
  · cases h
    exact ⟨readPath_isReadable (Path.isReadable_ofText _) hsource,
      readPath_isReadable (Path.isReadable_ofText _) houtput⟩
  · cases h
  · cases h

/-- A path that is seen from a directory no longer depends on the current one. -/
theorem resolveFrom_isReadable {base : Place} {path p : Path}
    (hbase : ∀ name ∈ base, Path.IsPart name) (hpath : path.IsReadable)
    (h : resolveFrom base path = .ok p) : p.isAbsolute = true ∧ p.IsReadable := by
  unfold resolveFrom at h
  split at h
  · rename_i habsolute
    cases h
    exact ⟨habsolute, hpath⟩
  · split at h
    · cases h
    · cases h
      refine ⟨rfl, .inr (.inl rfl), fun name hname => ?_⟩
      exact (Path.mem_settle hname).elim (hbase name) (hpath.parts name)

end Docpress
