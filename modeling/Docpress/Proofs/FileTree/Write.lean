import Docpress.Proofs.FileTree.Growth
/-!
What writing a file and making directories do to a tree: it grows, and the file that was written
can be read again.
-/

namespace Docpress

namespace Path

theorem settle_append (base names more : List Text) :
    settle base (names ++ more) = settle (settle base names) more := by
  induction names generalizing base with
  | nil => rfl
  | cons name rest ih =>
    simp only [List.cons_append, settle]
    split <;> exact ih _

/-- Names without a step up lead down. -/
theorem settle_of_up_notMem {names : List Text} (h : up ∉ names) (base : List Text) :
    settle base names = base ++ names := by
  induction names generalizing base with
  | nil => simp [settle]
  | cons name rest ih =>
    have hname : name ≠ up := fun heq => h (by simp [heq])
    rw [settle, if_neg (by simpa using hname), ih fun hmem => h (List.mem_cons_of_mem _ hmem)]
    simp

/-- The last name of a path that is no step up is the last name of its place. -/
theorem settle_eq_dropLast {names : List Text} {name : Text} (h : names.getLast? = some name)
    (hname : name ≠ up) (base : List Text) :
    settle base names = settle base names.dropLast ++ [name] := by
  obtain ⟨lead, rfl⟩ := List.getLast?_eq_some_iff.1 h
  rw [settle_append, List.dropLast_concat, settle_of_up_notMem (by simpa using hname.symm)]

end Path

namespace FileTree

/-- Where the last name of a path is to be found. -/
theorem locateParent_eq_ok {t : FileTree} {p : Path} {dir : Place} {name : Text}
    (h : t.locateParent p = .ok (some (dir, name))) :
    p.hasZero = false ∧ p.names.getLast? = some name ∧ name ≠ Path.up ∧
      t.walk (t.start p) p.names.dropLast = .ok dir ∧ t.find? dir = some .directory ∧
      t.settle p = dir ++ [name] := by
  unfold locateParent at h
  split at h
  · cases h
  · rename_i last hlast
    split at h
    · cases h
    · rename_i hzero
      split at h
      · cases h
      · rename_i place hwalk
        split at h
        · rename_i hdir
          split at h
          · cases h
          · rename_i hup
            cases h
            have hname : name ≠ Path.up := by simpa using hup
            refine ⟨by simpa using hzero, hlast, hname, hwalk, hdir, ?_⟩
            rw [settle, Path.settle_eq_dropLast hlast hname, ← eq_settle_of_walk hwalk]
        · cases h
        · cases h

theorem makeDirectory_grown {t t' : FileTree} {p : Path} (h : t.makeDirectory p = .ok t') :
    Grown (fun _ => False) t t' := by
  unfold makeDirectory at h
  split at h
  · cases h
  · cases h
  · split at h
    · cases h
    · rename_i hfree
      cases h
      exact Grown.put_directory (by simpa using hfree)

theorem ensureDirectory_grown {t t' : FileTree} {p : Path} (h : t.ensureDirectory p = .ok t') :
    Grown (fun _ => False) t t' := by
  unfold ensureDirectory at h
  split at h
  · rename_i hmade
    cases h
    exact makeDirectory_grown hmade
  · split at h
    · cases h
      exact Grown.refl _ _
    · cases h

theorem ensureAbove_grown {t t' : FileTree} {p : Path} {pending : List Text}
    (h : t.ensureAbove p pending = .ok t') : Grown (fun _ => False) t t' := by
  induction pending generalizing t t' p with
  | nil => exact ensureDirectory_grown h
  | cons name rest ih =>
    simp only [ensureAbove] at h
    split at h
    · rename_i hmade
      cases h
      exact ensureDirectory_grown hmade
    · split at h
      · cases habove : t.ensureAbove p.parent rest with
        | error e =>
          rw [habove] at h
          cases h
        | ok above =>
          rw [habove] at h
          exact (ih habove).trans (ensureDirectory_grown h)
      · cases h

theorem ensureDirectories_grown {t t' : FileTree} {p : Path}
    (h : t.ensureDirectories p = .ok t') : Grown (fun _ => False) t t' :=
  ensureAbove_grown h

/-- Writing a file changes no other file, and what was written is read again. -/
theorem write_grown {t t' : FileTree} {p : Path} {content : List Nat}
    (h : t.write p content = .ok t') :
    Grown (· = t.settle p) t t' ∧ t'.readBytes p = .ok content := by
  unfold write at h
  split at h
  · cases h
  · cases h
  · rename_i dir name hparent
    obtain ⟨hzero, hlast, hname, hwalk, hdir, hsettle⟩ := locateParent_eq_ok hparent
    split at h
    · cases h
    · rename_i hfree
      cases h
      have hgrown : Grown (· = dir ++ [name]) t (t.put (dir ++ [name]) (.file content)) :=
        Grown.put_file content (by simpa using hfree)
      have hfile : (t.put (dir ++ [name]) (.file content)).find? (dir ++ [name]) =
          some (.file content) :=
        find?_put_self t (by simp) _
      refine ⟨hsettle ▸ hgrown, ?_⟩
      rw [readBytes_eq_ok_iff, hgrown.settle, hsettle]
      refine ⟨?_, hfile⟩
      obtain ⟨lead, hnames⟩ := List.getLast?_eq_some_iff.1 hlast
      rw [hnames, List.dropLast_concat] at hwalk
      rw [locate, if_neg (by simp [hzero]), hgrown.start, hnames, walk_append, hgrown.walk hwalk]
      exact walk_singleton (hgrown.directory dir hdir) hname (by simp [hfile])

end FileTree

end Docpress
