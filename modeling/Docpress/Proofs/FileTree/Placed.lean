import Docpress.Proofs.FileTree.Layout
import Docpress.Proofs.FileTree.Write
import Mathlib.Data.List.Basic
/-!
Files that are written into directories of their own making. Whether a file can be written, and what
is in the tree afterwards, is told by what was there before; where no file lies at or below another,
nothing of that depends on the order in which they are written.
-/

namespace Docpress

/-- The path holds no step up. -/
def Path.Descends (p : Path) : Prop :=
  Path.up ∉ p.names

instance (p : Path) : Decidable p.Descends :=
  inferInstanceAs (Decidable (_ ∉ _))

theorem Path.hasZero_parent {p : Path} (h : p.hasZero = false) : p.parent.hasZero = false := by
  rw [Path.hasZero, List.any_eq_false] at h ⊢
  exact fun name hname => h name (List.dropLast_subset _ hname)

theorem Path.Descends.parent {p : Path} (hp : p.Descends) : p.parent.Descends :=
  fun hmem => hp (List.dropLast_subset _ hmem)

namespace FileTree

/-- A file can be written to the place once its directories are made: no file is in their way, and
    the place itself is no directory. -/
structure Vacant (t : FileTree) (place : Place) : Prop where
  above : ∀ dir name rest content, place = dir ++ name :: rest →
    t.find? dir ≠ some (.file content)
  self : t.find? place ≠ some .directory

/-- The second tree is the first with directories at a place and above it. -/
structure Opened (dir : Place) (t t' : FileTree) : Prop where
  here : t'.here = t.here
  inside : ∀ place, place <+: dir → t'.find? place = some .directory
  other : ∀ place, ¬ place <+: dir → t'.find? place = t.find? place

/-- The second tree is the first with these files, and with the directories that they lie in. -/
structure Placed (files : List (Place × List Nat)) (t t' : FileTree) : Prop where
  here : t'.here = t.here
  file : ∀ place content, (place, content) ∈ files → t'.find? place = some (.file content)
  above : ∀ place name rest content, (place ++ name :: rest, content) ∈ files →
    t'.find? place = some .directory
  other : ∀ place, (∀ file ∈ files, ¬ place <+: file.1) → t'.find? place = t.find? place

/-- Neither place lies at or below the other. -/
def Apart (place place' : Place) : Prop :=
  ¬ place <+: place' ∧ ¬ place' <+: place

variable {t t' t'' : FileTree} {p q : Path} {place dir : Place} {name : Text}
  {content : List Nat} {files files' : List (Place × List Nat)}

/-! ### Where a descending path leads -/

theorem settle_eq_append (t : FileTree) (hp : p.Descends) : t.settle p = t.start p ++ p.names :=
  Path.settle_of_up_notMem hp _

theorem Closed.start (ht : t.Closed) (p : Path) : t.find? (t.start p) = some .directory := by
  unfold FileTree.start
  split
  · rfl
  · exact ht.here

/-- What lies above a directory is a directory. -/
theorem Closed.directory_of_prefix (ht : t.Closed) (hdir : t.find? dir = some .directory)
    (hplace : place <+: dir) : t.find? place = some .directory := by
  obtain ⟨names, rfl⟩ := hplace
  cases names with
  | nil => rwa [List.append_nil] at hdir
  | cons name rest => exact ht.above place name rest (by rw [hdir, Option.isSome_some])

theorem Closed.locate_eq_ok (ht : t.Closed) (hp : p.Descends) (hzero : p.hasZero = false)
    (h : (t.find? (t.settle p)).isSome = true) : t.locate p = .ok (t.settle p) := by
  rw [settle_eq_append t hp] at h ⊢
  rw [locate, if_neg (by simp [hzero]), ht.walk_of_find? hp h]

theorem Closed.isDirectory_iff (ht : t.Closed) (hp : p.Descends) (hzero : p.hasZero = false) :
    t.isDirectory p = true ↔ t.find? (t.settle p) = some .directory := by
  rw [isDirectory, beq_iff_eq, at?]
  constructor
  · intro h
    cases hlocate : t.locate p with
    | error fault =>
      rw [hlocate] at h
      cases h
    | ok place =>
      rw [hlocate] at h
      rwa [← eq_settle_of_locate hlocate]
  · intro h
    rw [ht.locate_eq_ok hp hzero (by rw [h, Option.isSome_some])]
    exact h

/-- A file can be read if it is at the path's place. -/
theorem Closed.readBytes_eq_ok_iff (ht : t.Closed) (hp : p.Descends) (hzero : p.hasZero = false) :
    t.readBytes p = .ok content ↔ t.find? (t.settle p) = some (.file content) := by
  rw [FileTree.readBytes_eq_ok_iff]
  exact and_iff_right_of_imp fun h => ht.locate_eq_ok hp hzero (by rw [h, Option.isSome_some])

/-- Names pass through directories on their way. -/
theorem directory_of_walk {names rest : List Text} {dest : Place} (hnames : Path.up ∉ names)
    (h : t.walk place (names ++ name :: rest) = .ok dest) :
    t.find? (place ++ names) = some .directory := by
  rw [walk_append] at h
  cases hwalk : t.walk place names with
  | error fault =>
    rw [hwalk] at h
    cases h
  | ok passed =>
    rw [hwalk] at h
    obtain rfl := (eq_settle_of_walk hwalk).trans (Path.settle_of_up_notMem hnames place)
    simp only [Except.bind, walk] at h
    split at h
    · cases h
    · cases h
    · assumption

/-- Names that no file is in the way of lead to what is there or are missing. -/
theorem walk_eq_missing {names : List Text} (hplace : t.find? place = some .directory)
    (hnames : Path.up ∉ names)
    (hfree : ∀ lead content, lead <+: names → t.find? (place ++ lead) ≠ some (.file content))
    (h : t.find? (place ++ names) = none) : t.walk place names = .error .missing := by
  induction names generalizing place with
  | nil =>
    rw [List.append_nil, hplace] at h
    cases h
  | cons name rest ih =>
    have hname : name ≠ Path.up := fun heq => hnames (by simp [heq])
    simp only [walk, hplace]
    rw [if_neg (by simpa using hname)]
    split
    · rename_i hfound
      have hnext : t.find? (place ++ [name]) = some .directory := by
        obtain ⟨e, he⟩ := Option.isSome_iff_exists.1 hfound
        cases e with
        | directory => exact he
        | file content => exact absurd he (hfree [name] content (by simp))
      refine ih hnext (fun hmem => hnames (List.mem_cons_of_mem _ hmem)) ?_ ?_
      · intro lead content hlead
        rw [List.append_assoc]
        exact hfree _ content ((List.prefix_cons_inj name).2 hlead)
      · rwa [List.append_assoc]
    · rfl

/-! ### Making directories -/

theorem not_concat_prefix (place : Place) (name : Text) : ¬ place ++ [name] <+: place := by
  intro h
  have hlength := h.length_le
  rw [List.length_append, List.length_singleton] at hlength
  omega

theorem Opened.settle (h : Opened dir t t') (p : Path) : t'.settle p = t.settle p := by
  simp [FileTree.settle, FileTree.start, h.here]

theorem Opened.refl (ht : t.Closed) (hdir : t.find? dir = some .directory) : Opened dir t t :=
  ⟨rfl, fun _ hplace => ht.directory_of_prefix hdir hplace, fun _ _ => rfl⟩

theorem Opened.closed (ht : t.Closed) (h : Opened dir t t') : t'.Closed := by
  have hkeep : ∀ place, t.find? place = some .directory → t'.find? place = some .directory := by
    intro place hplace
    by_cases habove : place <+: dir
    · exact h.inside place habove
    · rwa [h.other place habove]
  refine ⟨?_, fun place name rest hbelow => ?_⟩
  · rw [h.here]
    exact hkeep _ ht.here
  · by_cases habove : place ++ name :: rest <+: dir
    · exact h.inside place ((List.prefix_append _ _).trans habove)
    · rw [h.other _ habove] at hbelow
      exact hkeep place (ht.above place name rest hbelow)

/-- A directory that is made in one that is there. -/
theorem Opened.put (ht : t.Closed) (hdir : t.find? dir = some .directory) (name : Text) :
    Opened (dir ++ [name]) t (t.put (dir ++ [name]) .directory) := by
  refine ⟨rfl, fun place hplace => ?_, fun place hplace => ?_⟩
  · rcases List.prefix_concat_iff.1 hplace with rfl | hplace
    · exact find?_put_self t (by simp) _
    · rw [find?_put_ne _ ?_]
      · exact ht.directory_of_prefix hdir hplace
      · rintro rfl
        exact not_concat_prefix dir name hplace
  · exact find?_put_ne _ (by rintro rfl; exact hplace (List.prefix_refl _)) _

theorem Opened.trans (h : Opened dir t t') (h' : Opened (dir ++ [name]) t' t'') :
    Opened (dir ++ [name]) t t'' := by
  refine ⟨h'.here.trans h.here, h'.inside, fun place hplace => ?_⟩
  rw [h'.other place hplace, h.other place fun habove =>
    hplace (habove.trans (List.prefix_append _ _))]

/-- The place of a path is in that of its parent. -/
theorem settle_eq_settle_parent (t : FileTree) (hp : p.Descends) {lead : List Text}
    (hnames : p.names = lead ++ [name]) : t.settle p = t.settle p.parent ++ [name] := by
  rw [settle_eq_append t hp, settle_eq_append t hp.parent, Path.parent, hnames,
    List.dropLast_concat, ← List.append_assoc]
  rfl

/-- The last name of a path is looked for in its parent if that is a directory. -/
theorem Closed.locateParent_eq_ok (ht : t.Closed) (hp : p.Descends) (hzero : p.hasZero = false)
    {lead : List Text} (hnames : p.names = lead ++ [name])
    (hdir : t.find? (t.settle p.parent) = some .directory) :
    t.locateParent p = .ok (some (t.settle p.parent, name)) := by
  have hwalk := ht.locate_eq_ok hp.parent (Path.hasZero_parent hzero) (by rw [hdir, Option.isSome_some])
  rw [locate, if_neg (by simp [Path.hasZero_parent hzero])] at hwalk
  have hname : name ≠ Path.up := fun heq => hp (by simp [hnames, heq])
  have hlast : p.names.getLast? = some name := by rw [hnames, List.getLast?_concat]
  have hstart : t.walk (t.start p) p.names.dropLast = .ok (t.settle p.parent) := hwalk
  simp only [locateParent, hlast, hzero, Bool.false_eq_true, if_false, hstart, hdir]
  rw [if_neg (by simpa using hname)]

/-- A directory is made in its parent, if it is not there. -/
theorem Closed.ensureDirectory_opened (ht : t.Closed) (hp : p.Descends)
    (hzero : p.hasZero = false) {lead : List Text} (hnames : p.names = lead ++ [name])
    (hdir : t.find? (t.settle p.parent) = some .directory)
    (hfree : ∀ content, t.find? (t.settle p) ≠ some (.file content)) :
    ∃ made, t.ensureDirectory p = .ok made ∧ Opened (t.settle p) t made := by
  have hsettle := settle_eq_settle_parent t hp hnames
  have hparent := ht.locateParent_eq_ok hp hzero hnames hdir
  rw [ensureDirectory, makeDirectory, hparent]
  simp only [← hsettle]
  cases hfound : t.find? (t.settle p) with
  | none =>
    refine ⟨_, rfl, ?_⟩
    rw [hsettle]
    exact Opened.put ht hdir name
  | some e =>
    cases e with
    | file content => exact absurd hfound (hfree content)
    | directory =>
      refine ⟨t, ?_, Opened.refl ht hfound⟩
      simp [(ht.isDirectory_iff hp hzero).2 hfound]

/-- A directory cannot be made where its parent is missing. -/
theorem Closed.ensureDirectory_eq_missing (ht : t.Closed) (hp : p.Descends)
    (hzero : p.hasZero = false) {lead : List Text} (hnames : p.names = lead ++ [name])
    (hdir : t.find? (t.settle p.parent) = none)
    (hfree : ∀ place content, place <+: t.settle p → t.find? place ≠ some (.file content)) :
    t.ensureDirectory p = .error ⟨.missing, p⟩ := by
  have hwalk : t.walk (t.start p) p.names.dropLast = .error .missing := by
    refine walk_eq_missing (ht.start p) hp.parent (fun lead content hlead => ?_) ?_
    · refine hfree _ content ?_
      rw [settle_eq_append t hp, List.prefix_append_right_inj]
      exact hlead.trans (List.dropLast_prefix _)
    · rwa [settle_eq_append t hp.parent] at hdir
  have hlast : p.names.getLast? = some name := by rw [hnames, List.getLast?_concat]
  simp [ensureDirectory, makeDirectory, locateParent, hlast, hzero, hwalk]

/-- The directories of a path that no file is in the way of are made. -/
theorem Closed.ensureAbove_opened (ht : t.Closed) {pending : List Text} (hp : p.Descends)
    (hzero : p.hasZero = false) (hpending : p.names = pending.reverse)
    (hfree : ∀ place content, place <+: t.settle p → t.find? place ≠ some (.file content)) :
    ∃ made, t.ensureAbove p pending = .ok made ∧ Opened (t.settle p) t made := by
  induction pending generalizing p with
  | nil =>
    have hsettle : t.settle p = t.start p := by
      rw [settle_eq_append t hp, hpending, List.reverse_nil, List.append_nil]
    have hdir : t.find? (t.settle p) = some .directory := hsettle ▸ ht.start p
    have hparent : t.locateParent p = .ok none := by
      simp [locateParent, hpending]
    refine ⟨t, ?_, Opened.refl ht hdir⟩
    simp [ensureAbove, ensureDirectory, makeDirectory, hparent,
      (ht.isDirectory_iff hp hzero).2 hdir]
  | cons name pending ih =>
    have hnames : p.names = pending.reverse ++ [name] := by rw [hpending, List.reverse_cons]
    have hsettle := settle_eq_settle_parent t hp hnames
    have habove : t.settle p.parent <+: t.settle p := hsettle ▸ List.prefix_append _ _
    have hself := fun content => hfree (t.settle p) content (List.prefix_refl _)
    cases hdir : t.find? (t.settle p.parent) with
    | some e =>
      cases e with
      | file content => exact absurd hdir (hfree _ content habove)
      | directory =>
        obtain ⟨made, hmade, hopened⟩ := ht.ensureDirectory_opened hp hzero hnames hdir hself
        exact ⟨made, by rw [ensureAbove, hmade], hopened⟩
    | none =>
      have hmissing := ht.ensureDirectory_eq_missing hp hzero hnames hdir hfree
      have hlead : p.parent.names = pending.reverse := by
        rw [Path.parent, hnames, List.dropLast_concat]
      obtain ⟨parents, hparents, hopened⟩ := ih hp.parent (Path.hasZero_parent hzero) hlead
        fun place content hplace => hfree place content (hplace.trans habove)
      -- The last directory is not there: the one above it was missing.
      have hbelow : ¬ t.settle p <+: t.settle p.parent := hsettle ▸ not_concat_prefix _ _
      obtain ⟨made, hmade, hopened'⟩ := (hopened.closed ht).ensureDirectory_opened hp hzero hnames
        (by rw [hopened.settle]; exact hopened.inside _ (List.prefix_refl _))
        (by rw [hopened.settle, hopened.other _ hbelow]; exact hself)
      refine ⟨made, ?_, ?_⟩
      · simp [ensureAbove, hmissing, hparents, hmade, bind, Except.bind]
      · rw [hopened.settle, hsettle] at hopened'
        rw [hsettle]
        exact hopened.trans hopened'

/-! ### Writing one file -/

/-- A file that is put into a directory that was made for it. -/
theorem Opened.placed (h : Opened dir t t') (name : Text) (content : List Nat) :
    Placed [(dir ++ [name], content)] t (t'.put (dir ++ [name]) (.file content)) := by
  refine ⟨h.here, ?_, ?_, ?_⟩
  · rintro place content' hfile
    obtain ⟨rfl, rfl⟩ := Prod.mk.inj (List.mem_singleton.1 hfile)
    exact find?_put_self _ (by simp) _
  · rintro place next rest content' hfile
    obtain ⟨hplace, rfl⟩ := Prod.mk.inj (List.mem_singleton.1 hfile)
    have habove : place <+: dir ++ [name] := hplace ▸ List.prefix_append _ _
    have hne : place ≠ dir ++ [name] := by
      rw [← hplace]
      simp
    rw [find?_put_ne _ hne]
    exact h.inside place ((List.prefix_concat_iff.1 habove).resolve_left hne)
  · intro place hplace
    have hfar := hplace _ (List.mem_singleton_self _)
    rw [find?_put_ne _ (by rintro rfl; exact hfar (List.prefix_refl _)), h.other place]
    exact fun habove => hfar (habove.trans (List.prefix_append _ _))

/-- A file is written into directories that are made for it. -/
theorem Vacant.placed (ht : t.Closed) (hp : p.Descends) (hzero : p.hasZero = false)
    (h : t.Vacant (t.settle p)) (content : List Nat) :
    ∃ made written, t.ensureDirectories p.parent = .ok made ∧ made.write p content = .ok written ∧
      Placed [(t.settle p, content)] t written := by
  obtain ⟨lead, name, hnames⟩ := List.eq_nil_or_concat' p.names |>.resolve_left fun hnil => by
    refine h.self ?_
    rw [settle_eq_append t hp, hnil, List.append_nil]
    exact ht.start p
  have hsettle := settle_eq_settle_parent t hp hnames
  obtain ⟨made, hmade, hopened⟩ := ht.ensureAbove_opened hp.parent (Path.hasZero_parent hzero)
    (List.reverse_reverse _).symm fun place content hplace => by
      obtain ⟨rest, hrest⟩ := hplace
      rw [← hrest] at hsettle
      cases rest with
      | nil => exact h.above place name [] content (by simpa using hsettle)
      | cons next rest =>
        exact h.above place next (rest ++ [name]) content (by simpa using hsettle)
  have hself : made.find? (t.settle p) ≠ some .directory := by
    rw [hopened.other _ (hsettle ▸ not_concat_prefix _ _)]
    exact h.self
  have hparent := (hopened.closed ht).locateParent_eq_ok hp hzero hnames
    (by rw [hopened.settle]; exact hopened.inside _ (List.prefix_refl _))
  rw [hopened.settle] at hparent
  refine ⟨made, made.put (t.settle p) (.file content), hmade, ?_, ?_⟩
  · simp only [write, hparent, ← hsettle]
    rw [if_neg (by simpa using hself)]
  · rw [hsettle]
    exact hopened.placed name content

/-- A file that was written could be. -/
theorem vacant_of_write (ht : t.Closed) (hp : p.Descends) {made written : FileTree}
    (hmade : t.ensureDirectories p.parent = .ok made) (hwritten : made.write p content = .ok written) :
    p.hasZero = false ∧ t.Vacant (t.settle p) := by
  obtain ⟨hgrown, hread⟩ := write_grown hwritten
  have hgrown' : Grown (· = made.settle p) t written :=
    ((ensureDirectories_grown hmade).mono fun _ => False.elim).trans hgrown
  obtain ⟨hlocate, hfile⟩ := FileTree.readBytes_eq_ok_iff.1 hread
  rw [hgrown'.settle] at hlocate hfile
  have hzero : p.hasZero = false := by
    rw [locate] at hlocate
    split at hlocate
    · cases hlocate
    · rename_i hzero
      simpa using hzero
  rw [locate, if_neg (by simp [hzero]), hgrown'.start] at hlocate
  refine ⟨hzero, fun place name rest old hplace hold => ?_, fun hdir => ?_⟩
  · obtain ⟨new, hnew, -⟩ := hgrown'.file place old hold
    -- The place lies above the path's start, or the path's names pass through it.
    rcases List.prefix_or_prefix_of_prefix (List.prefix_append place (name :: rest))
      (hplace ▸ settle_eq_append t hp ▸ List.prefix_append _ _) with habove | ⟨lead, rfl⟩
    · rw [ht.directory_of_prefix (ht.start p) habove] at hold
      cases hold
    · rw [settle_eq_append t hp, List.append_assoc, List.append_cancel_left_eq] at hplace
      have hlead : Path.up ∉ lead := fun hmem => hp (by simp [hplace, hmem])
      rw [hplace] at hlocate
      rw [directory_of_walk hlead hlocate] at hnew
      cases hnew
  · rw [hgrown'.directory _ hdir] at hfile
    cases hfile

/-! ### Writing several files -/

theorem Placed.nil (t : FileTree) : Placed [] t t :=
  ⟨rfl, nofun, nofun, fun _ _ => rfl⟩

theorem Placed.settle (h : Placed files t t') (p : Path) : t'.settle p = t.settle p := by
  simp [FileTree.settle, FileTree.start, h.here]

/-- What is at a place that a written file lies at or below. -/
theorem Placed.find?_of_prefix (h : Placed files t t') {file : Place × List Nat}
    (hfile : file ∈ files) (hplace : place <+: file.1) :
    (place = file.1 ∧ t'.find? place = some (.file file.2)) ∨
      (place ≠ file.1 ∧ t'.find? place = some .directory) := by
  obtain ⟨target, content⟩ := file
  obtain ⟨rest, rfl⟩ := hplace
  cases rest with
  | nil =>
    rw [List.append_nil] at hfile ⊢
    exact .inl ⟨rfl, h.file place content hfile⟩
  | cons name rest => exact .inr ⟨by simp, h.above place name rest content hfile⟩

/-- Files, and others that are written after them and lie apart from them. -/
theorem Placed.append (h : Placed files t t') (h' : Placed files' t' t'')
    (hapart : ∀ file ∈ files, ∀ later ∈ files', Apart file.1 later.1) :
    Placed (files ++ files') t t'' := by
  refine ⟨h'.here.trans h.here, ?_, ?_, ?_⟩
  · intro place content hmem
    rcases List.mem_append.1 hmem with hmem | hmem
    · rw [h'.other place fun later hlater => (hapart _ hmem later hlater).1]
      exact h.file place content hmem
    · exact h'.file place content hmem
  · intro place name rest content hmem
    rcases List.mem_append.1 hmem with hmem | hmem
    · by_cases hlater : ∃ later ∈ files', place <+: later.1
      · obtain ⟨later, hlater, habove⟩ := hlater
        rcases h'.find?_of_prefix hlater habove with ⟨rfl, -⟩ | ⟨-, hdir⟩
        · exact absurd (List.prefix_append _ _) (hapart _ hmem later hlater).2
        · exact hdir
      · rw [h'.other place fun later hmem habove => hlater ⟨later, hmem, habove⟩]
        exact h.above place name rest content hmem
    · exact h'.above place name rest content hmem
  · intro place hplace
    rw [h'.other place fun later hlater => hplace later (List.mem_append_right _ hlater),
      h.other place fun file hfile => hplace file (List.mem_append_left _ hfile)]

/-- Trees that the same files were written to are the same in every place. -/
theorem Placed.find?_eq (h : Placed files t t') (h' : Placed files' t t'')
    (hsame : ∀ file, file ∈ files ↔ file ∈ files') (place : Place) :
    t'.find? place = t''.find? place := by
  by_cases hplace : ∃ file ∈ files, place <+: file.1
  · obtain ⟨file, hfile, habove⟩ := hplace
    rcases h.find?_of_prefix hfile habove with ⟨hself, heq⟩ | ⟨hne, heq⟩
    · rcases h'.find?_of_prefix ((hsame file).1 hfile) habove with ⟨-, heq'⟩ | ⟨hne, -⟩
      · rw [heq, heq']
      · exact absurd hself hne
    · rcases h'.find?_of_prefix ((hsame file).1 hfile) habove with ⟨hself, -⟩ | ⟨-, heq'⟩
      · exact absurd hself hne
      · rw [heq, heq']
  · have hfar : ∀ file ∈ files, ¬ place <+: file.1 :=
      fun file hfile habove => hplace ⟨file, hfile, habove⟩
    rw [h.other place hfar, h'.other place fun file hfile => hfar file ((hsame file).2 hfile)]

/-- Apart from the files that were written, only directories are new. -/
theorem Placed.find?_of_vacant (h : Placed files t t') (hvacant : ∀ file ∈ files, t.Vacant file.1)
    (hplace : ∀ file ∈ files, place ≠ file.1) :
    t'.find? place = t.find? place ∨
      (t'.find? place = some .directory ∧ ∀ old, t.find? place ≠ some (.file old)) := by
  by_cases hbelow : ∃ file ∈ files, place <+: file.1
  · obtain ⟨file, hfile, habove⟩ := hbelow
    rcases h.find?_of_prefix hfile habove with ⟨heq, -⟩ | ⟨-, hdir⟩
    · exact absurd heq (hplace file hfile)
    · obtain ⟨rest, hrest⟩ := habove
      cases rest with
      | nil => exact absurd (by simpa using hrest) (hplace file hfile)
      | cons name rest =>
        exact .inr ⟨hdir, fun old => (hvacant file hfile).above place name rest old hrest.symm⟩
  · exact .inl (h.other place fun file hfile habove => hbelow ⟨file, hfile, habove⟩)

/-- What is at a place that is apart from the files that were written stays. -/
theorem Placed.find?_of_apart (h : Placed files t t')
    (hapart : ∀ file ∈ files, Apart file.1 place) : t'.find? place = t.find? place :=
  h.other place fun file hfile => (hapart file hfile).2

theorem Placed.closed (h : Placed files t t') (ht : t.Closed)
    (hvacant : ∀ file ∈ files, t.Vacant file.1) : t'.Closed := by
  have hkeep : ∀ place, t.find? place = some .directory → t'.find? place = some .directory := by
    intro place hplace
    have hne : ∀ file ∈ files, place ≠ file.1 := by
      rintro file hfile rfl
      exact (hvacant file hfile).self hplace
    rcases h.find?_of_vacant hvacant hne with heq | ⟨hdir, -⟩
    · rwa [heq]
    · exact hdir
  refine ⟨?_, fun place name rest hbelow => ?_⟩
  · rw [h.here]
    exact hkeep _ ht.here
  · by_cases habove : ∃ file ∈ files, place ++ name :: rest <+: file.1
    · obtain ⟨file, hfile, habove⟩ := habove
      rcases h.find?_of_prefix hfile ((List.prefix_append _ _).trans habove) with ⟨heq, -⟩ | ⟨-, hdir⟩
      · have hlength := habove.length_le
        rw [← heq, List.length_append, List.length_cons] at hlength
        omega
      · exact hdir
    · rw [h.other _ fun file hfile hbelow => habove ⟨file, hfile, hbelow⟩] at hbelow
      exact hkeep place (ht.above place name rest hbelow)

/-- A file can be written as before if others were written apart from it. -/
theorem Placed.vacant_iff (h : Placed files t t') (hvacant : ∀ file ∈ files, t.Vacant file.1)
    (hapart : ∀ file ∈ files, Apart file.1 place) : t'.Vacant place ↔ t.Vacant place := by
  have habove : ∀ dir name rest, place = dir ++ name :: rest →
      ((∀ old, t'.find? dir ≠ some (.file old)) ↔ ∀ old, t.find? dir ≠ some (.file old)) := by
    rintro dir name rest rfl
    have hne : ∀ file ∈ files, dir ≠ file.1 := by
      rintro file hfile rfl
      exact (hapart file hfile).1 (List.prefix_append _ _)
    rcases h.find?_of_vacant hvacant hne with heq | ⟨hdir, hfree⟩
    · rw [heq]
    · rw [hdir]
      exact iff_of_true nofun hfree
  constructor
  · intro hplace
    exact ⟨fun dir name rest old heq => (habove dir name rest heq).1
      (fun old => hplace.above dir name rest old heq) old, h.find?_of_apart hapart ▸ hplace.self⟩
  · intro hplace
    exact ⟨fun dir name rest old heq => (habove dir name rest heq).2
      (fun old => hplace.above dir name rest old heq) old,
      (h.find?_of_apart hapart).symm ▸ hplace.self⟩

end FileTree

end Docpress
