import Docpress.Proofs.Pages.Run
import Docpress.Proofs.Path.Written
/-!
Where pages are written. A page of a source lies below the output directory exactly if the names
that lead to the source from the source directory lead back into the output directory from there.
-/

namespace Docpress

open Highlight FileTree

/-- The pages that were written, none if writing was ended by an error of another kind than HTML
    that is no Unicode. The file of such a page is there, and it is empty. -/
def Build.pages (b : Build) : List Page :=
  match b.result with
  | .ok pages => pages
  | .error (.unencodable page) => [page]
  | .error _ => []

/-- When the sources are rendered one after another, this page is written, whether or not all goes
    well after it. -/
inductive Writes (config : Config) (r : Option Renderer) (i : Installation) :
    FileTree → LoadState → List Path → Page → Prop where
  | now {t state source rest page} (h : page ∈ (renderPage t config r i state source).pages) :
      Writes config r i t state (source :: rest) page
  | later {t state source rest page pages}
      (h : (renderPage t config r i state source).result = .ok pages)
      (hrest : Writes config r i (renderPage t config r i state source).tree
        (renderPage t config r i state source).state rest page) :
      Writes config r i t state (source :: rest) page

/-- The path leads to a place below the one of the directory. -/
def FileTree.IsBelow (t : FileTree) (dir p : Path) : Prop :=
  ∃ name rest, t.settle p = t.settle dir ++ name :: rest

/-- The names that lead from the source directory to the directory of the source lead from the
    output directory into it, or the source does not begin with the source directory. The source
    directory itself has its page beside the output directory, unless that ends with a step up. -/
def Config.KeepsInside (config : Config) (t : FileTree) (source : Path) : Prop :=
  match source.relativeTo? config.sourceDir with
  | none => True
  | some relative =>
    if relative.names = [] then config.outputDir.name = Path.up
    else t.settle config.outputDir <+:
      Path.settle (t.settle config.outputDir) relative.names.dropLast

instance (config : Config) (t : FileTree) (source : Path) :
    Decidable (config.KeepsInside t source) := by
  unfold Config.KeepsInside
  cases source.relativeTo? config.sourceDir with
  | none => exact .isTrue trivial
  | some relative => exact inferInstanceAs (Decidable (ite _ _ _))

theorem Build.pages_of_ok {b : Build} {pages : List Page} (h : b.result = .ok pages) :
    b.pages = pages := by
  rw [Build.pages, h]

theorem Build.pages_of_error {b : Build} {e : PageError} (h : b.result = .error e)
    (he : ∀ page, e ≠ .unencodable page) : b.pages = [] := by
  rw [Build.pages, h]
  cases e with
  | unencodable page => exact absurd rfl (he page)
  | _ => rfl

variable {t : FileTree} {config : Config} {r : Option Renderer} {i : Installation}
  {state : LoadState} {source : Path} {sources : List Path} {page : Page}

/-! ### What is written -/

/-- Whatever comes of a source, files are written only for a page that is written, which is one of
    the source and goes where it is to go; and then the source could be read. -/
theorem renderPage_grown (t : FileTree) (config : Config) (r : Option Renderer) (i : Installation)
    (state : LoadState) (source : Path) :
    let build := renderPage t config r i state source
    Grown (fun place => ∃ page ∈ build.pages, place = t.settle page.output) t build.tree ∧
      ∀ page ∈ build.pages, page.source = source ∧ config.outputOf source = .ok page.output ∧
        ∃ content, t.readBytes source = .ok content := by
  have hidle {build : Build} (htree : build.tree = t) (hpages : build.pages = []) :
      Grown (fun place => ∃ page ∈ build.pages, place = t.settle page.output) t build.tree ∧
        ∀ page ∈ build.pages, page.source = source ∧ config.outputOf source = .ok page.output ∧
          ∃ content, t.readBytes source = .ok content := by
    rw [htree, hpages]
    exact ⟨Grown.refl _ _, List.forall_mem_nil _⟩
  unfold renderPage
  cases htext : t.readText source with
  | error e =>
    cases e with
    | encoding e => exact hidle rfl rfl
    | file e =>
      dsimp only
      split
      · exact hidle rfl rfl
      · exact hidle rfl rfl
  | ok text =>
    have hcontent : ∃ content, t.readBytes source = .ok content := by
      unfold FileTree.readText at htext
      split at htext
      · cases htext
      · rename_i content hbytes
        exact ⟨content, hbytes⟩
    dsimp only
    rcases writePage_cases t config r i state source text with
      ⟨e, herror, hother, hgrown⟩ | ⟨output, html, houtput, -, hresult, -, hgrown, -⟩
    · rw [Build.pages_of_error herror hother]
      exact ⟨hgrown.mono fun _ => False.elim, List.forall_mem_nil _⟩
    · have hpages : (writePage t config r i state source text).pages = [⟨source, output⟩] := by
        rw [Build.pages, hresult]
        cases isUnencodable r text <;> rfl
      rw [hpages]
      refine ⟨hgrown.mono fun place hplace => ⟨_, List.mem_singleton_self _, hplace⟩, fun page hpage => ?_⟩
      obtain rfl := List.mem_singleton.1 hpage
      exact ⟨rfl, houtput, hcontent⟩

/-- The files that are there in the end were there before, or are those of written pages. -/
theorem renderPages_grown (t : FileTree) (config : Config) (r : Option Renderer) (i : Installation)
    (state : LoadState) (sources : List Path) :
    Grown (fun place => ∃ page, Writes config r i t state sources page ∧
      place = t.settle page.output) t (renderPages config r i t state sources).tree := by
  induction sources generalizing t state with
  | nil => exact Grown.refl _ _
  | cons source rest ih =>
    obtain ⟨hgrown, -⟩ := renderPage_grown t config r i state source
    have hfirst : Grown (fun place => ∃ page, Writes config r i t state (source :: rest) page ∧
        place = t.settle page.output) t (renderPage t config r i state source).tree := by
      refine hgrown.mono ?_
      rintro place ⟨page, hpage, hplace⟩
      exact ⟨page, .now hpage, hplace⟩
    rw [renderPages]
    dsimp only
    split
    · exact hfirst
    · rename_i pages hpages
      refine hfirst.trans ((ih _ _).mono ?_)
      rintro place ⟨page, hpage, hplace⟩
      exact ⟨page, .later hpages hpage, hplace.trans (hgrown.settle _)⟩

/-- If all goes well, the pages that were written are those of the result. -/
theorem mem_pages_iff_writes {pages : List Page}
    (h : (renderPages config r i t state sources).result = .ok pages) :
    page ∈ pages ↔ Writes config r i t state sources page := by
  induction sources generalizing t state pages with
  | nil =>
    cases h
    exact ⟨fun h => (List.not_mem_nil h).elim, fun h => nomatch h⟩
  | cons source rest ih =>
    rw [renderPages] at h
    dsimp only at h
    split at h
    · rename_i e herror
      cases herror.symm.trans h
    · rename_i first hfirst
      cases hmore : (renderPages config r i (renderPage t config r i state source).tree
          (renderPage t config r i state source).state rest).result with
      | error e =>
        rw [hmore] at h
        cases h
      | ok more =>
        rw [hmore] at h
        cases h
        rw [List.mem_append, ih hmore]
        constructor
        · rintro (hpage | hpage)
          · exact .now (by rwa [Build.pages_of_ok hfirst])
          · exact .later hfirst hpage
        · intro hpage
          cases hpage with
          | now hpage =>
            rw [Build.pages_of_ok hfirst] at hpage
            exact .inl hpage
          | later _ hpage => exact .inr hpage

theorem mem_writePages_iff {pages : List Page}
    (h : (writePages t config (some sources) i).result = .ok pages) :
    page ∈ pages ↔ Writes config (Renderer.ofConfig config.markdown).1 i t {} sources page :=
  mem_pages_iff_writes h

/-- What is known of a page that is written: its source is one of those given, has a name, and is
    the one that the page goes with. -/
theorem Writes.output (hhere : t.find? t.here = some .directory)
    (h : Writes config r i t state sources page) :
    page.source ∈ sources ∧ page.source.names ≠ [] ∧
      config.outputOf page.source = .ok page.output := by
  induction h with
  | @now t state source rest page h =>
    obtain ⟨rfl, houtput, content, hcontent⟩ :=
      (renderPage_grown t config r i state source).2 page h
    refine ⟨List.mem_cons_self, fun hnames => ?_, houtput⟩
    -- Without a name the path leads to the top or to the current directory.
    obtain ⟨-, hfile⟩ := readBytes_eq_ok_iff.1 hcontent
    rw [FileTree.settle, hnames, Path.settle, FileTree.start] at hfile
    split at hfile
    · cases hfile
    · cases hhere.symm.trans hfile
  | @later t state source rest page pages _ _ ih =>
    have hgrown := (renderPage_grown t config r i state source).1
    obtain ⟨hmem, hrest⟩ := ih (by rw [hgrown.here]; exact hgrown.directory _ hhere)
    exact ⟨List.mem_cons_of_mem _ hmem, hrest⟩

/-! ### Where it is written -/

theorem exists_append_concat_iff {α : Type} {base lead : List α} {last : α} :
    (∃ name rest, lead ++ [last] = base ++ name :: rest) ↔ base <+: lead := by
  constructor
  · rintro ⟨name, rest, h⟩
    obtain ⟨front, back, hsplit⟩ := List.eq_nil_or_concat' (name :: rest) |>.resolve_left
      (List.cons_ne_nil _ _)
    rw [hsplit, ← List.append_assoc] at h
    exact ⟨front, (List.append_inj' h rfl).1.symm⟩
  · rintro ⟨names, rfl⟩
    cases names with
    | nil => exact ⟨last, [], by simp⟩
    | cons name names => exact ⟨name, names ++ [last], by simp⟩

/-- The path of a source seen from the source directory, or its name alone. -/
def Config.relativeOf (config : Config) (source : Path) : Path :=
  (source.relativeTo? config.sourceDir).getD (Path.ofText source.name)

/-- A page has a name in the directory that the source's names lead to from the output directory. -/
theorem Config.outputOf_eq_ok {output : Path} (houtput : config.outputOf source = .ok output)
    (hrelative : (config.relativeOf source).isAbsolute = false) :
    let names := config.outputDir.names ++ (config.relativeOf source).names
    names ≠ [] ∧ ∃ page, page ≠ Path.up ∧
      output = { config.outputDir with names := names.dropLast ++ [page] } := by
  have hjoin : config.outputDir.join (config.relativeOf source) =
      { config.outputDir with
        names := config.outputDir.names ++ (config.relativeOf source).names } := by
    simp [Path.join, hrelative]
  unfold Config.outputOf at houtput
  dsimp only at houtput
  rw [← Config.relativeOf, hjoin] at houtput
  split at houtput
  · rename_i hsuffix
    cases houtput
    obtain ⟨hname, rfl⟩ := Path.withSuffix?_eq_some hsuffix
    refine ⟨?_, _, page_ne_up (Path.splitSuffix_fst_ne_nil hname), rfl⟩
    rintro hnil
    rw [Path.name, hnil] at hname
    exact hname rfl
  · cases houtput

/-- A page is below the output directory if the names that lead to its own directory go there. -/
theorem Config.isBelow_outputOf_iff {output : Path} (houtput : config.outputOf source = .ok output)
    (hrelative : (config.relativeOf source).isAbsolute = false) (t : FileTree) :
    t.IsBelow config.outputDir output ↔ t.settle config.outputDir <+:
      Path.settle (t.start config.outputDir)
        (config.outputDir.names ++ (config.relativeOf source).names).dropLast := by
  obtain ⟨-, page, hpage, rfl⟩ := Config.outputOf_eq_ok houtput hrelative
  rw [FileTree.IsBelow, ← exists_append_concat_iff]
  refine exists₂_congr fun name rest => ?_
  rw [FileTree.settle, Path.settle_eq_dropLast List.getLast?_concat hpage, List.dropLast_concat]
  rfl

/-- Only where its last name is a step up, the directory that a path stands for is below the one
    without that name. -/
theorem Path.settle_prefix_dropLast_iff {names : List Text} (hnames : names ≠ []) (base : List Text) :
    Path.settle base names <+: Path.settle base names.dropLast ↔ names.getLast? = some Path.up := by
  obtain ⟨lead, last, rfl⟩ := List.eq_nil_or_concat' names |>.resolve_left hnames
  rw [List.dropLast_concat, List.getLast?_concat, Option.some_inj]
  by_cases hlast : last = Path.up
  · subst hlast
    have hup : Path.settle base (lead ++ [Path.up]) = (Path.settle base lead).dropLast := by
      rw [Path.settle_append]
      rfl
    rw [hup]
    exact iff_of_true (List.dropLast_prefix _) rfl
  · rw [Path.settle_eq_dropLast List.getLast?_concat hlast, List.dropLast_concat]
    refine iff_of_false (fun hprefix => ?_) hlast
    have hlength := hprefix.length_le
    rw [List.length_append, List.length_singleton] at hlength
    omega

/-- The page of a source that has a name lies below the output directory exactly if the source keeps
    inside. -/
theorem Config.isBelow_iff_keepsInside {output : Path} (hsource : source.IsReadable)
    (hnames : source.names ≠ []) (houtput : config.outputOf source = .ok output) (t : FileTree) :
    t.IsBelow config.outputDir output ↔ config.KeepsInside t source := by
  cases hbelow : source.relativeTo? config.sourceDir with
  | none =>
    obtain ⟨lead, name, hlast⟩ := List.eq_nil_or_concat' source.names |>.resolve_left hnames
    have hname : source.name = name := by simp [Path.name, hlast]
    have hrelative : config.relativeOf source = { names := [name] } := by
      rw [Config.relativeOf, hbelow, hname, (hsource.parts name (by simp [hlast])).ofText_eq]
      rfl
    rw [Config.isBelow_outputOf_iff houtput (by rw [hrelative]; rfl), hrelative,
      List.dropLast_concat, Config.KeepsInside, hbelow]
    exact iff_of_true (List.prefix_refl _) trivial
  | some relative =>
    have hrelative : config.relativeOf source = relative := by
      rw [Config.relativeOf, hbelow]
      rfl
    have hroot : relative.isAbsolute = false := by
      unfold Path.relativeTo? at hbelow
      split at hbelow
      · cases hbelow
      · obtain ⟨names, -, rfl⟩ := Option.map_eq_some_iff.1 hbelow
        rfl
    rw [Config.isBelow_outputOf_iff houtput (by rw [hrelative, hroot]), hrelative,
      Config.KeepsInside, hbelow]
    dsimp only
    by_cases hself : relative.names = []
    · have hne : config.outputDir.names ≠ [] := by
        have hnames := (Config.outputOf_eq_ok houtput (by rw [hrelative, hroot])).1
        rwa [hrelative, hself, List.append_nil] at hnames
      rw [if_pos hself, hself, List.append_nil, FileTree.settle,
        Path.settle_prefix_dropLast_iff hne, Path.name]
      cases config.outputDir.names.getLast? with
      | none => exact iff_of_false (by simp) (by decide)
      | some last => simp
    · rw [if_neg hself, List.dropLast_append_of_ne_nil hself, Path.settle_append]
      rfl

/-- Names that lead on from the source directory without a step up keep a source inside. -/
theorem Config.keepsInside_of_up_notMem {relative : Path}
    (hrelative : source.relativeTo? config.sourceDir = some relative) (hnames : relative.names ≠ [])
    (hup : Path.up ∉ relative.names) (t : FileTree) : config.KeepsInside t source := by
  rw [Config.KeepsInside, hrelative]
  dsimp only
  rw [if_neg hnames,
    Path.settle_of_up_notMem fun hmem => hup (List.dropLast_subset relative.names hmem)]
  exact List.prefix_append _ _

/-- Whatever sources are given, files are written only for the pages that are written, which are
    those of the result if there is one. They all lie below the output directory if, and only if,
    their sources keep inside: the names that lead to a source from the source directory must not
    lead out of the output directory, as they cannot without a step up, and the source directory
    itself must not be a source. -/
theorem writePages_inside_iff (ht : t.WellFormed) (config : Config)
    (hsources : ∀ source ∈ sources, source.IsReadable) (i : Installation) :
    let build := writePages t config (some sources) i
    let written := Writes config (Renderer.ofConfig config.markdown).1 i t {} sources
    (∀ place content, build.tree.find? place = some (.file content) →
      t.find? place = some (.file content) ∨
        ∃ page, written page ∧ place = t.settle page.output) ∧
    (∀ pages, build.result = .ok pages → ∀ page, page ∈ pages ↔ written page) ∧
    ((∀ page, written page → t.IsBelow config.outputDir page.output) ↔
      ∀ page, written page → config.KeepsInside t page.source) ∧
    ∀ source relative, source.relativeTo? config.sourceDir = some relative →
      relative.names ≠ [] → Path.up ∉ relative.names → config.KeepsInside t source := by
  intro build written
  refine ⟨?_, fun pages hpages page => mem_writePages_iff hpages, ?_,
    fun source relative hrelative hnames hup =>
      Config.keepsInside_of_up_notMem hrelative hnames hup t⟩
  · exact (renderPages_grown t config _ i {} sources).origin
  · refine forall₂_congr fun page hpage => ?_
    obtain ⟨hsource, hnames, houtput⟩ := hpage.output ht.here
    exact Config.isBelow_iff_keepsInside (hsources _ hsource) hnames houtput t

/-- Two directories, with a file in one of them and one beside them. -/
def workshop : FileTree :=
  { entries := [(["docs".toList], .directory), (["docs".toList, "old".toList], .directory),
      (["docs".toList, "plan.md".toList], .file (Utf8.encode "one".toList)),
      (["notes.md".toList], .file (Utf8.encode "two".toList))] }

/-- A source that steps up within the source directory, and one that is not in it. -/
theorem writePages_inside_workshop :
    let sources := [Path.ofText "docs/old/../plan.md".toList, Path.ofText "notes.md".toList]
    workshop.WellFormed ∧ (∀ source ∈ sources, source.IsReadable) ∧
      ∃ pages, (writePages workshop {} (some sources) ⟨none, none⟩).result = .ok pages ∧
        pages.map Page.source = sources ∧
        ∀ page ∈ pages, workshop.IsBelow (Path.ofText "out".toList) page.output := by
  intro sources
  have ht : workshop.WellFormed := ⟨by decide, by decide, by decide, rfl⟩
  have hsources : ∀ source ∈ sources, source.IsReadable := by
    simp only [sources, List.forall_mem_cons]
    exact ⟨Path.isReadable_ofText _, Path.isReadable_ofText _, List.forall_mem_nil _⟩
  have hresult : (writePages workshop {} (some sources) ⟨none, none⟩).result =
      .ok [⟨Path.ofText "docs/old/../plan.md".toList,
          Path.ofText "out/old/../plan.html".toList⟩,
        ⟨Path.ofText "notes.md".toList, Path.ofText "out/notes.html".toList⟩] := by
    decide
  obtain ⟨-, hwritten, hinside, -⟩ := writePages_inside_iff ht {} hsources ⟨none, none⟩
  refine ⟨ht, hsources, _, hresult, rfl, fun page hpage => ?_⟩
  refine hinside.2 (fun page hpage => ?_) page ((hwritten _ hresult page).1 hpage)
  rw [← hwritten _ hresult page, List.mem_cons, List.mem_singleton] at hpage
  rcases hpage with rfl | rfl <;> decide

/-- A source that begins with the source directory and steps out of it again has its page beside
    the output directory. -/
theorem writePages_escapes :
    let source := Path.ofText "docs/../notes.md".toList
    let output := Path.ofText "out/../notes.html".toList
    let build := writePages workshop {} (some [source]) ⟨none, none⟩
    workshop.WellFormed ∧ source.IsReadable ∧ build.result = .ok [⟨source, output⟩] ∧
      build.tree.find? ["notes.html".toList] =
        some (.file (Utf8.encode "<p>two</p>\n".toList)) ∧
      ¬ ∀ page, Writes {} (Renderer.ofConfig {}).1 ⟨none, none⟩ workshop {} [source] page →
        workshop.IsBelow (Path.ofText "out".toList) page.output := by
  intro source output build
  have hresult : build.result = .ok [⟨source, output⟩] := by decide
  refine ⟨⟨by decide, by decide, by decide, rfl⟩, Path.isReadable_ofText _, hresult,
    by decide, fun hinside => ?_⟩
  obtain ⟨name, rest, hplace⟩ := hinside _ ((mem_writePages_iff hresult).1 List.mem_cons_self)
  have houtput : workshop.settle output = ["notes.html".toList] := by decide
  have hdir : workshop.settle (Path.ofText "out".toList) = ["out".toList] := by decide
  rw [houtput, hdir] at hplace
  exact absurd (List.cons.inj hplace).1 (by decide)

end Docpress
