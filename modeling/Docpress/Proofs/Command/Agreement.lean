import Docpress.Proofs.Command.Task
import Docpress.Proofs.Config.Location
import Docpress.Proofs.Pages.Collision
/-!
One document rendered by itself, and the same document among all of a project. What is written is
the same text, unless the console refuses the message that the parser is not known: that ends the
first command before it writes, while the second gives no such message.
-/

namespace Docpress

open Highlight FileTree

/-- The page of a document stands as it was rendered if no later page has the same output. -/
theorem writePages_holds {t : FileTree} (ht : t.WellFormed) {config : Config} {i : Installation}
    {pages lead later : List Page} {page : Page}
    (h : (writePages t config none i).result = .ok pages) (hpages : pages = lead ++ page :: later)
    (hlater : ∀ other ∈ later, other.output ≠ page.output) :
    page.source ∈ (collectSources t config.sourceDir).1 ∧
      IsUnicode t (Renderer.ofConfig config.markdown).1 page.source ∧
      HoldsRendering t (writePages t config none i).tree (Renderer.ofConfig config.markdown).1 i
        page := by
  have hread : ∀ source ∈ (collectSources t config.sourceDir).1,
      ∃ content, t.readBytes source = .ok content := by
    intro source hsource
    obtain ⟨-, -, content, -, -, -, hcontent⟩ := ht.readBytes_source hsource
    exact ⟨content, hcontent⟩
  have hapart : ∀ source ∈ (collectSources t config.sourceDir).1,
      ∀ other ∈ (collectSources t config.sourceDir).1, ∀ output,
      config.outputOf other = .ok output → t.settle source ≠ t.settle output := by
    intro source hsource other _ output houtput
    obtain ⟨_, _, _, _, _, hsuffix⟩ := mem_collectSources.1 hsource
    exact settle_ne_of_isMarkdown hsuffix houtput t
  obtain ⟨hsources, houtputs, hunicode, -, hholds⟩ :=
    renderPages_eq_ok (stateReached_initial _ i) hread hapart h
  have hmem : ∀ page ∈ pages, page.source ∈ (collectSources t config.sourceDir).1 :=
    fun page hpage => hsources ▸ List.mem_map_of_mem hpage
  have hpage : page ∈ pages := by simp [hpages]
  refine ⟨hmem page hpage, hunicode page hpage,
    hholds lead page later hpages fun other hother heq => ?_⟩
  have hother' : other ∈ pages := by simp [hpages, hother]
  exact hlater other hother ((outputs_of_sources ht (hmem other hother') (hmem page hpage)
    (houtputs other hother') (houtputs page hpage)).2 heq)

/-- The path of a document below a directory can be read again, and stays absolute. -/
theorem isReadable_of_mem_collectSources {t : FileTree} (ht : t.WellFormed) {dir source : Path}
    (hdir : dir.IsReadable) (h : source ∈ (collectSources t dir).1) :
    source.root = dir.root ∧ source.IsReadable := by
  obtain ⟨place, names, -, hnames, rfl, -⟩ := mem_collectSources.1 h
  obtain ⟨-, content, hmem⟩ := mem_filesBelow.1 hnames
  refine ⟨rfl, hdir.join_names fun name hname => IsName.isPart ?_⟩
  exact (ht.named _ hmem).2 name (List.mem_append_right _ hname)

/-- An absolute path is written with a slash at its beginning. -/
theorem Path.head?_toText {p : Path} (hp : p.IsReadable) (habsolute : p.isAbsolute = true) :
    p.toText.head? = some '/' := by
  obtain ⟨root, names⟩ := p
  rcases hp.root with rfl | rfl | rfl
  · cases habsolute
  · rfl
  · rfl

namespace Command

/-- Render one source to a file, with the configuration that an argument names. -/
def renderArguments (source config file : Text) : List Text :=
  ["render".toList, source, "--config".toList, config, "--output".toList, file]

/-- Build the project whose configuration an argument names. -/
def buildArguments (config : Text) : List Text :=
  ["build".toList, "--config".toList, config]

theorem ofArguments_build (config : Text) :
    Invocation.ofArguments (buildArguments config) = .ok (.build config) := rfl

theorem ofArguments_render {source config file : Text} (hsource : source.head? ≠ some '-')
    (hfile : Char.ofNat 0 ∉ file) :
    Invocation.ofArguments (renderArguments source config file) =
      .ok (.render source config (some (Path.ofText file))) := by
  have hword : (source == "--".toList) = false := by
    rw [beq_eq_false_iff_ne]
    rintro rfl
    exact hsource rfl
  have hoption : isOption source = false := by simp [isOption, hsource]
  have hread : readArguments Name.render.options true
      [source, "--config".toList, config, "--output".toList, file] =
        .ok ⟨[(.config, config), (.output, file)], [source]⟩ := by
    rw [readArguments, hword, hoption]
    rfl
  have hzero : file.contains (Char.ofNat 0) = false := by simpa using hfile
  have houtput : Given.output ⟨[(.config, config), (.output, file)], [source]⟩ =
      .ok (some (Path.ofText file)) := by
    change (if file.contains (Char.ofNat 0) then _ else _) = _
    rw [hzero]
    rfl
  have hmain : readArguments mainOptions false (renderArguments source config file) =
      .ok ⟨[], renderArguments source config file⟩ := rfl
  have hrequest : Given.request? ⟨[], renderArguments source config file⟩ = none := rfl
  have hname : names.find? (·.word == "render".toList) = some .render := rfl
  rw [Invocation.ofArguments, hmain]
  dsimp only
  rw [hrequest, renderArguments]
  dsimp only
  rw [hname]
  dsimp only
  rw [hread]
  have hhelp : Given.has ⟨[(.config, config), (.output, file)], [source]⟩ .help = false := rfl
  change Name.invocation .render _ = _
  rw [Name.invocation, hhelp, if_neg Bool.false_ne_true, houtput]
  rfl

/-- A command leaves the files that its task leaves. -/
theorem run_tree {args : List Text} {invocation : Invocation}
    (h : Invocation.ofArguments args = .ok invocation) (s : Session) :
    (run args s).tree = (invocation.task.run.run s).2.tree := by
  unfold run
  rw [h]
  dsimp only
  split <;> simp_all

/-- A command that does its task ends with zero. -/
theorem exitCode_run_of_ok {args : List Text} {invocation : Invocation} {s s' : Session}
    (h : Invocation.ofArguments args = .ok invocation)
    (hrun : invocation.task.run.run s = (.ok (), s')) : (run args s).exitCode = 0 := by
  unfold run
  rw [h]
  dsimp only
  rw [hrun]
  rfl

/-- A command whose exit code is zero has done its task. -/
theorem exists_of_exitCode_eq_zero {args : List Text} {invocation : Invocation} {s : Session}
    (h : Invocation.ofArguments args = .ok invocation) (hexit : (run args s).exitCode = 0) :
    ∃ s', invocation.task.run.run s = (.ok (), s') := by
  unfold run at hexit
  rw [h] at hexit
  dsimp only at hexit
  split at hexit
  · rename_i hrun
    exact ⟨_, hrun⟩
  · rename_i stop _ _
    cases stop <;> cases hexit

/-- Building a project: its pages are written, and then the console says how many. -/
theorem run_buildProject {s : Session} {config : Text} {options : Config}
    (h : loadConfig s.tree (Path.ofText config) = .ok options) :
    let build := writePages s.tree options none s.installed
    (buildProject config).run.run s =
      (do
        let pages ← orCrash .pages build.result
        if pages.isEmpty then printMarkup (nothingMessage options.sourceDir)
        else printMarkup (pagesMessage pages.length options.outputDir) : Task Unit).run.run
          { s with tree := build.tree, logs := s.logs ++ build.logs } := by
  intro build
  rw [buildProject, run_bind_ok (run_readConfig h), run_bind_ok run_get]
  rfl

/-- A project that was built: its pages, and the files with them. -/
theorem exists_of_build {s s' : Session} {config : Text}
    (h : (buildProject config).run.run s = (.ok (), s')) :
    ∃ options pages, loadConfig s.tree (Path.ofText config) = .ok options ∧
      (writePages s.tree options none s.installed).result = .ok pages ∧
      s'.tree = (writePages s.tree options none s.installed).tree := by
  obtain ⟨options, _, hread, -⟩ := exists_of_run_bind h
  have hload := (loadConfig_of_run hread).1
  rw [run_buildProject hload] at h
  obtain ⟨pages, _, hpages, hmessage⟩ := exists_of_run_bind h
  cases hresult : (writePages s.tree options none s.installed).result with
  | error e =>
    rw [hresult] at hpages
    cases hpages
  | ok found =>
    rw [hresult, run_orCrash_ok] at hpages
    cases hpages
    refine ⟨options, pages, hload, hresult, ?_⟩
    -- Whichever message is printed in the end, the files stay as they are.
    have hprinted : ∀ (markup : Text) (s₀ : Session),
        (printMarkup markup).run.run s₀ = (.ok (), s') → s'.tree = s₀.tree := by
      intro markup s₀ hrun
      rw [← tree_printMarkup markup (s := s₀), hrun]
    split at hmessage
    · exact hprinted _ _ hmessage
    · exact hprinted _ _ hmessage

/-- A project with pages is built well if the message about them can be shown. -/
theorem run_build {s : Session} {config shown : Text} {options : Config} {page : Page}
    {pages : List Page} (hconfig : loadConfig s.tree (Path.ofText config) = .ok options)
    (hpages : (writePages s.tree options none s.installed).result = .ok (page :: pages))
    (hshown : Console.printed (pagesMessage (pages.length + 1) options.outputDir) = .ok shown) :
    (run (buildArguments config) s).exitCode = 0 ∧
      (run (buildArguments config) s).tree =
        (writePages s.tree options none s.installed).tree := by
  have hrun : ∃ s', (buildProject config).run.run s = (.ok (), s') ∧
      s'.tree = (writePages s.tree options none s.installed).tree := by
    rw [run_buildProject hconfig, hpages, run_bind_ok run_orCrash_ok, if_neg (by simp),
      List.length_cons, run_printMarkup_ok hshown]
    exact ⟨_, rfl, rfl⟩
  obtain ⟨s', hrun, htree⟩ := hrun
  refine ⟨exitCode_run_of_ok (ofArguments_build config) hrun, ?_⟩
  · rw [run_tree (ofArguments_build config)]
    change ((buildProject config).run.run s).2.tree = _
    rw [hrun, htree]

section

variable {s : Session} {source config text html : Text} {output : Path} {options : Config}

/-- A source that is rendered to a file: the file holds its rendering, whether or not the message
    about it can be shown. -/
theorem readBytes_renderSource (hconfig : loadConfig s.tree (Path.ofText config) = .ok options)
    (hsource : source ≠ standardInput)
    (htext : s.tree.readText (Path.ofText source) = .ok text)
    (hhtml : (renderMarkdown (Renderer.ofConfig options.markdown).1 s.installed {} text).html =
      .ok html)
    (hunicode : isUnencodable (Renderer.ofConfig options.markdown).1 text = false)
    (houtput : s.tree.CanHold output)
    (hparser : (resolveParser options.markdown.parser).isSome = true ∨
      CanAnnounce options.markdown.parser) :
    ((renderSource source config (some output)).run.run s).2.tree.readBytes output =
      .ok (Utf8.encode (html ++ ['\n'])) := by
  obtain ⟨s₁, hmade, hsame⟩ := run_makeRenderer_ok (s := s) hparser
  obtain ⟨s₂, hrendered, hsame'⟩ := run_renderText (s := s₁) (hsame.installed ▸ hhtml)
  obtain ⟨made, stored, hdirs, hstored, hbytes⟩ := houtput.store (storedHtml false html)
  rw [← hsame.tree, ← hsame'.tree] at hdirs
  rw [renderSource, run_bind_ok (run_readConfig hconfig),
    run_bind_ok (run_readSource hsource htext), run_bind_ok hmade, run_bind_ok hrendered]
  rw [hunicode, run_bind_ok (run_deliverHtml hdirs hstored), tree_printMarkup]
  exact hbytes

/-- If the console refuses the message that the parser is not known, nothing is written. -/
theorem tree_renderSource (hconfig : loadConfig s.tree (Path.ofText config) = .ok options)
    (hsource : source ≠ standardInput)
    (htext : s.tree.readText (Path.ofText source) = .ok text)
    (hparser : ¬ ((resolveParser options.markdown.parser).isSome = true ∨
      CanAnnounce options.markdown.parser)) :
    ((renderSource source config (some output)).run.run s).2.tree = s.tree := by
  obtain ⟨e, s₁, hmade, hsame⟩ := run_makeRenderer_error (s := s) hparser
  rw [renderSource, run_bind_ok (run_readConfig hconfig),
    run_bind_ok (run_readSource hsource htext), run_bind_error hmade]
  exact hsame.tree

end

/-- A project with a document, and a parser whose name the console takes for a closing tag. -/
def mislabelled : FileTree :=
  { entries := [(["docmark.yml".toList],
        .file (Utf8.encode "markdown: \x7bparser: '[/x]'\x7d".toList)),
      (["docs".toList], .directory),
      (["docs".toList, "a.md".toList], .file (Utf8.encode "hi".toList))] }

end Command

end Docpress
