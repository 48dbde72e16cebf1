import Docpress.Proofs.Config.Load
import Docpress.Proofs.Pages.Run
/-!
Sources that cannot be read. One that cannot be opened is reported and left out, and everything else
is as if it had not been given. One whose bytes are no text ends the writing of pages, and so does a
path that no file can have.
-/

namespace Docpress

open Highlight FileTree

/-- The error with which a source is left out: it cannot be opened. Bytes that are no text and a path
    that no file can have are errors of another kind. -/
def FileTree.unopened? (t : FileTree) (source : Path) : Option FileError :=
  match t.readText source with
  | .error (.file e) => if e.fault == .zeroByte then none else some e
  | _ => none

/-- The error of a page whose source cannot be read. -/
def PageError.ofRead : ReadError → PageError
  | .file e => .file e
  | .encoding e => .encoding e

/-- The sources without those that cannot be opened when their turn comes, and a report for each of
    these. Sources that have no turn because the writing of pages is ended are kept. -/
def leaveOut (config : Config) (r : Option Renderer) (i : Installation) :
    FileTree → LoadState → List Path → List Path × List LogEntry
  | _, _, [] => ([], [])
  | t, state, source :: rest =>
    match t.unopened? source with
    | some e =>
      let (kept, reports) := leaveOut config r i t state rest
      (kept, unreadReport source e :: reports)
    | none =>
      let build := renderPage t config r i state source
      match build.result with
      | .error _ => (source :: rest, [])
      | .ok _ =>
        let (kept, reports) := leaveOut config r i build.tree build.state rest
        (source :: kept, reports)

/-- The report is a warning, and no error. -/
def LogEntry.isWarning (entry : LogEntry) : Bool :=
  entry.severity == .warning

/-- There are no warnings among the reports. -/
def Unwarned (logs : List LogEntry) : Prop :=
  ∀ entry ∈ logs, entry.isWarning = false

/-- The outcome with pages and reports that come before it. -/
def Build.after (build : Build) (pages : List Page) (logs : List LogEntry) : Build :=
  { build with result := build.result.map (pages ++ ·), logs := logs ++ build.logs }

variable {t : FileTree} {config : Config} {r : Option Renderer} {i : Installation}
  {state : LoadState} {source : Path} {sources : List Path}

/-! ### Reports -/

theorem Unwarned.append {logs more : List LogEntry} (h : Unwarned logs) (h' : Unwarned more) :
    Unwarned (logs ++ more) :=
  List.forall_mem_append.2 ⟨h, h'⟩

theorem Unwarned.filter_isWarning {logs : List LogEntry} (h : Unwarned logs) :
    logs.filter LogEntry.isWarning = [] :=
  List.filter_eq_nil_iff.2 fun entry hentry => by simp [h entry hentry]

theorem Unwarned.filter_not {logs : List LogEntry} (h : Unwarned logs) :
    logs.filter (!·.isWarning) = logs :=
  List.filter_eq_self.2 fun entry hentry => by simp [h entry hentry]

theorem Highlight.LoadState.receive_unwarned (s : LoadState) (language : Text)
    (reply : Except Failure (Option Text)) : Unwarned (s.receive language reply).logs := by
  unfold LoadState.receive
  split
  · exact List.forall_mem_nil _
  · split
    · exact List.forall_mem_singleton.2 rfl
    · exact List.forall_mem_nil _

theorem Highlight.LoadState.ask_unwarned (s : LoadState) (loader : Nat → Except Failure Unit)
    (language : Text) (reply : Except Failure (Option Text)) :
    Unwarned (s.ask loader language reply).logs := by
  unfold LoadState.ask
  split
  · exact List.forall_mem_nil _
  · split
    · exact s.receive_unwarned language reply
    · dsimp only
      split
      · exact LoadState.receive_unwarned _ language reply
      · split
        · exact List.forall_mem_singleton.2 rfl
        · exact List.forall_mem_nil _

theorem Highlight.highlightAll_unwarned (b : Backend) (s : LoadState) (fences : List (Text × Text)) :
    Unwarned (highlightAll b s fences).logs := by
  induction fences generalizing s with
  | nil => exact List.forall_mem_nil _
  | cons fence rest ih =>
    have hask := s.ask_unwarned (fun _ => b.load) fence.1 (b.reply fence.2 fence.1)
    rw [highlightAll]
    split
    · exact hask
    · exact hask.append (ih _)

/-- Highlighters report errors only. -/
theorem renderMarkdown_unwarned (r : Option Renderer) (i : Installation) (state : LoadState)
    (text : Text) : Unwarned (renderMarkdown r i state text).logs := by
  unfold renderMarkdown
  split
  · exact List.forall_mem_nil _
  · split
    · exact List.forall_mem_nil _
    · simp only [Renderer.render, Renderer.renderWith, Renderer.engineWith]
      split
      · exact List.forall_mem_nil _
      · exact highlightAll_unwarned _ _ _

theorem Renderer.ofConfig_unwarned (config : MarkdownConfig) :
    Unwarned (Renderer.ofConfig config).2 := by
  unfold Renderer.ofConfig
  split
  · exact List.forall_mem_singleton.2 rfl
  · split
    · dsimp only
      split
      · exact List.forall_mem_nil _
      · exact List.forall_mem_singleton.2 rfl
    · exact List.forall_mem_nil _

/-! ### One source -/

/-- A source that cannot be opened changes nothing. -/
theorem renderPage_of_unopened {e : FileError} (h : t.unopened? source = some e) :
    renderPage t config r i state source =
      { result := .ok [], tree := t, state, logs := [unreadReport source e] } := by
  unfold FileTree.unopened? at h
  unfold renderPage
  split at h
  · rename_i e' hread
    rw [hread]
    split at h
    · cases h
    · rename_i hzero
      cases h
      simp [hzero]
  · cases h

/-- A source that cannot be read and is not left out ends the writing of pages. -/
theorem renderPage_of_unreadable {e : ReadError} (hread : t.readText source = .error e)
    (h : t.unopened? source = none) :
    renderPage t config r i state source = .stop t state (.ofRead e) := by
  rw [FileTree.unopened?, hread] at h
  unfold renderPage
  rw [hread]
  cases e with
  | encoding e => rfl
  | file e =>
    dsimp only at h ⊢
    split at h
    · rename_i hzero
      rw [if_pos hzero]
      rfl
    · cases h

theorem writePage_unwarned (t : FileTree) (config : Config) (r : Option Renderer)
    (i : Installation) (state : LoadState) (source : Path) (text : Text) :
    Unwarned (writePage t config r i state source text).logs := by
  unfold writePage
  split
  · exact List.forall_mem_nil _
  · split
    · exact List.forall_mem_nil _
    · dsimp only
      split
      · exact renderMarkdown_unwarned r i state text
      · exact renderMarkdown_unwarned r i state text

/-- The only warning that a source brings is the one with which it is left out. -/
theorem renderPage_unwarned (h : t.unopened? source = none) :
    Unwarned (renderPage t config r i state source).logs := by
  cases hread : t.readText source with
  | error e =>
    rw [renderPage_of_unreadable hread h]
    exact List.forall_mem_nil _
  | ok text =>
    simp only [renderPage, hread]
    exact writePage_unwarned t config r i state source text

/-! ### All sources -/

theorem Build.result_after_nil (build : Build) (logs : List LogEntry) :
    (build.after [] logs).result = build.result := by
  obtain ⟨result, tree, state, more⟩ := build
  cases result <;> rfl

theorem Build.after_nil (build : Build) : build.after [] [] = build := by
  obtain ⟨result, tree, state, logs⟩ := build
  cases result <;> rfl

theorem Build.after_after (build : Build) (pages pages' : List Page) (logs logs' : List LogEntry) :
    (build.after pages' logs').after pages logs = build.after (pages ++ pages') (logs ++ logs') := by
  obtain ⟨result, tree, state, more⟩ := build
  cases result <;> simp [Build.after, Except.map]

theorem Build.result_after_eq_error {build : Build} {pages : List Page} {logs : List LogEntry}
    {e : PageError} : (build.after pages logs).result = .error e ↔ build.result = .error e := by
  obtain ⟨result, tree, state, more⟩ := build
  cases result <;> simp [Build.after, Except.map]

/-- A source whose page is written is followed by those after it. -/
theorem renderPages_cons_of_ok {pages : List Page}
    (h : (renderPage t config r i state source).result = .ok pages) (rest : List Path) :
    let build := renderPage t config r i state source
    renderPages config r i t state (source :: rest) =
      (renderPages config r i build.tree build.state rest).after pages build.logs := by
  simp only [renderPages, h, Build.after]

/-- Nothing follows a source that ends the writing of pages. -/
theorem renderPages_cons_of_error {e : PageError}
    (h : (renderPage t config r i state source).result = .error e) (rest : List Path) :
    renderPages config r i t state (source :: rest) = renderPage t config r i state source := by
  simp only [renderPages, h]

/-- When pages are written for the first of the sources, the others are rendered from there. -/
theorem renderPages_append {lead : List Path} {pages : List Page}
    (h : (renderPages config r i t state lead).result = .ok pages) (rest : List Path) :
    let first := renderPages config r i t state lead
    renderPages config r i t state (lead ++ rest) =
      (renderPages config r i first.tree first.state rest).after pages first.logs := by
  induction lead generalizing t state pages with
  | nil =>
    cases h
    exact (Build.after_nil _).symm
  | cons source lead ih =>
    cases hpage : (renderPage t config r i state source).result with
    | error e =>
      rw [renderPages_cons_of_error hpage, hpage] at h
      cases h
    | ok first =>
      rw [renderPages_cons_of_ok hpage] at h
      cases hlead : (renderPages config r i (renderPage t config r i state source).tree
          (renderPage t config r i state source).state lead).result with
      | error e =>
        rw [Build.after, hlead] at h
        cases h
      | ok more =>
        rw [Build.after, hlead] at h
        cases h
        rw [List.cons_append, renderPages_cons_of_ok hpage, renderPages_cons_of_ok hpage, ih hlead,
          Build.after_after]
        rfl

/-- The tree, the state, the pages and all reports that are no warnings are the same in both
    outcomes, and these are the warnings of the first. -/
structure Build.SameBut (warnings : List LogEntry) (build other : Build) : Prop where
  result : build.result = other.result
  tree : build.tree = other.tree
  state : build.state = other.state
  warnings : build.logs.filter LogEntry.isWarning = warnings
  others : build.logs.filter (!·.isWarning) = other.logs

theorem Build.SameBut.after {warnings : List LogEntry} {build other : Build}
    (h : build.SameBut warnings other) (pages : List Page) {logs : List LogEntry}
    (hlogs : Unwarned logs) : (build.after pages logs).SameBut warnings (other.after pages logs) := by
  refine ⟨?_, h.tree, h.state, ?_, ?_⟩
  · simp only [Build.after, h.result]
  · simp only [Build.after, List.filter_append, hlogs.filter_isWarning, h.warnings, List.nil_append]
  · simp only [Build.after, List.filter_append, hlogs.filter_not, h.others]

/-- Leaving out the sources that cannot be opened changes nothing but their reports. -/
theorem renderPages_leaveOut (t : FileTree) (config : Config) (r : Option Renderer)
    (i : Installation) (state : LoadState) (sources : List Path) :
    (renderPages config r i t state sources).SameBut (leaveOut config r i t state sources).2
      (renderPages config r i t state (leaveOut config r i t state sources).1) := by
  induction sources generalizing t state with
  | nil => exact ⟨rfl, rfl, rfl, rfl, rfl⟩
  | cons source rest ih =>
    cases hopen : t.unopened? source with
    | some e =>
      have hpage : renderPage t config r i state source =
          { result := .ok [], tree := t, state, logs := [unreadReport source e] } :=
        renderPage_of_unopened hopen
      have hrest := ih t state
      rw [renderPages_cons_of_ok (by rw [hpage]), hpage]
      simp only [leaveOut, hopen]
      refine ⟨?_, hrest.tree, hrest.state, ?_, ?_⟩
      · rw [Build.result_after_nil, hrest.result]
      · rw [← hrest.warnings]
        rfl
      · rw [← hrest.others]
        rfl
    | none =>
      have hlogs : Unwarned (renderPage t config r i state source).logs :=
        renderPage_unwarned hopen
      cases hpage : (renderPage t config r i state source).result with
      | error e =>
        simp only [leaveOut, hopen, hpage]
        rw [renderPages_cons_of_error hpage]
        exact ⟨rfl, rfl, rfl, hlogs.filter_isWarning, hlogs.filter_not⟩
      | ok pages =>
        simp only [leaveOut, hopen, hpage]
        rw [renderPages_cons_of_ok hpage, renderPages_cons_of_ok hpage]
        exact (ih _ _).after pages hlogs

/-- A source that cannot be read and is not left out ends the writing of pages when its turn comes;
    what was written before stays. -/
theorem renderPages_of_unreadable {lead : List Path} {pages : List Page} {e : ReadError}
    (hlead : (renderPages config r i t state lead).result = .ok pages)
    (hread : (renderPages config r i t state lead).tree.readText source = .error e)
    (hopen : (renderPages config r i t state lead).tree.unopened? source = none)
    (rest : List Path) :
    renderPages config r i t state (lead ++ source :: rest) =
      { renderPages config r i t state lead with result := .error (.ofRead e) } := by
  have hstop (later : LoadState) :
      renderPage (renderPages config r i t state lead).tree config r i later source =
        .stop (renderPages config r i t state lead).tree later (.ofRead e) :=
    renderPage_of_unreadable hread hopen
  rw [renderPages_append hlead, renderPages_cons_of_error (by rw [hstop]; rfl), hstop]
  simp [Build.after, Build.stop, Except.map]

/-- A page is written step by step, and the first step that fails ends it. -/
theorem result_writePage (t : FileTree) (config : Config) (r : Option Renderer)
    (i : Installation) (state : LoadState) (source : Path) (text : Text) :
    (writePage t config r i state source text).result = do
      let output ← config.outputOf source
      let made ← (t.ensureDirectories output.parent).mapError .file
      let html ← (renderMarkdown r i state text).html.mapError .highlight
      let _ ← (made.writeText output (storedHtml (isUnencodable r text) html)).mapError .file
      if isUnencodable r text then .error (.unencodable ⟨source, output⟩)
      else return [⟨source, output⟩] := by
  unfold writePage
  cases config.outputOf source with
  | error e => rfl
  | ok output =>
    simp only [bind, Except.bind]
    cases t.ensureDirectories output.parent with
    | error e => rfl
    | ok made =>
      cases hhtml : (renderMarkdown r i state text).html with
      | error e => simp [Except.mapError]
      | ok html =>
        cases hwritten : made.writeText output (storedHtml (isUnencodable r text) html) with
        | error e => simp [Except.mapError, hwritten]
        | ok written => simp [Except.mapError, hwritten, pure, Except.pure]

/-- Only reading the source finds bytes that are no text. -/
theorem readText_of_renderPage_encoding {e : Utf8.DecodingError}
    (h : (renderPage t config r i state source).result = .error (.encoding e)) :
    t.readText source = .error (.encoding e) := by
  cases hread : t.readText source with
  | error e' =>
    simp only [renderPage, hread] at h
    cases e' with
    | encoding e' =>
      cases h
      rfl
    | file e' =>
      dsimp only at h
      split at h <;> cases h
  | ok text =>
    simp only [renderPage, hread, result_writePage] at h
    rcases bind_cases h with ⟨e', houtput, he⟩ | ⟨output, -, h⟩
    · cases he
      obtain ⟨path, he⟩ := Config.exists_of_outputOf_eq_error houtput
      cases he
    rcases bind_cases h with ⟨e', hmade, he⟩ | ⟨made, -, h⟩
    · cases he
      obtain ⟨_, he⟩ := exists_of_mapError_eq_error hmade
      cases he
    rcases bind_cases h with ⟨e', hhtml, he⟩ | ⟨html, -, h⟩
    · cases he
      obtain ⟨_, he⟩ := exists_of_mapError_eq_error hhtml
      cases he
    rcases bind_cases h with ⟨e', hwritten, he⟩ | ⟨written, -, h⟩
    · cases he
      obtain ⟨_, he⟩ := exists_of_mapError_eq_error hwritten
      cases he
    · split at h <;> cases h

/-- The writing of pages is ended by bytes that are no text exactly if there are such bytes in a
    source whose turn comes. -/
theorem renderPages_encoding_iff {e : Utf8.DecodingError} :
    (renderPages config r i t state sources).result = .error (.encoding e) ↔
      ∃ lead source rest pages, sources = lead ++ source :: rest ∧
        (renderPages config r i t state lead).result = .ok pages ∧
        (renderPages config r i t state lead).tree.readText source = .error (.encoding e) := by
  constructor
  · intro h
    induction sources generalizing t state with
    | nil => cases h
    | cons source rest ih =>
      cases hpage : (renderPage t config r i state source).result with
      | error e' =>
        rw [renderPages_cons_of_error hpage, hpage] at h
        cases h
        exact ⟨[], source, rest, [], rfl, rfl, readText_of_renderPage_encoding hpage⟩
      | ok first =>
        rw [renderPages_cons_of_ok hpage, Build.result_after_eq_error] at h
        obtain ⟨lead, bad, rest, pages, rfl, hlead, hread⟩ := ih h
        refine ⟨source :: lead, bad, rest, first ++ pages, rfl, ?_, ?_⟩
        · rw [renderPages_cons_of_ok hpage, Build.after, hlead]
          rfl
        · rw [renderPages_cons_of_ok hpage]
          exact hread
  · rintro ⟨lead, source, rest, pages, rfl, hlead, hread⟩
    rw [renderPages_of_unreadable hlead hread (by rw [FileTree.unopened?, hread])]
    rfl

theorem writePages_eq_after (t : FileTree) (config : Config) (sources : List Path)
    (i : Installation) :
    writePages t config (some sources) i =
      (renderPages config (Renderer.ofConfig config.markdown).1 i t {} sources).after []
        (Renderer.ofConfig config.markdown).2 := by
  rw [← (writePages t config (some sources) i).after_nil]
  simp [writePages, Build.after]

/-- Sources that cannot be opened when their turn comes are reported, once each, and everything else
    is as if they had not been given. The other sources that cannot be read are those whose bytes are
    no text and those whose path no file can have: each of them ends the writing of pages. -/
theorem writePages_leaveOut (t : FileTree) (config : Config) (sources : List Path)
    (i : Installation) :
    let build := writePages t config (some sources) i
    let kept := leaveOut config (Renderer.ofConfig config.markdown).1 i t {} sources
    build.SameBut kept.2 (writePages t config (some kept.1) i) ∧
    (∀ lead source rest pages e, sources = lead ++ source :: rest →
      let before := writePages t config (some lead) i
      before.result = .ok pages → before.tree.readText source = .error e →
      before.tree.unopened? source = none →
      build.result = .error (.ofRead e) ∧ build.tree = before.tree) ∧
    ∀ e, build.result = .error (.encoding e) ↔ ∃ lead source rest pages,
      sources = lead ++ source :: rest ∧
      (writePages t config (some lead) i).result = .ok pages ∧
      (writePages t config (some lead) i).tree.readText source = .error (.encoding e) := by
  intro build kept
  have hresult : ∀ sources, (writePages t config (some sources) i).result =
      (renderPages config (Renderer.ofConfig config.markdown).1 i t {} sources).result :=
    fun sources => rfl
  refine ⟨?_, ?_, fun e => renderPages_encoding_iff⟩
  · have hsame := renderPages_leaveOut t config (Renderer.ofConfig config.markdown).1 i {} sources
    have hafter := hsame.after [] (Renderer.ofConfig_unwarned config.markdown)
    rwa [← writePages_eq_after, ← writePages_eq_after] at hafter
  · rintro lead source rest pages e rfl before hpages hread hopen
    have hstop := renderPages_of_unreadable hpages hread hopen rest
    refine ⟨congrArg Build.result hstop, ?_⟩
    change (renderPages config _ i t {} _).tree = (renderPages config _ i t {} lead).tree
    rw [hstop]

/-- A directory with two documents, one of them in an old encoding. -/
def archive : FileTree :=
  { entries := [(["docs".toList], .directory),
      (["docs".toList, "a.md".toList], .file [0xE9, 0x74, 0xE9]),
      (["docs".toList, "b.md".toList], .file (Utf8.encode "two".toList))] }

/-- A source that is not there and one that is a directory are reported and left out. -/
theorem writePages_leaveOut_missing :
    let sources := ["docs/c.md", "docs/b.md", "docs"].map fun s => Path.ofText s.toList
    let build := writePages archive {} (some sources) ⟨none, none⟩
    build.result = .ok [⟨Path.ofText "docs/b.md".toList, Path.ofText "out/b.html".toList⟩] ∧
      build.logs.filter LogEntry.isWarning =
        [unreadReport (Path.ofText "docs/c.md".toList) ⟨.missing, Path.ofText "docs/c.md".toList⟩,
          unreadReport (Path.ofText "docs".toList) ⟨.isDirectory, Path.ofText "docs".toList⟩] := by
  intro sources build
  have hkept : leaveOut {} (Renderer.ofConfig {}).1 ⟨none, none⟩ archive {} sources =
      ([Path.ofText "docs/b.md".toList],
        [unreadReport (Path.ofText "docs/c.md".toList) ⟨.missing, Path.ofText "docs/c.md".toList⟩,
          unreadReport (Path.ofText "docs".toList)
            ⟨.isDirectory, Path.ofText "docs".toList⟩]) := by
    decide +kernel
  obtain ⟨hsame, -⟩ := writePages_leaveOut archive {} sources ⟨none, none⟩
  refine ⟨?_, ?_⟩
  · rw [hsame.result]
    rw [hkept]
    decide +kernel
  · rw [hsame.warnings]
    exact congrArg Prod.snd hkept

/-- A source in an old encoding ends the writing of pages: it is not reported, and the page of the
    source after it is not written. -/
theorem writePages_stops_undecodable :
    let sources := [Path.ofText "docs/a.md".toList, Path.ofText "docs/b.md".toList]
    let build := writePages archive {} (some sources) ⟨none, none⟩
    build.result = .error (.encoding ⟨0, 0xE9, 1, .invalidContinuation⟩) ∧ build.logs = [] ∧
      build.tree.hasPath (Path.ofText "out/b.html".toList) = false ∧
      (writePages archive {} (some (sources.drop 1)) ⟨none, none⟩).result =
        .ok [⟨Path.ofText "docs/b.md".toList, Path.ofText "out/b.html".toList⟩] := by
  decide +kernel

end Docpress
