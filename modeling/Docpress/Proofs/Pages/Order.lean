import Docpress.Proofs.FileTree.Placed
import Docpress.Proofs.Pages.Containment
import Docpress.Proofs.Pages.Unread
/-!
The order of sources. Sources whose pages keep out of each other's way, and out of the sources' own,
may be given in any order: whether all pages can be written, what they hold, and the files that are
there in the end are the same. What a page holds does not depend on the highlighter's state, and what
is written for one source is at no place that another one's page depends on.
-/

namespace Docpress

open Highlight FileTree

/-- The text of a source, none if the source is one that is left out. -/
def FileTree.sourceText (t : FileTree) (source : Path) : Except ReadError (Option Text) :=
  match t.readText source with
  | .ok text => .ok (some text)
  | .error e => if (t.unopened? source).isSome then .ok none else .error e

/-- The file that is written for a source: where its page goes, and what it holds. There is none for
    a source that is left out. -/
def pageFile (config : Config) (r : Option Renderer) (i : Installation) (t : FileTree)
    (source : Path) : Except PageError (Option (Path × List Nat)) := do
  match ← (t.sourceText source).mapError PageError.ofRead with
  | none => return none
  | some text =>
    let output ← config.outputOf source
    let html ← (renderMarkdown r i {} text).html.mapError PageError.highlight
    if isUnencodable r text then .error (.unencodable ⟨source, output⟩)
    else return some (output, Utf8.encode (html ++ ['\n']))

/-- The source is left out, or its page can be made and written. -/
def Fits (config : Config) (r : Option Renderer) (i : Installation) (t : FileTree) (source : Path) :
    Prop :=
  ∃ file, pageFile config r i t source = .ok file ∧
    ∀ f ∈ file, f.1.hasZero = false ∧ t.Vacant (t.settle f.1)

/-- What is written for a source, and the place it is written to. -/
def placedFile? (config : Config) (r : Option Renderer) (i : Installation) (t : FileTree)
    (source : Path) : Option (Place × List Nat) :=
  (pageFile config r i t source).toOption.join.map fun f => (t.settle f.1, f.2)

/-- The page of a source that can be read. -/
def Config.pageOf? (config : Config) (t : FileTree) (source : Path) : Option Page := do
  let _ ← (t.readText source).toOption
  let output ← (config.outputOf source).toOption
  return ⟨source, output⟩

/-- The pages of the sources keep out of each other's way, and out of that of the sources: no two
    have the same path, and none is at the place of a source or above that of another page. No path
    holds a step up. -/
structure Config.KeepsApart (config : Config) (t : FileTree) (sources : List Path) : Prop where
  outputDir : config.outputDir.Descends
  readable : ∀ source ∈ sources, source.IsReadable
  descends : ∀ source ∈ sources, source.Descends
  distinct : sources.Pairwise fun source other =>
    ∀ output, config.outputOf source = .ok output → config.outputOf other ≠ .ok output
  notSource : ∀ source ∈ sources, ∀ other ∈ sources, ∀ output,
    config.outputOf source = .ok output → t.settle output ≠ t.settle other
  notAbove : ∀ source ∈ sources, ∀ other ∈ sources, ∀ output output',
    config.outputOf source = .ok output → config.outputOf other = .ok output' →
      ∀ name rest, t.settle output' ≠ t.settle output ++ name :: rest

variable {t t' : FileTree} {config : Config} {r : Option Renderer} {i : Installation}
  {state : LoadState} {source other output : Path} {sources sources' : List Path}
  {pages : List Page}

/-! ### Where pages go -/

/-- A source is seen from the source directory by names of its own. -/
theorem Config.relativeOf_names (config : Config) (hsource : source.IsReadable) :
    (config.relativeOf source).isAbsolute = false ∧
      (config.relativeOf source).names ⊆ source.names := by
  unfold Config.relativeOf
  cases hbelow : source.relativeTo? config.sourceDir with
  | none =>
    rw [Option.getD_none]
    cases hlast : source.names.getLast? with
    | none =>
      rw [Path.name, hlast]
      exact ⟨rfl, List.nil_subset _⟩
    | some name =>
      have hmem := List.mem_of_getLast? hlast
      rw [Path.name, hlast, Option.getD_some, (hsource.parts name hmem).ofText_eq]
      exact ⟨rfl, List.cons_subset.2 ⟨hmem, List.nil_subset _⟩⟩
  | some relative =>
    rw [Path.relativeTo?] at hbelow
    split at hbelow
    · cases hbelow
    · obtain ⟨names, hdrop, rfl⟩ := Option.map_eq_some_iff.1 hbelow
      rw [Path.eq_append_of_dropNames? hdrop]
      exact ⟨rfl, List.subset_append_right _ _⟩

/-- A page that is reached without a step up. -/
theorem Config.outputOf_descends (hdir : config.outputDir.Descends) (hsource : source.IsReadable)
    (hdescends : source.Descends) (houtput : config.outputOf source = .ok output) :
    output.Descends ∧ output.root = config.outputDir.root := by
  obtain ⟨hrelative, hnames⟩ := config.relativeOf_names hsource
  obtain ⟨-, page, hpage, rfl⟩ := Config.outputOf_eq_ok houtput hrelative
  refine ⟨fun hmem => ?_, rfl⟩
  rcases List.mem_append.1 hmem with hmem | hmem
  · rcases List.mem_append.1 (List.dropLast_subset _ hmem) with hmem | hmem
    · exact hdir hmem
    · exact hdescends (hnames hmem)
  · exact hpage (List.mem_singleton.1 hmem).symm

/-- Descending paths that begin alike have a place each. -/
theorem FileTree.settle_injective (hother : other.Descends) (houtput : output.Descends)
    (hroot : other.root = output.root) (h : t.settle other = t.settle output) : other = output := by
  have hstart : t.start other = t.start output := by
    simp only [FileTree.start, Path.isAbsolute, hroot]
    rfl
  rw [settle_eq_append t hother, settle_eq_append t houtput, hstart,
    List.append_cancel_left_eq] at h
  cases other
  cases output
  simp_all

theorem Config.KeepsApart.output_descends (h : config.KeepsApart t sources) (hmem : source ∈ sources)
    (houtput : config.outputOf source = .ok output) :
    output.Descends ∧ output.root = config.outputDir.root :=
  Config.outputOf_descends h.outputDir (h.readable source hmem) (h.descends source hmem) houtput

theorem Config.KeepsApart.tail (h : config.KeepsApart t (source :: sources)) :
    config.KeepsApart t sources := by
  have hsub : sources ⊆ source :: sources := List.subset_cons_self _ _
  exact ⟨h.outputDir, fun s hs => h.readable s (hsub hs), fun s hs => h.descends s (hsub hs),
    (List.pairwise_cons.1 h.distinct).2, fun s hs o ho => h.notSource s (hsub hs) o (hsub ho),
    fun s hs o ho => h.notAbove s (hsub hs) o (hsub ho)⟩

theorem Config.KeepsApart.perm (h : config.KeepsApart t sources) (hperm : sources.Perm sources') :
    config.KeepsApart t sources' := by
  have hmem : ∀ source ∈ sources', source ∈ sources := fun _ => hperm.mem_iff.2
  refine ⟨h.outputDir, fun s hs => h.readable s (hmem s hs), fun s hs => h.descends s (hmem s hs),
    h.distinct.perm hperm fun {a b} hne output ha hb => hne output hb ha,
    fun s hs o ho => h.notSource s (hmem s hs) o (hmem o ho),
    fun s hs o ho => h.notAbove s (hmem s hs) o (hmem o ho)⟩

/-- Where pages go does not depend on what else is in the tree. -/
theorem Config.KeepsApart.of_settle (h : config.KeepsApart t sources)
    (hsettle : ∀ p, t'.settle p = t.settle p) : config.KeepsApart t' sources := by
  refine ⟨h.outputDir, h.readable, h.descends, h.distinct, ?_, ?_⟩
  · simpa only [hsettle] using h.notSource
  · simpa only [hsettle] using h.notAbove

/-- The pages of different sources lie apart. -/
theorem Config.KeepsApart.apart {output' : Path} (h : config.KeepsApart t (source :: sources))
    (hother : other ∈ sources) (houtput : config.outputOf source = .ok output)
    (houtput' : config.outputOf other = .ok output') :
    Apart (t.settle output) (t.settle output') := by
  have hmem : other ∈ source :: sources := List.mem_cons_of_mem _ hother
  obtain ⟨hdescends, hroot⟩ := h.output_descends List.mem_cons_self houtput
  obtain ⟨hdescends', hroot'⟩ := h.output_descends hmem houtput'
  have hne : t.settle output ≠ t.settle output' := by
    intro heq
    obtain rfl := settle_injective hdescends hdescends' (hroot.trans hroot'.symm) heq
    exact (List.pairwise_cons.1 h.distinct).1 other hother output houtput houtput'
  constructor
  · rintro ⟨rest, hrest⟩
    cases rest with
    | nil => exact hne (by simpa using hrest)
    | cons name rest =>
      exact h.notAbove source List.mem_cons_self other hmem output output' houtput houtput' name rest
        hrest.symm
  · rintro ⟨rest, hrest⟩
    cases rest with
    | nil => exact hne (by simpa using hrest.symm)
    | cons name rest =>
      exact h.notAbove other hmem source List.mem_cons_self output' output houtput' houtput name rest
        hrest.symm

/-! ### What is read -/

theorem FileTree.walk_ne_zeroByte (t : FileTree) (place : Place) (names : List Text) :
    t.walk place names ≠ .error .zeroByte := by
  induction names generalizing place with
  | nil => simp [FileTree.walk]
  | cons name rest ih =>
    rw [FileTree.walk]
    split
    · simp
    · simp
    · split
      · exact ih _
      · split
        · exact ih _
        · simp

/-- A file that cannot be read is left out, unless no file can have its path. -/
theorem FileTree.sourceText_of_not_readBytes (hzero : source.hasZero = false)
    (h : ∀ content, t.readBytes source ≠ .ok content) : t.sourceText source = .ok none := by
  have hfault : ∃ e, t.readBytes source = .error e ∧ e.fault ≠ .zeroByte := by
    cases hread : t.readBytes source with
    | ok content => exact absurd hread (h content)
    | error e =>
      refine ⟨e, rfl, ?_⟩
      unfold FileTree.readBytes FileTree.locate at hread
      rw [if_neg (by simp [hzero])] at hread
      split at hread
      · rename_i fault hwalk
        cases hread
        rintro rfl
        exact t.walk_ne_zeroByte _ _ hwalk
      · split at hread <;> cases hread <;> simp
  obtain ⟨e, hread, hfault⟩ := hfault
  have hnotZero : (e.fault == .zeroByte) = false := by simpa using hfault
  simp [FileTree.sourceText, FileTree.unopened?, FileTree.readText, hread, hnotZero]

/-- What a source is read as depends only on the file at its place. -/
theorem FileTree.Closed.sourceText_congr (ht : t.Closed) (ht' : t'.Closed)
    (hdescends : source.Descends) (hsettle : t'.settle source = t.settle source)
    (hfile : ∀ content, t'.find? (t.settle source) = some (.file content) ↔
      t.find? (t.settle source) = some (.file content)) :
    t'.sourceText source = t.sourceText source ∧
      (t'.readText source).toOption = (t.readText source).toOption := by
  cases hzero : source.hasZero with
  | true =>
    have hread : ∀ t : FileTree, t.readBytes source = .error ⟨.zeroByte, source⟩ := fun t => by
      simp [FileTree.readBytes, FileTree.locate, hzero]
    simp [FileTree.sourceText, FileTree.unopened?, FileTree.readText, hread]
  | false =>
    have hread : ∀ content, t'.readBytes source = .ok content ↔ t.readBytes source = .ok content := by
      intro content
      rw [ht'.readBytes_eq_ok_iff hdescends hzero, ht.readBytes_eq_ok_iff hdescends hzero, hsettle,
        hfile]
    cases hbytes : t.readBytes source with
    | ok content =>
      have hbytes' := (hread content).2 hbytes
      simp [FileTree.sourceText, FileTree.unopened?, FileTree.readText, hbytes, hbytes']
    | error e =>
      have hnot : ∀ content, t.readBytes source ≠ .ok content := fun content h => by
        cases hbytes.symm.trans h
      have hnot' : ∀ content, t'.readBytes source ≠ .ok content := fun content h =>
        hnot content ((hread content).1 h)
      refine ⟨by rw [sourceText_of_not_readBytes hzero hnot,
        sourceText_of_not_readBytes hzero hnot'], ?_⟩
      cases hbytes' : t'.readBytes source with
      | ok content => exact absurd hbytes' (hnot' content)
      | error e' => simp [FileTree.readText, hbytes, hbytes', Except.toOption]

/-! ### One source -/

/-- A source is left out and changes nothing, its page is written, or it ends the writing of
    pages. -/
theorem renderPage_sourceText (t : FileTree) (config : Config) (r : Option Renderer)
    (i : Installation) (state : LoadState) (source : Path) :
    let build := renderPage t config r i state source
    match t.sourceText source with
    | .ok none => build.result = .ok [] ∧ build.tree = t ∧ build.state = state
    | .ok (some text) => build = writePage t config r i state source text
    | .error e => build.result = .error (.ofRead e) := by
  unfold FileTree.sourceText
  cases hread : t.readText source with
  | ok text => simp only [renderPage, hread]
  | error e =>
    cases hopen : t.unopened? source with
    | none =>
      rw [renderPage_of_unreadable hread hopen]
      rfl
    | some e' =>
      rw [renderPage_of_unopened hopen]
      exact ⟨rfl, rfl, rfl⟩

theorem readText_toOption_isSome :
    (t.readText source).toOption.isSome = true ↔ ∃ text, t.sourceText source = .ok (some text) := by
  unfold FileTree.sourceText
  cases t.readText source with
  | ok text => simp [Except.toOption]
  | error e =>
    simp only [Except.toOption, Option.isSome_none, Bool.false_eq_true, false_iff]
    rintro ⟨text, h⟩
    split at h <;> cases h

/-- A page is written if each of the steps succeeds. -/
theorem writePage_of_steps {text html : Text} {made written : FileTree}
    (houtput : config.outputOf source = .ok output)
    (hmade : t.ensureDirectories output.parent = .ok made)
    (hhtml : (renderMarkdown r i state text).html = .ok html)
    (hunicode : isUnencodable r text = false)
    (hwritten : made.writeText output (html ++ ['\n']) = .ok written) :
    let build := writePage t config r i state source text
    build.result = .ok [⟨source, output⟩] ∧ build.tree = written ∧
      build.state = (renderMarkdown r i state text).state := by
  simp [writePage, storedHtml, houtput, hmade, hhtml, hunicode, hwritten, Except.mapError, bind,
    Except.bind]

/-- A page that is written could be, and what is written for it is all that changes. -/
theorem writePage_placed {text : Text} (hs : StateReached r i state) (ht : t.Closed)
    (houtputs : ∀ output, config.outputOf source = .ok output → output.Descends)
    (h : (writePage t config r i state source text).result = .ok pages) :
    let build := writePage t config r i state source text
    ∃ output html, config.outputOf source = .ok output ∧
      (renderMarkdown r i {} text).html = .ok html ∧ isUnencodable r text = false ∧
      (output.hasZero = false ∧ t.Vacant (t.settle output)) ∧ pages = [⟨source, output⟩] ∧
      Placed [(t.settle output, Utf8.encode (html ++ ['\n']))] t build.tree ∧
      StateReached r i build.state := by
  obtain ⟨hstate, hsame⟩ := renderMarkdown_of_reached hs text
  have hsteps := h
  rw [result_writePage] at hsteps
  obtain ⟨output, houtput, hsteps⟩ := exists_of_bind_eq_ok hsteps
  obtain ⟨made, hmade, hsteps⟩ := exists_of_bind_eq_ok hsteps
  obtain ⟨html, hhtml, hsteps⟩ := exists_of_bind_eq_ok hsteps
  obtain ⟨written, hwritten, hsteps⟩ := exists_of_bind_eq_ok hsteps
  have hunicode : isUnencodable r text = false := by
    cases hbroken : isUnencodable r text with
    | false => rfl
    | true =>
      rw [hbroken] at hsteps
      cases hsteps
  rw [hunicode] at hwritten
  rw [mapError_eq_ok] at hmade hhtml hwritten
  have hdescends := houtputs output houtput
  obtain ⟨hzero, hvacant⟩ := vacant_of_write ht hdescends hmade hwritten
  obtain ⟨hresult, htree, hafter⟩ := writePage_of_steps houtput hmade hhtml hunicode hwritten
  obtain ⟨made', written', hmade', hwritten', hplaced⟩ := hvacant.placed ht hdescends hzero
    (Utf8.encode (html ++ ['\n']))
  obtain rfl := Except.ok.inj (hmade.symm.trans hmade')
  obtain rfl := Except.ok.inj (hwritten.symm.trans hwritten')
  exact ⟨output, html, houtput, hsame ▸ hhtml, hunicode, ⟨hzero, hvacant⟩,
    Except.ok.inj (h.symm.trans hresult), htree ▸ hplaced, hafter ▸ hstate⟩

/-- If all goes well with a source, it fits, and what is written for it is all that changes. -/
theorem renderPage_placed (hs : StateReached r i state) (ht : t.Closed)
    (houtputs : ∀ output, config.outputOf source = .ok output → output.Descends)
    (h : (renderPage t config r i state source).result = .ok pages) :
    let build := renderPage t config r i state source
    Fits config r i t source ∧ pages = (config.pageOf? t source).toList ∧
      Placed (placedFile? config r i t source).toList t build.tree ∧
      StateReached r i build.state := by
  have hpage := renderPage_sourceText t config r i state source
  cases htext : t.sourceText source with
  | error e =>
    rw [htext] at hpage
    cases hpage.symm.trans h
  | ok text? =>
    cases text? with
    | none =>
      rw [htext] at hpage
      obtain ⟨hpages, htree, hstate⟩ := hpage
      have hfile : pageFile config r i t source = .ok none := by
        simp [pageFile, htext, Except.mapError, bind, Except.bind, pure, Except.pure]
      have hread : (t.readText source).toOption = none := by
        rw [← Option.not_isSome_iff_eq_none, readText_toOption_isSome]
        rintro ⟨text, htext'⟩
        cases htext.symm.trans htext'
      refine ⟨⟨none, hfile, by simp⟩, ?_, ?_, ?_⟩
      · simpa [Config.pageOf?, hread] using (Except.ok.inj (hpages.symm.trans h)).symm
      · simpa [placedFile?, hfile, Except.toOption, htree] using Placed.nil t
      · rwa [hstate]
    | some text =>
      rw [htext] at hpage
      dsimp only at hpage
      rw [hpage] at h
      obtain ⟨output, html, houtput, hhtml, hunicode, hvacant, rfl, hplaced, hstate⟩ :=
        writePage_placed hs ht houtputs h
      have hfile : pageFile config r i t source =
          .ok (some (output, Utf8.encode (html ++ ['\n']))) := by
        simp [pageFile, htext, houtput, hhtml, hunicode, Except.mapError, bind, Except.bind, pure,
          Except.pure]
      obtain ⟨text', hread⟩ := Option.isSome_iff_exists.1 (readText_toOption_isSome.2 ⟨text, htext⟩)
      dsimp only
      rw [hpage]
      refine ⟨⟨_, hfile, ?_⟩, ?_, ?_, hstate⟩
      · rintro f ⟨⟩
        exact hvacant
      · have hoption : (config.outputOf source).toOption = some output := by rw [houtput]; rfl
        simp [Config.pageOf?, hread, hoption]
      · simpa [placedFile?, hfile, Except.toOption] using hplaced

/-- Only HTML that is Unicode is written. -/
theorem eq_of_unicode {unencodable : Bool} {e : PageError} {found file : Option (Path × List Nat)}
    (h : (if unencodable then .error e else return found) = Except.ok file) :
    unencodable = false ∧ file = found := by
  cases unencodable with
  | false => exact ⟨rfl, (Except.ok.inj h).symm⟩
  | true => cases h

/-- All goes well with a source that fits. -/
theorem renderPage_of_fits (hs : StateReached r i state) (ht : t.Closed)
    (houtputs : ∀ output, config.outputOf source = .ok output → output.Descends)
    (h : Fits config r i t source) :
    ∃ pages, (renderPage t config r i state source).result = .ok pages := by
  obtain ⟨file, hfile, hvacant⟩ := h
  have hpage := renderPage_sourceText t config r i state source
  rw [pageFile] at hfile
  obtain ⟨text?, htext, hfile⟩ := exists_of_bind_eq_ok hfile
  rw [mapError_eq_ok] at htext
  rw [htext] at hpage
  cases text? with
  | none => exact ⟨[], hpage.1⟩
  | some text =>
    obtain ⟨output, houtput, hfile⟩ := exists_of_bind_eq_ok hfile
    obtain ⟨html, hhtml, hfile⟩ := exists_of_bind_eq_ok hfile
    rw [mapError_eq_ok, ← (renderMarkdown_of_reached hs text).2] at hhtml
    obtain ⟨hunicode, rfl⟩ := eq_of_unicode hfile
    obtain ⟨hzero, hplace⟩ := hvacant _ rfl
    obtain ⟨made, written, hmade, hwritten, -⟩ := hplace.placed ht
      (houtputs output houtput) hzero (Utf8.encode (html ++ ['\n']))
    dsimp only at hpage
    rw [hpage]
    exact ⟨_, (writePage_of_steps houtput hmade hhtml hunicode hwritten).1⟩

/-! ### All sources -/

theorem outputOf_of_pageFile {file : Path × List Nat}
    (h : pageFile config r i t source = .ok (some file)) : config.outputOf source = .ok file.1 := by
  obtain ⟨text?, -, h⟩ := exists_of_bind_eq_ok h
  cases text? with
  | none => cases h
  | some text =>
    obtain ⟨output, houtput, h⟩ := exists_of_bind_eq_ok h
    obtain ⟨html, -, h⟩ := exists_of_bind_eq_ok h
    obtain ⟨-, heq⟩ := eq_of_unicode h
    cases heq
    exact houtput

/-- What is written for a source that fits goes where its page goes, and can be written. -/
theorem Fits.of_mem_placedFile? (h : Fits config r i t source) {file : Place × List Nat}
    (hfile : file ∈ placedFile? config r i t source) :
    t.Vacant file.1 ∧ ∃ output, config.outputOf source = .ok output ∧ file.1 = t.settle output := by
  obtain ⟨found, hfound, hvacant⟩ := h
  rw [placedFile?, hfound] at hfile
  obtain ⟨f, hf, rfl⟩ := Option.map_eq_some_iff.1 hfile
  obtain rfl : found = some f := by simpa [Except.toOption] using hf
  exact ⟨(hvacant f rfl).2, f.1, outputOf_of_pageFile hfound, rfl⟩

/-- What is asked of a source, and what it brings, is not changed by the page of another one. -/
theorem Config.KeepsApart.step (h : config.KeepsApart t (source :: sources)) (ht : t.Closed)
    (hfits : Fits config r i t source)
    (hplaced : Placed (placedFile? config r i t source).toList t t') :
    t'.Closed ∧ config.KeepsApart t' sources ∧ ∀ other ∈ sources,
      (Fits config r i t' other ↔ Fits config r i t other) ∧
      config.pageOf? t' other = config.pageOf? t other ∧
      placedFile? config r i t' other = placedFile? config r i t other := by
  have hfiles : ∀ file ∈ (placedFile? config r i t source).toList, t.Vacant file.1 ∧
      ∃ output, config.outputOf source = .ok output ∧ file.1 = t.settle output :=
    fun file hfile => hfits.of_mem_placedFile? (Option.mem_toList.1 hfile)
  have hvacant := fun file hfile => (hfiles file hfile).1
  have ht' := hplaced.closed ht hvacant
  refine ⟨ht', h.tail.of_settle hplaced.settle, fun other hother => ?_⟩
  have hmem : other ∈ source :: sources := List.mem_cons_of_mem _ hother
  -- The source's own file is not written, and becomes no directory.
  have hself : ∀ content, t'.find? (t.settle other) = some (.file content) ↔
      t.find? (t.settle other) = some (.file content) := by
    have hne : ∀ file ∈ (placedFile? config r i t source).toList, t.settle other ≠ file.1 := by
      intro file hfile
      obtain ⟨-, output, houtput, hplace⟩ := hfiles file hfile
      rw [hplace]
      exact (h.notSource source List.mem_cons_self other hmem output houtput).symm
    intro content
    rcases hplaced.find?_of_vacant hvacant hne with heq | ⟨hdir, hfree⟩
    · rw [heq]
    · rw [hdir]
      exact iff_of_false (by simp) (hfree content)
  obtain ⟨htext, hread⟩ := ht.sourceText_congr ht' (h.descends other hmem) (hplaced.settle other)
    hself
  have hfile : pageFile config r i t' other = pageFile config r i t other := by
    rw [pageFile, pageFile, htext]
  refine ⟨?_, ?_, ?_⟩
  · rw [Fits, Fits, hfile]
    refine exists_congr fun file => and_congr_right fun hother' => forall₂_congr fun f hf => ?_
    cases hf
    rw [hplaced.settle, hplaced.vacant_iff hvacant fun file hfile => ?_]
    obtain ⟨-, output, houtput, hplace⟩ := hfiles file hfile
    rw [hplace]
    exact h.apart hother houtput (outputOf_of_pageFile hother')
  · rw [Config.pageOf?, Config.pageOf?, hread]
  · simp only [placedFile?, hfile, hplaced.settle]

theorem filterMap_cons_toList {α β : Type} (f : α → Option β) (a : α) (l : List α) :
    (a :: l).filterMap f = (f a).toList ++ l.filterMap f := by
  cases h : f a <;> simp [h]

/-- If all goes well, all sources fit; their pages are the result, and what is written for them is
    all that changes. -/
theorem renderPages_placed (hs : StateReached r i state) (ht : t.Closed)
    (hapart : config.KeepsApart t sources)
    (h : (renderPages config r i t state sources).result = .ok pages) :
    (∀ source ∈ sources, Fits config r i t source) ∧
      pages = sources.filterMap (config.pageOf? t) ∧
      Placed (sources.filterMap (placedFile? config r i t)) t
        (renderPages config r i t state sources).tree := by
  induction sources generalizing t state pages with
  | nil =>
    cases h
    exact ⟨List.forall_mem_nil _, rfl, Placed.nil t⟩
  | cons source rest ih =>
    cases hfirst : (renderPage t config r i state source).result with
    | error e =>
      rw [renderPages_cons_of_error hfirst, hfirst] at h
      cases h
    | ok first =>
      obtain ⟨hfits, rfl, hplaced, hstate⟩ := renderPage_placed hs ht
        (fun output houtput => (hapart.output_descends List.mem_cons_self houtput).1) hfirst
      obtain ⟨ht', hapart', hsame⟩ := hapart.step ht hfits hplaced
      rw [renderPages_cons_of_ok hfirst] at h ⊢
      cases hmore : (renderPages config r i (renderPage t config r i state source).tree
          (renderPage t config r i state source).state rest).result with
      | error e =>
        rw [Build.after, hmore] at h
        cases h
      | ok more =>
        rw [Build.after, hmore] at h
        cases h
        obtain ⟨hrest, rfl, hplaced'⟩ := ih hstate ht' hapart' hmore
        have hfits' : ∀ other ∈ rest, Fits config r i t other :=
          fun other hother => (hsame other hother).1.1 (hrest other hother)
        rw [List.filterMap_congr fun other hother => (hsame other hother).2.2] at hplaced'
        refine ⟨List.forall_mem_cons.2 ⟨hfits, hfits'⟩, ?_, ?_⟩
        · rw [filterMap_cons_toList,
            List.filterMap_congr fun other hother => (hsame other hother).2.1]
        · rw [filterMap_cons_toList]
          refine hplaced.append hplaced' fun file hfile later hlater => ?_
          obtain ⟨other, hother, hfile'⟩ := List.mem_filterMap.1 hlater
          obtain ⟨-, output, houtput, hplace⟩ :=
            hfits.of_mem_placedFile? (Option.mem_toList.1 hfile)
          obtain ⟨-, output', houtput', hplace'⟩ :=
            (hfits' other hother).of_mem_placedFile? hfile'
          rw [hplace, hplace']
          exact hapart.apart hother houtput houtput'

/-- All goes well with sources that all fit. -/
theorem renderPages_of_fits (hs : StateReached r i state) (ht : t.Closed)
    (hapart : config.KeepsApart t sources) (h : ∀ source ∈ sources, Fits config r i t source) :
    ∃ pages, (renderPages config r i t state sources).result = .ok pages := by
  induction sources generalizing t state with
  | nil => exact ⟨[], rfl⟩
  | cons source rest ih =>
    obtain ⟨hfits, hrest⟩ := List.forall_mem_cons.1 h
    have houtputs : ∀ output, config.outputOf source = .ok output → output.Descends :=
      fun output houtput => (hapart.output_descends List.mem_cons_self houtput).1
    obtain ⟨first, hfirst⟩ := renderPage_of_fits hs ht houtputs hfits
    obtain ⟨-, -, hplaced, hstate⟩ := renderPage_placed hs ht houtputs hfirst
    obtain ⟨ht', hapart', hsame⟩ := hapart.step ht hfits hplaced
    obtain ⟨more, hmore⟩ := ih hstate ht' hapart' fun other hother =>
      (hsame other hother).1.2 (hrest other hother)
    rw [renderPages_cons_of_ok hfirst]
    exact ⟨_, by rw [Build.after, hmore]; rfl⟩

/-- Sources whose pages keep apart may be given in any order. If all goes well in one order, it does
    in every other one; the pages are those of the sources that can be read, in the order of these,
    and the same is at each place in the end. -/
theorem writePages_perm (ht : t.WellFormed) (hapart : config.KeepsApart t sources)
    (hperm : sources.Perm sources')
    (h : (writePages t config (some sources) i).result = .ok pages) :
    pages = sources.filterMap (config.pageOf? t) ∧
      (writePages t config (some sources') i).result =
        .ok (sources'.filterMap (config.pageOf? t)) ∧
      ∀ place, (writePages t config (some sources') i).tree.find? place =
        (writePages t config (some sources) i).tree.find? place := by
  have hs := stateReached_initial (Renderer.ofConfig config.markdown).1 i
  have hrun : (renderPages config (Renderer.ofConfig config.markdown).1 i t {} sources).result =
      .ok pages := h
  obtain ⟨hfits, hpages, hplaced⟩ := renderPages_placed hs ht.closed hapart hrun
  obtain ⟨pages', hrun'⟩ := renderPages_of_fits hs ht.closed (hapart.perm hperm)
    fun source hsource => hfits source (hperm.mem_iff.2 hsource)
  obtain ⟨-, rfl, hplaced'⟩ := renderPages_placed hs ht.closed (hapart.perm hperm) hrun'
  refine ⟨hpages, hrun', fun place => ?_⟩
  exact hplaced'.find?_eq hplaced (fun file => (hperm.filterMap _).mem_iff.symm) place

/-- The pages of a source in the source directory and of one outside it, the other way around. -/
theorem writePages_perm_workshop :
    let plan := Path.ofText "docs/plan.md".toList
    let notes := Path.ofText "notes.md".toList
    let there := writePages workshop {} (some [plan, notes]) ⟨none, none⟩
    let back := writePages workshop {} (some [notes, plan]) ⟨none, none⟩
    workshop.WellFormed ∧ Config.KeepsApart {} workshop [plan, notes] ∧
      there.result = .ok [⟨plan, Path.ofText "out/plan.html".toList⟩,
        ⟨notes, Path.ofText "out/notes.html".toList⟩] ∧
      back.result = .ok [⟨notes, Path.ofText "out/notes.html".toList⟩,
        ⟨plan, Path.ofText "out/plan.html".toList⟩] ∧
      ∀ place, back.tree.find? place = there.tree.find? place := by
  intro plan notes there back
  have ht : workshop.WellFormed := ⟨by decide, by decide, by decide, rfl⟩
  have hplan : Config.outputOf {} plan = .ok (Path.ofText "out/plan.html".toList) := by
    decide +kernel
  have hnotes : Config.outputOf {} notes = .ok (Path.ofText "out/notes.html".toList) := by
    decide +kernel
  have hpair {P : Path → Prop} : (∀ source ∈ [plan, notes], P source) ↔ P plan ∧ P notes := by
    simp
  have hapart : Config.KeepsApart {} workshop [plan, notes] := by
    refine ⟨by decide, hpair.2 ⟨Path.isReadable_ofText _, Path.isReadable_ofText _⟩, by decide +kernel,
      ?_, ?_, ?_⟩
    · simp only [List.pairwise_cons, List.forall_mem_singleton, List.not_mem_nil, hplan, hnotes]
      refine ⟨?_, by simp⟩
      rintro output ⟨⟩
      decide
    · simp only [hpair, hplan, hnotes]
      refine ⟨⟨?_, ?_⟩, ?_, ?_⟩ <;> rintro output ⟨⟩ <;> decide +kernel
    · simp only [hpair, hplan, hnotes]
      have hdeep : (workshop.settle (Path.ofText "out/plan.html".toList)).length =
          (workshop.settle (Path.ofText "out/notes.html".toList)).length := by decide +kernel
      refine ⟨⟨?_, ?_⟩, ?_, ?_⟩
      all_goals
        rintro output output' ⟨⟩ ⟨⟩ name rest hplace
        have hlength := congrArg List.length hplace
        rw [List.length_append, List.length_cons] at hlength
        omega
  have hresult : there.result = .ok [⟨plan, Path.ofText "out/plan.html".toList⟩,
      ⟨notes, Path.ofText "out/notes.html".toList⟩] := by decide +kernel
  obtain ⟨-, hback, htree⟩ := writePages_perm ht hapart (List.Perm.swap notes plan []) hresult
  refine ⟨ht, hapart, hresult, ?_, htree⟩
  rw [hback]
  decide +kernel

end Docpress
