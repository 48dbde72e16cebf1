import Docpress.Proofs.Renderer.History
import Mathlib.Data.List.Forall2
/-!
Highlighting that fails. A document whose code the highlighter cannot or does not highlight is the
document that a renderer without a highlighter writes.
-/

namespace Docpress

open Markdown Highlight

namespace Highlight

/-- The highlighter of a name is not installed. -/
def Installation.Lacks (i : Installation) : HighlighterName → Prop
  | .highlightJs => i.library = none
  | .pygmentize => i.program = none

/-- An installed highlighter leaves a block of code, given as language and code, as it is: it fails
    to highlight the block, which is reported, or its answer is empty. -/
inductive Installation.LeavesPlain (i : Installation) :
    HighlighterName → Text × Text → Option LogEntry → Prop where
  | libraryFails {highlight language code e} (hi : i.library = some highlight)
      (hreply : highlight code language = .error e) (he : e.kind.isHighlight = true) :
      LeavesPlain i .highlightJs (language, code) (some (blockReport language e))
  | libraryEmpty {highlight language code html} (hi : i.library = some highlight)
      (hreply : highlight code language = .ok html) (hhtml : html = none ∨ html = some []) :
      LeavesPlain i .highlightJs (language, code) none
  | programFails {run language code e} (hi : i.program = some run)
      (hrun : run code language = .error e) :
      LeavesPlain i .pygmentize (language, code) (some (blockReport language
        ⟨.highlight, "Failed to execute pygmentize: ".toList ++ e.message⟩))
  | programStops {run language code ended} (hi : i.program = some run)
      (hrun : run code language = .ok ended) (hstatus : ended.status ≠ 0) :
      LeavesPlain i .pygmentize (language, code) (some (blockReport language
        ⟨.highlight, if Text.trimBlank ended.errors = [] then
          "pygmentize exited with ".toList ++ Text.ofInt ended.status
          else Text.trimBlank ended.errors⟩))
  | programEmpty {run language code ended} (hi : i.program = some run)
      (hrun : run code language = .ok ended) (hstatus : ended.status = 0)
      (houtput : ended.output = []) :
      LeavesPlain i .pygmentize (language, code) none

theorem exists_forall₂ {α β : Type} {R : α → β → Prop} {l : List α}
    (h : ∀ a ∈ l, ∃ b, R a b) : ∃ l', List.Forall₂ R l l' := by
  induction l with
  | nil => exact ⟨[], .nil⟩
  | cons a l ih =>
    obtain ⟨b, hb⟩ := h a (by simp)
    obtain ⟨l', hl'⟩ := ih fun a ha => h a (List.mem_cons_of_mem _ ha)
    exact ⟨b :: l', .cons hb hl'⟩

theorem unavailable?_of_lacks {i : Installation} {name : HighlighterName} (h : i.Lacks name) :
    ∃ e, (Backend.ofName i name).load = .error e ∧
      (Backend.ofName i name).unavailable? = some e := by
  cases name <;>
    simp [Installation.Lacks] at h <;>
    simp [Backend.ofName, libraryBackend, programBackend, Backend.unavailable?, h]

theorem load_of_not_lacks {i : Installation} {name : HighlighterName} (h : ¬ i.Lacks name) :
    (Backend.ofName i name).load = .ok () := by
  cases name with
  | highlightJs =>
    obtain ⟨highlight, hi⟩ := Option.ne_none_iff_exists'.1 h
    simp [Backend.ofName, libraryBackend, hi]
  | pygmentize =>
    obtain ⟨run, hi⟩ := Option.ne_none_iff_exists'.1 h
    simp [Backend.ofName, programBackend, hi]

/-- The program delivers once, so its reply is that delivery's outcome. -/
theorem reply_of_program {i : Installation} {run} (hi : i.program = some run)
    (code language : Text) :
    (Backend.ofName i .pygmentize).reply code language =
      (programDelivery (run code language)).outcome.map some := by
  simp only [Backend.ofName, programBackend, hi]
  rfl

theorem reply_of_library {i : Installation} {highlight} (hi : i.library = some highlight)
    (code language : Text) :
    (Backend.ofName i .highlightJs).reply code language = highlight code language := by
  simp only [Backend.ofName, libraryBackend, hi]

/-- What is delivered is highlighted code, or a failure to highlight. -/
theorem Delivery.isHighlight_of_outcome {d : Delivery} {e : Failure} (h : d.outcome = .error e) :
    e.kind.isHighlight = true := by
  unfold Delivery.outcome at h
  split at h
  · split at h
    · rename_i hkind
      cases h
      exact hkind
    · cases h
      rfl
  · cases h

/-- A highlighter is benign if the library, where there is one, raises only failures to
    highlight. -/
theorem Backend.isBenign_ofName {i : Installation}
    (hlibrary : ∀ highlight ∈ i.library, ∀ code language e,
      highlight code language = .error e → e.kind.isHighlight = true) (name : HighlighterName) :
    (Backend.ofName i name).IsBenign := by
  cases name with
  | highlightJs =>
    cases hi : i.library with
    | none =>
      simp only [Backend.ofName, libraryBackend, hi]
      exact ⟨by rintro _ ⟨⟩; rfl, by rintro _ _ _ ⟨⟩⟩
    | some highlight =>
      refine ⟨fun e he => ?_, fun code language e he => ?_⟩
      · rw [load_of_not_lacks (by simp [Installation.Lacks, hi])] at he
        cases he
      · rw [reply_of_library hi] at he
        exact hlibrary highlight hi code language e he
  | pygmentize =>
    cases hi : i.program with
    | none =>
      simp only [Backend.ofName, programBackend, hi]
      exact ⟨by rintro _ ⟨⟩; rfl, by rintro _ _ _ ⟨⟩⟩
    | some run =>
      refine ⟨fun e he => ?_, fun code language e he => ?_⟩
      · rw [load_of_not_lacks (by simp [Installation.Lacks, hi])] at he
        cases he
      · rw [reply_of_program hi] at he
        cases houtcome : (programDelivery (run code language)).outcome with
        | ok html =>
          rw [houtcome] at he
          cases he
        | error failure =>
          rw [houtcome] at he
          cases he
          exact Delivery.isHighlight_of_outcome houtcome

/-- The error of a block is reported, and the answer is empty. -/
theorem LoadState.receive_error {e : Failure} (he : e.kind.isHighlight = true) (s : LoadState)
    (language : Text) :
    s.receive language (.error e) =
      { result := .ok (some []), state := s, logs := [blockReport language e], asked := true } := by
  simp only [LoadState.receive, he, if_true]

/-- What comes of a block that is left plain: an empty answer, and at most one report. -/
theorem LoadState.receive_of_leavesPlain {i : Installation} {name : HighlighterName}
    {language code : Text} {report : Option LogEntry}
    (h : i.LeavesPlain name (language, code) report) (s : LoadState) :
    let answer := s.receive language ((Backend.ofName i name).reply code language)
    (∃ html, answer.result = .ok html ∧ html.getD [] = []) ∧ answer.logs = report.toList := by
  cases h with
  | libraryFails hi hreply he =>
    rw [reply_of_library hi, hreply, LoadState.receive_error he]
    exact ⟨⟨some [], rfl, rfl⟩, rfl⟩
  | libraryEmpty hi hreply hhtml =>
    rw [reply_of_library hi, hreply]
    rcases hhtml with rfl | rfl <;> exact ⟨⟨_, rfl, rfl⟩, rfl⟩
  | @programFails run _ _ e hi hrun =>
    have houtcome : (programDelivery (run code language)).outcome = .error
        ⟨.highlight, "Failed to execute pygmentize: ".toList ++ e.message⟩ := by
      rw [hrun]
      rfl
    rw [reply_of_program hi, houtcome, Except.map, LoadState.receive_error rfl]
    exact ⟨⟨some [], rfl, rfl⟩, rfl⟩
  | @programStops run _ _ ended hi hrun hstatus =>
    have houtcome : (programDelivery (run code language)).outcome = .error ⟨.highlight,
        if Text.trimBlank ended.errors = [] then
          "pygmentize exited with ".toList ++ Text.ofInt ended.status
        else Text.trimBlank ended.errors⟩ := by
      rw [hrun, programDelivery, if_neg (by simpa using hstatus)]
      simp only [Delivery.outcome, FailureKind.isHighlight, if_true, List.isEmpty_iff]
    rw [reply_of_program hi, houtcome, Except.map, LoadState.receive_error rfl]
    exact ⟨⟨some [], rfl, rfl⟩, rfl⟩
  | @programEmpty run _ _ ended hi hrun hstatus houtput =>
    have houtcome : (programDelivery (run code language)).outcome = .ok [] := by
      rw [hrun, programDelivery, if_pos (by simpa using hstatus), houtput]
      rfl
    rw [reply_of_program hi, houtcome]
    exact ⟨⟨some [], rfl, rfl⟩, rfl⟩

/-- If all fences of a document are left plain, all answers are empty, and the failures are reported
    in the order of the fences. -/
theorem highlightAll_of_leavesPlain {i : Installation} {name : HighlighterName}
    (hload : (Backend.ofName i name).load = .ok ()) {blocks : List (Text × Text)}
    {reports : List (Option LogEntry)}
    (h : List.Forall₂ (i.LeavesPlain name) blocks reports) (s : LoadState)
    (hd : s.disabled = false) :
    let replies := highlightAll (Backend.ofName i name) s blocks
    replies.result = .ok (blocks.map fun _ => []) ∧ replies.logs = reports.filterMap id := by
  induction h generalizing s with
  | nil => simp [highlightAll]
  | @cons block report rest reports hblock _ ih =>
    obtain ⟨language, code⟩ := block
    obtain ⟨s', -, hd', hask⟩ :=
      LoadState.ask_of_loads hload hd language ((Backend.ofName i name).reply code language)
    obtain ⟨⟨html, hresult, hempty⟩, hlogs⟩ := LoadState.receive_of_leavesPlain hblock s'
    obtain ⟨hrest, hmore⟩ := ih s' hd'
    simp only [highlightAll, hask, hresult, LoadState.receive_state, hrest, hmore, hlogs, hempty]
    cases report <;> simp [Except.map]

end Highlight

/-- Empty replies leave the code of fences as it is. -/
theorem Markdown.writeEvents_of_empty_replies (breaks : Bool) {replies : List Text}
    (hreplies : ∀ reply ∈ replies, reply = []) (hidden : Bool)
    (events : List (Event (List Span))) :
    writeEvents breaks hidden replies events = writeEvents breaks hidden [] events := by
  induction events generalizing hidden replies with
  | nil => simp [writeEvents]
  | cons event rest ih =>
    cases event with
    | fence info content =>
      have hhead : replies.headD [] = [] := by
        cases replies with
        | nil => rfl
        | cons reply _ => exact hreplies reply (by simp)
      have hdrop : ∀ reply ∈ replies.drop 1, reply = [] :=
        fun reply h => hreplies reply (List.mem_of_mem_drop h)
      simp only [writeEvents, hhead, ih hdrop, List.headD_nil, List.drop_nil]
    | _ => simp only [writeEvents, ih hreplies]

/-- The HTML of a source whose fences all have a reply. -/
theorem Renderer.html_renderWith_of_replies (r : Renderer) {b : Backend} {state : LoadState}
    {source : Text} {replies : List Text}
    (h : (highlightAll b state (r.fencesOf source)).result = .ok replies) :
    (r.renderWith (some b) state source).html = .ok (restore
      (writeDocument r.config.hardwrap replies (r.config.document (protect source)))) := by
  rw [Renderer.fencesOf] at h
  simp only [Renderer.renderWith, Renderer.engineWith, h, Except.map]

/-- What a backend does not change is the document that a renderer without a highlighter writes. -/
theorem Renderer.renderWith_of_empty_replies (r : Renderer) {b : Backend} {state : LoadState}
    {source : Text}
    (hreplies : (highlightAll b state (r.fencesOf source)).result =
      .ok ((r.fencesOf source).map fun _ => [])) :
    (r.renderWith (some b) state source).html = (r.renderWith none {} source).html := by
  rw [r.html_renderWith_of_replies hreplies, writeDocument, writeEvents_of_empty_replies _ (by simp)]
  rfl

/-- A highlighter that is missing, or that leaves every fence of a source as it is, changes nothing
    of the HTML: rendering does not fail, and the HTML is that of the same options with
    highlighting off. A missing highlighter is reported once if there is a fence. Otherwise each
    fence that failed is reported, in the order of the document, and an empty answer is not. -/
theorem Renderer.render_eq_of_leavesPlain {config : MarkdownConfig} {r : Renderer}
    {name : HighlighterName} (hr : (Renderer.ofConfig config).1 = some r)
    (hname : resolveHighlighter config.highlight = some name) (i : Installation) (source : Text)
    (hplain : i.Lacks name ∨
      ∀ block ∈ r.fencesOf source, ∃ report, i.LeavesPlain name block report) :
    ∃ plain html,
      (Renderer.ofConfig { config with highlight := .flag false }).1 = some plain ∧
      (r.render i {} source).html = .ok html ∧ (plain.render i {} source).html = .ok html ∧
      (i.Lacks name → ∃ e, (Backend.ofName i name).load = .error e ∧
        (r.render i {} source).logs =
          if (r.fencesOf source).isEmpty then [] else [unavailableReport e]) ∧
      (¬ i.Lacks name → ∃ reports,
        List.Forall₂ (i.LeavesPlain name) (r.fencesOf source) reports ∧
        (r.render i {} source).logs = reports.filterMap id) := by
  rw [Renderer.fst_ofConfig, Option.map_eq_some_iff] at hr
  obtain ⟨parser, hparser, rfl⟩ := hr
  simp only [hname] at hplain ⊢
  generalize hrenderer : Renderer.mk config parser (some name) = r at hplain ⊢
  have hbackend : r.backend i = some (Backend.ofName i name) := by
    rw [← hrenderer]
    rfl
  let plain : Renderer := ⟨{ config with highlight := .flag false }, parser, none⟩
  have hsame : (r.renderWith none {} source).html = (plain.render i {} source).html := by
    rw [← hrenderer]
    rfl
  have hofConfig :
      (Renderer.ofConfig { config with highlight := .flag false }).1 = some plain := by
    rw [Renderer.fst_ofConfig, hparser]
    rfl
  refine ⟨plain, _, hofConfig, ?_, rfl, ?_⟩
  · change (r.renderWith (r.backend i) {} source).html = (plain.render i {} source).html
    rw [hbackend, ← hsame]
    apply r.renderWith_of_empty_replies
    by_cases hlacks : i.Lacks name
    · obtain ⟨e, -, hb⟩ := unavailable?_of_lacks hlacks
      exact (highlightAll_of_unavailable (LoadState.reached_initial _) hb _).1
    · obtain ⟨reports, hreports⟩ :=
        exists_forall₂ (hplain.resolve_left hlacks)
      exact (highlightAll_of_leavesPlain (load_of_not_lacks hlacks) hreports {} rfl).1
  · simp only [Renderer.render, hbackend]
    refine ⟨fun hlacks => ?_, fun hlacks => ?_⟩
    · obtain ⟨e, hload, hb⟩ := unavailable?_of_lacks hlacks
      obtain ⟨-, -, hlogs, -⟩ :=
        highlightAll_of_unavailable (LoadState.reached_initial _) hb (r.fencesOf source)
      exact ⟨e, hload, hlogs⟩
    · obtain ⟨reports, hreports⟩ :=
        exists_forall₂ (hplain.resolve_left hlacks)
      exact ⟨reports, hreports,
        (highlightAll_of_leavesPlain (load_of_not_lacks hlacks) hreports {} rfl).2⟩

/-- Two fences in languages that the library does not know, one of them in a list in a quote. -/
theorem Renderer.render_eq_of_leavesPlain_nested :
    let r : Renderer := ⟨{ highlight := .flag true }, .marked, some .highlightJs⟩
    let i : Installation := ⟨some plainLibrary, none⟩
    let source := "```js\na\n```\n> - ~~~rust\n>   b\n>   ~~~".toList
    (r.fencesOf source).map (·.1) = ["js".toList, "rust".toList] ∧ ∃ html reports,
      (r.render i {} source).html = .ok html ∧
      List.Forall₂ (i.LeavesPlain .highlightJs) (r.fencesOf source) reports ∧
      (r.render i {} source).logs = reports.filterMap id := by
  intro r i source
  have hfences : r.fencesOf source =
      [("js".toList, "a\n".toList), ("rust".toList, "b\n".toList)] := by
    decide +kernel
  have hplain : ∀ block ∈ r.fencesOf source, ∃ report,
      i.LeavesPlain .highlightJs block report := by
    rw [hfences]
    intro block hblock
    simp only [List.mem_cons, List.not_mem_nil, or_false] at hblock
    rcases hblock with rfl | rfl
    · exact ⟨_, .libraryFails rfl (e := ⟨.highlight, _⟩) rfl rfl⟩
    · exact ⟨_, .libraryFails rfl (e := ⟨.highlight, _⟩) rfl rfl⟩
  have hr : (Renderer.ofConfig { highlight := .flag true }).1 = some r := rfl
  have hname : resolveHighlighter (.flag true) = some .highlightJs := rfl
  obtain ⟨plain, html, -, hhtml, -, -, hlogs⟩ :=
    Renderer.render_eq_of_leavesPlain hr hname i source (.inr hplain)
  obtain ⟨reports, hreports, hlogs⟩ := hlogs (by simp [Installation.Lacks, i])
  exact ⟨by rw [hfences]; rfl, html, reports, hhtml, hreports, hlogs⟩

end Docpress
