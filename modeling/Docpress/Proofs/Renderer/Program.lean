import Docpress.Proofs.Highlight.Deferred
import Docpress.Proofs.Highlight.Lifetime
import Docpress.Proofs.Renderer.Plain
/-!
Highlighting with the program. It is run once for each fence of a document, and however a run ends,
the fence is written with code in it and rendering goes on.
-/

namespace Docpress

open Markdown Highlight

/-! ### What the replies show -/

namespace Markdown

/-- The language and the content of a fence, if the event is one. -/
def Event.block? : Event (List Span) → Option (Text × Text)
  | .fence info content => some (fenceLanguage info, content)
  | _ => none

theorem fences_eq_filterMap (events : List (Event (List Span))) :
    fences events = events.filterMap Event.block? := by
  induction events with
  | nil => rfl
  | cons event rest ih =>
    cases event with
    | fence info content => exact congrArg (_ :: ·) ih
    | _ => exact ih

/-- The code that a block is shown with: the reply as it is, or the block's own code as HTML if the
    reply is empty. -/
def shownCode (block : Text × Text) (reply : Text) : Text :=
  if reply.isEmpty then Html.escape block.2 else reply

theorem fenceHtml_shownCode (info content reply : Text) :
    fenceHtml info content (shownCode (fenceLanguage info, content) reply) =
      fenceHtml info content reply := by
  unfold fenceHtml shownCode
  cases reply with
  | nil =>
    simp only [List.isEmpty_nil, if_true]
    split <;> rfl
  | cons c reply => rfl

/-- Fences are written alike with the replies and with what these show. -/
theorem writeEvents_shownCode (breaks hidden : Bool) {replies : List Text}
    {events : List (Event (List Span))} (h : replies.length = (fences events).length) :
    writeEvents breaks hidden (List.zipWith shownCode (fences events) replies) events =
      writeEvents breaks hidden replies events := by
  induction events generalizing hidden replies with
  | nil => simp [writeEvents]
  | cons event rest ih =>
    cases event with
    | fence info content =>
      obtain ⟨reply, replies, rfl⟩ : ∃ reply more, replies = reply :: more :=
        List.exists_cons_of_length_pos (by rw [h]; exact Nat.zero_lt_succ _)
      simp only [fences, List.length_cons, Nat.add_right_cancel_iff] at h
      simp only [writeEvents, fences, List.zipWith_cons_cons, List.headD_cons, List.drop_succ_cons,
        List.drop_zero, fenceHtml_shownCode, ih _ h]
    | _ => simp only [writeEvents, fences, ih _ h]

end Markdown

/-! ### One block -/

namespace Highlight

/-- What becomes of a block when the program has run on it: the code that is shown, and what is
    reported. -/
inductive Installation.Treats (i : Installation) :
    Text × Text → (shown : Text) → Option LogEntry → Prop where
  /-- A run that failed, or put nothing out, leaves the code as it is. -/
  | plain {language code report} (h : i.LeavesPlain .pygmentize (language, code) report) :
      i.Treats (language, code) (Html.escape code) report
  | highlighted {run language code ended} (hi : i.program = some run)
      (hrun : run code language = .ok ended) (hstatus : ended.status = 0)
      (houtput : ended.output ≠ []) : i.Treats (language, code) ended.output none

variable {i : Installation} {run : (code language : Text) → Except Failure Finished}

/-- However the program ends, there is something to be shown. -/
theorem exists_treats (hi : i.program = some run) (block : Text × Text) :
    ∃ treated : Text × Option LogEntry, i.Treats block treated.1 treated.2 := by
  obtain ⟨language, code⟩ := block
  cases hrun : run code language with
  | error e => exact ⟨(_, _), .plain (.programFails hi hrun)⟩
  | ok ended =>
    by_cases hstatus : ended.status = 0
    · by_cases houtput : ended.output = []
      · exact ⟨(_, _), .plain (.programEmpty hi hrun hstatus houtput)⟩
      · exact ⟨(_, _), .highlighted hi hrun hstatus houtput⟩
    · exact ⟨(_, _), .plain (.programStops hi hrun hstatus)⟩

/-- What the highlighter makes of a block is what the program's run makes of it. -/
theorem LoadState.receive_of_treats {language code shown : Text} {report : Option LogEntry}
    (h : i.Treats (language, code) shown report) (s : LoadState) :
    let answer := s.receive language ((Backend.ofName i .pygmentize).reply code language)
    ∃ html, answer.result = .ok html ∧ shownCode (language, code) (html.getD []) = shown ∧
      answer.logs = report.toList := by
  cases h with
  | plain h =>
    obtain ⟨⟨html, hresult, hempty⟩, hlogs⟩ := LoadState.receive_of_leavesPlain h s
    exact ⟨html, hresult, by rw [hempty]; rfl, hlogs⟩
  | @highlighted run _ _ ended hi hrun hstatus houtput =>
    have houtcome : (programDelivery (run code language)).outcome = .ok ended.output := by
      rw [hrun, programDelivery, if_pos (by simpa using hstatus)]
      rfl
    rw [reply_of_program hi, houtcome]
    exact ⟨some ended.output, rfl, if_neg (by simpa using houtput), rfl⟩

/-! ### All blocks -/

/-- The program is run once for each block, in order, and all blocks are treated. -/
theorem highlightAll_of_treats (hi : i.program = some run) {blocks : List (Text × Text)}
    {treated : List (Text × Option LogEntry)}
    (h : List.Forall₂ (fun block t => i.Treats block t.1 t.2) blocks treated) {s : LoadState}
    (henabled : s.disabled = false) :
    let replies := highlightAll (Backend.ofName i .pygmentize) s blocks
    (∃ html, replies.result = .ok html ∧ html.length = blocks.length ∧
      List.zipWith shownCode blocks html = treated.map (·.1)) ∧
    replies.logs = treated.filterMap (·.2) ∧
    replies.commands = blocks.map fun (language, code) => programCommand code language := by
  have hload : (Backend.ofName i .pygmentize).load = .ok () := by
    simp only [Backend.ofName, programBackend, hi]
  have hcommand (code language : Text) : (Backend.ofName i .pygmentize).command code language =
      some (programCommand code language) := by
    simp only [Backend.ofName, programBackend, hi]
  induction h generalizing s with
  | nil => exact ⟨⟨[], rfl, rfl, rfl⟩, rfl, rfl⟩
  | @cons block t rest more hblock _ ih =>
    obtain ⟨language, code⟩ := block
    obtain ⟨shown, report⟩ := t
    obtain ⟨s', -, henabled', hask⟩ := LoadState.ask_of_loads hload henabled language
      ((Backend.ofName i .pygmentize).reply code language)
    obtain ⟨html, hresult, hshown, hlogs⟩ := LoadState.receive_of_treats hblock s'
    obtain ⟨⟨replies, hreplies, hlength, hzip⟩, hmore, hcommands⟩ := ih henabled'
    simp only [highlightAll, hask, hresult, LoadState.asked_receive, LoadState.receive_state,
      hreplies, hmore, hcommands, hlogs, hcommand, if_true]
    refine ⟨⟨_, rfl, by simp [hlength], by simp [hshown, hzip]⟩, ?_, rfl⟩
    cases report <;> rfl

end Highlight

/-! ### Documents -/

/-- Rendering with the program never fails, whatever the program does. Each fence is shown with what
    the program put out for it, or as plain code if it put out nothing or failed, and each failure
    is reported, in the order of the document. The program is run once for each fence and for
    nothing else, with the language of the fence, or told to guess if there is none, and with the
    fence's content; and the call waits for one delivery, which comes. -/
theorem Renderer.render_program {r : Renderer} (hr : r.highlighter = some .pygmentize)
    {i : Installation} {run : (code language : Text) → Except Failure Finished}
    (hi : i.program = some run) {state : LoadState} (henabled : state.disabled = false)
    (source : Text) :
    let events := r.config.document (protect source)
    let blocks := events.filterMap Event.block?
    let rendering := r.render i state source
    (∃ treated : List (Text × Option LogEntry),
      List.Forall₂ (fun block t => i.Treats block t.1 t.2) blocks treated ∧
      rendering.html =
        .ok (restore (writeDocument r.config.hardwrap (treated.map (·.1)) events)) ∧
      rendering.logs = treated.filterMap (·.2)) ∧
    (rendering.commands = blocks.map fun (language, code) =>
      { arguments := [programPath, "-f".toList, "html".toList, "-O".toList,
          "nowrap,encoding=utf-8".toList] ++
          if language = [] then ["-g".toList] else ["-l".toList, language]
        input := code }) ∧
    ∀ block ∈ blocks, (programWork (run block.2 block.1)).CompletesOnce
      (programDelivery (run block.2 block.1)) := by
  intro events blocks rendering
  have hblocks : fences events = blocks := fences_eq_filterMap events
  obtain ⟨treated, htreated⟩ := exists_forall₂ fun block (_ : block ∈ blocks) =>
    exists_treats hi block
  obtain ⟨⟨html, hresult, hlength, hshown⟩, hlogs, hcommands⟩ :=
    highlightAll_of_treats hi htreated henabled
  rw [← hblocks] at hresult hlength hshown hlogs hcommands
  have hrendering : rendering = r.renderWith (some (Backend.ofName i .pygmentize)) state source := by
    simp only [rendering, Renderer.render, Renderer.backend, hr, Option.map_some]
  refine ⟨⟨treated, htreated, ?_, ?_⟩, ?_, fun block _ => programWork_completesOnce _⟩
  · rw [hrendering, r.html_renderWith_of_replies hresult, ← hshown, writeDocument, writeDocument,
      writeEvents_shownCode _ _ hlength]
  · rw [hrendering]
    exact hlogs
  · rw [hrendering]
    refine hcommands.trans ?_
    simp only [hblocks, programCommand, List.isEmpty_iff]

/-- Three fences, of which one is in a quote and one in a list, and indented code: the program
    answers for the first, fails to run for the second and gives up on the third. -/
theorem Renderer.render_program_thrice :
    let r : Renderer := ⟨{ highlight := .named "pygmentize".toList }, .marked, some .pygmentize⟩
    let run : (code language : Text) → Except Failure Finished := fun _ language =>
      if language = "py".toList then .ok ⟨0, "<b>a</b>".toList, []⟩
      else if language = [] then .error ⟨.system, "Gone.".toList⟩ else .ok ⟨2, [], " \n".toList⟩
    let i : Installation := ⟨none, some run⟩
    let blocks := [("py".toList, "a\n".toList), ([], "b\n".toList), ("js".toList, ['d'])]
    let source := "```py\na\n```\n> ~~~\n> b\n> ~~~\n\n    c\n- ```js x\n  d".toList
    let rendering := r.render i {} source
    rendering.commands = blocks.map (fun (language, code) => programCommand code language) ∧
      (∃ treated : List (Text × Option LogEntry), ∃ html,
        List.Forall₂ (fun block t => i.Treats block t.1 t.2) blocks treated ∧
        rendering.html = .ok html ∧ rendering.logs = treated.filterMap (·.2)) ∧
      ∀ block ∈ blocks, (programWork (run block.2 block.1)).CompletesOnce
        (programDelivery (run block.2 block.1)) := by
  intro r run i blocks source rendering
  have hblocks : (r.config.document (protect source)).filterMap Event.block? = blocks := by
    decide +kernel
  have hhighlighter : r.highlighter = some .pygmentize := rfl
  have hprogram : i.program = some run := rfl
  have henabled : ({} : LoadState).disabled = false := rfl
  obtain ⟨⟨treated, htreated, hhtml, hlogs⟩, hcommands, honce⟩ :=
    Renderer.render_program hhighlighter hprogram henabled source
  rw [hblocks] at htreated hcommands honce
  exact ⟨hcommands, ⟨treated, _, htreated, hhtml, hlogs⟩, honce⟩

end Docpress
