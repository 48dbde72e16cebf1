import Docpress.Proofs.Command.Output
import Docpress.Proofs.Console.Markup
import Docpress.Proofs.Renderer.Tags
/-!
The values that the messages of a command show: the name of a parser, and the paths of sources,
outputs and directories. Nothing is escaped in them, so a command that has done all of its work ends
well exactly if the console can show them as markup.
-/

namespace Docpress.Command

open Console Highlight

/-! ### The messages -/

/-- The beginning of a message: a label in a style, and more without tags. -/
structure Begins (lead : Text) (style label more : String) : Prop where
  eq : lead = '[' :: (style.toList ++ ']' :: (label.toList ++ "[/]".toList)) ++ more.toList
  label : label.toList.all isUnmarked = true
  more : more.toList.all isUnmarked = true

/-- The styles of messages are closed after the label. -/
theorem Begins.neutral {lead : Text} {style label more : String}
    (h : Begins lead style label more) (hstyle : style ∈ ["bold yellow", "bold green"]) :
    Neutral lead := by
  have hheading : Neutral ('[' :: (style.toList ++ ']' :: (label.toList ++ "[/]".toList))) := by
    rcases List.mem_pair.1 hstyle with rfl | rfl
    · exact neutral_heading ⟨by decide, by decide, rfl⟩ (by decide) (by decide +kernel) h.label
    · exact neutral_heading ⟨by decide, by decide, rfl⟩ (by decide) (by decide +kernel) h.label
  rw [h.eq]
  exact hheading.append (neutral_of_all h.more)

theorem prints_disabledMessage_iff (parser : Text) :
    Prints (disabledMessage parser) ↔ Prints parser := by
  have hlead : Begins "[bold yellow]Markdown disabled[/]: unknown parser '".toList
      "bold yellow" "Markdown disabled" ": unknown parser '" :=
    ⟨by decide, by decide, by decide⟩
  have htail : ']' ∉ "'; passing text through unchanged.".toList := by decide
  exact (prints_append_iff htail _).trans (hlead.neutral (by decide) parser)

theorem prints_renderedMessage_iff (source : Text) (output : Path) :
    Prints (renderedMessage source output) ↔ Prints (source ++ " -> ".toList ++ output.toText) := by
  have hlead : Begins "[bold green]Rendered[/]: ".toList "bold green" "Rendered" ": " :=
    ⟨by decide, by decide, by decide⟩
  have hassoc : ∀ lead arrow : Text, lead ++ source ++ arrow ++ output.toText =
      lead ++ (source ++ arrow ++ output.toText) :=
    fun lead arrow => by simp only [List.append_assoc]
  have hmessage := congrArg Prints (hassoc "[bold green]Rendered[/]: ".toList " -> ".toList)
  exact (iff_of_eq hmessage).trans (hlead.neutral (by decide) _)

theorem prints_nothingMessage_iff (sourceDir : Path) :
    Prints (nothingMessage sourceDir) ↔ Prints sourceDir.toText := by
  have hlead : Begins "[bold yellow]Nothing to render[/]: no Markdown found in ".toList
      "bold yellow" "Nothing to render" ": no Markdown found in " :=
    ⟨by decide, by decide, by decide⟩
  exact hlead.neutral (by decide) _

theorem prints_pagesMessage_iff (count : Nat) (outputDir : Path) :
    Prints (pagesMessage count outputDir) ↔ Prints outputDir.toText := by
  have hlead : Begins "[bold green]Pages[/]: rendered ".toList "bold green" "Pages"
      ": rendered " :=
    ⟨by decide, by decide, by decide⟩
  have hcount : Neutral (Text.ofNat count) := by
    refine neutral_of_all (List.all_eq_true.2 fun c hc => ?_)
    have hopen := (Text.isWord_ofNat count).forall_eq_false (c := '[') (by decide) c hc
    have hslash := (Text.isWord_ofNat count).forall_eq_false (c := '\\') (by decide) c hc
    simp [isUnmarked, bne, hopen, hslash]
  have hunit : Neutral " document(s) into ".toList := neutral_of_all (by decide)
  exact ((hlead.neutral (by decide)).append hcount).append hunit _

/-! ### Commands that end well -/

variable {s s' : Session} {source config text html : Text} {options : Config}
  {output : Option Path} {args : List Text}

theorem exitCode_eq_zero_iff {invocation : Invocation}
    (h : Invocation.ofArguments args = .ok invocation) :
    (run args s).exitCode = 0 ↔ ∃ s', invocation.task.run.run s = (.ok (), s') :=
  ⟨exists_of_exitCode_eq_zero h, fun ⟨_, hrun⟩ => exitCode_run_of_ok h hrun⟩

theorem run_printMarkup_iff {markup : Text} :
    (∃ s', (printMarkup markup).run.run s = (.ok (), s')) ↔ Prints markup := by
  constructor
  · rintro ⟨s', hrun⟩
    cases h : Console.printed markup with
    | ok shown => exact ⟨shown, h⟩
    | error e =>
      rw [run_printMarkup_error h] at hrun
      cases hrun
  · rintro ⟨shown, hshown⟩
    exact ⟨_, run_printMarkup_ok hshown⟩

/-- The outcome of a session that ends well. -/
def Session.outcome (s : Session) : Outcome :=
  ⟨none, s.printed, s.logs, s.tree⟩

/-- A command that does its task leaves what the task leaves. -/
theorem run_of_ok {invocation : Invocation} (h : Invocation.ofArguments args = .ok invocation)
    (hrun : invocation.task.run.run s = (.ok (), s')) :
    run args s = s'.outcome := by
  unfold run
  rw [h]
  dsimp only
  rw [hrun]
  rfl

/-- A command printed or stored HTML after what was printed before. -/
def Outcome.Delivers (o : Outcome) (output : Option Path) (before html : Text) : Prop :=
  match output with
  | none => o.printed = before ++ dropSequences (html ++ ['\n'])
  | some output => o.tree.readBytes output = .ok (Utf8.encode (html ++ ['\n'])) ∧
      before <+: o.printed

/-- HTML is delivered if it is Unicode, the output can be written, and its message can be shown. -/
theorem run_conclude_ok (s : Session) (source html : Text)
    (h : ∀ p, output = some p → s.tree.CanHold p ∧ Prints (renderedMessage source p)) :
    ∃ s', (conclude source output false html).run.run s = (.ok (), s') ∧ s'.logs = s.logs ∧
      s'.outcome.Delivers output s.printed html := by
  cases output with
  | none => exact ⟨_, rfl, rfl, rfl⟩
  | some output =>
    obtain ⟨hholds, shown, hshown⟩ := h output rfl
    obtain ⟨made, stored, hmade, hstored, hread⟩ := hholds.store (storedHtml false html)
    exact ⟨_, (run_bind_ok (run_deliverHtml hmade hstored) _).trans (run_printMarkup_ok hshown),
      rfl, hread, List.prefix_append _ _⟩

theorem run_conclude_iff (s : Session) (source html : Text) (unencodable : Bool) :
    (∃ s', (conclude source output unencodable html).run.run s = (.ok (), s')) ↔
      unencodable = false ∧
        ∀ p, output = some p → s.tree.CanHold p ∧ Prints (renderedMessage source p) := by
  constructor
  · rintro ⟨s', hrun⟩
    cases output with
    | none =>
      cases unencodable with
      | true => cases hrun
      | false => exact ⟨rfl, nofun⟩
    | some output =>
      obtain ⟨_, _, -, hmessage⟩ := exists_of_run_bind hrun
      have hshown := run_printMarkup_iff.1 ⟨s', hmessage⟩
      have hcases := run_conclude_cases source output unencodable html s
      rw [hrun] at hcases
      rcases hcases with ⟨⟨stop, hstop, -⟩, -⟩ | ⟨hholds, -, -, hstop⟩
      · cases hstop
      · refine ⟨Bool.eq_false_iff.2 fun hbroken => ?_, fun p hp => ?_⟩
        · cases hstop.2 hbroken
        · obtain rfl := Option.some.inj hp
          exact ⟨hholds, hshown⟩
  · rintro ⟨rfl, h⟩
    obtain ⟨s', hrun, -⟩ := run_conclude_ok s source html h
    exact ⟨s', hrun⟩

/-- A parser that is not known can be spoken of if its name can be shown. -/
theorem canAnnounce_iff (parser : Text) : CanAnnounce parser ↔ Prints parser :=
  prints_disabledMessage_iff parser

/-- What is shown of a rendering can be shown, and its HTML can be delivered. -/
structure Deliverable (s : Session) (source : Text) (output : Option Path) (options : Config)
    (text : Text) : Prop where
  parser : (resolveParser options.markdown.parser).isSome = true ∨ Prints options.markdown.parser
  unicode : isUnencodable (Renderer.ofConfig options.markdown).1 text = false
  output : ∀ p, output = some p →
    s.tree.CanHold p ∧ Prints (source ++ " -> ".toList ++ p.toText)

/-- A source is rendered exactly if it can be read and has HTML, what is shown of the parser and the
    paths can be shown, and the HTML can be delivered. -/
theorem run_renderSource_iff :
    (∃ s', (renderSource source config output).run.run s = (.ok (), s')) ↔
      ∃ options text html, s.Renders source config options text html ∧
        Deliverable s source output options text := by
  have hmessage : ∀ {s₁ : Session}, s₁.tree = s.tree →
      ((∀ p, output = some p → s₁.tree.CanHold p ∧ Prints (renderedMessage source p)) ↔
        ∀ p, output = some p → s.tree.CanHold p ∧ Prints (source ++ " -> ".toList ++ p.toText)) :=
    fun htree => by simp only [htree, prints_renderedMessage_iff]
  constructor
  · rintro ⟨s', hrun⟩
    rcases run_renderSource_cases s source config output with
      ⟨stop, _, hstop, -⟩ | ⟨options, text, html, hrenders, hparser⟩
    · cases hstop.symm.trans hrun
    · obtain ⟨s₁, hsame, hresult⟩ := run_renderSource_of_renders hrenders hparser output
      obtain ⟨hunicode, houtput⟩ := (run_conclude_iff s₁ source html _).1 ⟨s', hresult ▸ hrun⟩
      exact ⟨options, text, html, hrenders, hparser.imp_right (canAnnounce_iff _).1, hunicode,
        (hmessage hsame.tree).1 houtput⟩
  · rintro ⟨options, text, html, hrenders, hready⟩
    obtain ⟨s₁, hsame, hresult⟩ := run_renderSource_of_renders hrenders
      (hready.parser.imp_right (canAnnounce_iff _).2) output
    rw [hresult]
    exact (run_conclude_iff s₁ source html _).2
      ⟨hready.unicode, (hmessage hsame.tree).2 hready.output⟩

/-- With a parser that is not known the text is passed through, after the console has said so. -/
theorem run_renderSource_unknown {shown : Text}
    (hload : loadConfig s.tree (Path.ofText config) = .ok options)
    (hunknown : resolveParser options.markdown.parser = none)
    (hshown : Console.printed (disabledMessage options.markdown.parser) = .ok shown)
    (htext : s.textOf source = .ok text) :
    (renderSource source config output).run.run s =
      (conclude source output false text).run.run
        { s with
          printed := s.printed ++ shown
          logs := s.logs ++ (Renderer.ofConfig options.markdown).2 } := by
  have hnone : (Renderer.ofConfig options.markdown).1 = none := by
    rw [Renderer.fst_ofConfig, hunknown]
    rfl
  have hmade : (makeRenderer options.markdown).run.run s = (.ok none,
      { s with
        printed := s.printed ++ shown
        logs := s.logs ++ (Renderer.ofConfig options.markdown).2 }) := by
    rw [run_makeRenderer, if_pos (by rw [hunknown]; rfl), run_bind_ok (run_printMarkup_ok hshown),
      hnone]
    rfl
  have hpassed : ∀ s₁ : Session, (renderText none text).run.run s₁ = (.ok text, s₁) := by
    intro s₁
    have hrun : (renderText none text).run.run s₁ =
        (.ok text, { s₁ with logs := s₁.logs ++ [] }) := rfl
    rw [hrun, List.append_nil]
  unfold renderSource
  rw [run_bind_ok (run_readConfig hload), run_bind_ok (run_readSource_text htext),
    run_bind_ok hmade, run_bind_ok (hpassed _)]
  rfl

/-- Without a highlighter every text has HTML. -/
theorem exists_html_of_off {config : MarkdownConfig}
    (hoff : resolveHighlighter config.highlight = none) (i : Installation) (state : LoadState)
    (text : Text) :
    ∃ html, (renderMarkdown (Renderer.ofConfig config).1 i state text).html = .ok html := by
  rw [Renderer.fst_ofConfig]
  cases resolveParser config.parser with
  | none => exact ⟨text, rfl⟩
  | some parser =>
    rw [Option.map_some, renderMarkdown, hoff]
    split
    · exact ⟨[], rfl⟩
    · rw [Renderer.html_render, Renderer.engine_of_off rfl]
      exact ⟨_, rfl⟩

/-- A project is built exactly if its configuration can be loaded, its pages can be rendered, and
    the directory that is shown in the end can be shown. -/
theorem run_buildProject_iff :
    (∃ s', (buildProject config).run.run s = (.ok (), s')) ↔
      ∃ options pages, loadConfig s.tree (Path.ofText config) = .ok options ∧
        (writePages s.tree options none s.installed).result = .ok pages ∧
        Prints (if pages.isEmpty then options.sourceDir.toText else options.outputDir.toText) := by
  have hmessage : ∀ (pages : List Page) (options : Config) (s₁ : Session),
      (∃ s', ((if pages.isEmpty then printMarkup (nothingMessage options.sourceDir)
          else printMarkup (pagesMessage pages.length options.outputDir) : Task Unit)).run.run s₁ =
        (.ok (), s')) ↔
      Prints (if pages.isEmpty then options.sourceDir.toText else options.outputDir.toText) := by
    intro pages options s₁
    split
    · rw [run_printMarkup_iff, prints_nothingMessage_iff]
    · rw [run_printMarkup_iff, prints_pagesMessage_iff]
  constructor
  · rintro ⟨s', hrun⟩
    obtain ⟨options, pages, hload, hpages, -⟩ := exists_of_build hrun
    rw [run_buildProject hload, hpages, run_bind_ok run_orCrash_ok] at hrun
    exact ⟨options, pages, hload, hpages, (hmessage pages options _).1 ⟨s', hrun⟩⟩
  · rintro ⟨options, pages, hload, hpages, hshown⟩
    rw [run_buildProject hload, hpages, run_bind_ok run_orCrash_ok]
    exact (hmessage pages options _).2 hshown

/-- A document, and a configuration with a parser of some name. -/
def labelled (parser : String) : FileTree :=
  { entries := [(["docmark.yml".toList],
        .file (Utf8.encode ("markdown: \x7bparser: '".toList ++ parser.toList ++ "'\x7d".toList))),
      (["a.md".toList], .file (Utf8.encode "hi".toList))] }

/-- The options of the configuration. -/
def labelledOptions (parser : String) : Config :=
  { sourceDir := Path.ofText "/docs".toList, outputDir := Path.ofText "/out".toList
    markdown := { parser := parser.toList } }

/-- The arguments that render the document to the console. -/
def labelledArguments : List Text :=
  ["render".toList, "a.md".toList]

theorem ofArguments_labelled :
    Invocation.ofArguments labelledArguments = .ok (.render "a.md".toList ['.'] none) := rfl

end Docpress.Command
