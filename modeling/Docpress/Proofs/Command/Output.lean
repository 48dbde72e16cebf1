import Docpress.Proofs.Command.Refusal
import Docpress.Proofs.Text.Utf8
/-!
What a run of the render command does to the files. It changes none but the one that the output
names, and that one only when all else is known: the configuration, the text of the source, and its
HTML.
-/

namespace Docpress.Command

open FileTree Highlight

/-- The text of a source that an argument names. -/
def Session.textOf (s : Session) (source : Text) : Except ReadError Text :=
  if source == standardInput then .ok (Text.unifyLineEnds s.input)
  else s.tree.readText (Path.ofText source)

/-- The HTML of the whole text of a source, under a configuration that can be loaded. -/
structure Session.Renders (s : Session) (source config : Text) (options : Config)
    (text html : Text) : Prop where
  loads : loadConfig s.tree (Path.ofText config) = .ok options
  reads : s.textOf source = .ok text
  renders : (renderMarkdown (Renderer.ofConfig options.markdown).1 s.installed {} text).html =
    .ok html

/-- The last part of the render command, when there is HTML. -/
def conclude (source : Text) (output : Option Path) (unencodable : Bool) (html : Text) :
    Task Unit := do
  deliverHtml unencodable output html
  match output with
  | none => return
  | some output => printMarkup (renderedMessage source output)

variable {s : Session} {source config text html : Text} {options : Config} {output : Path}

/-! ### Up to the HTML -/

theorem run_readSource_text (h : s.textOf source = .ok text) :
    (readSource source).run.run s = (.ok text, s) := by
  unfold Session.textOf at h
  rw [readSource, run_bind_ok run_get]
  split at h
  · cases h
    rw [if_pos ‹_›]
    rfl
  · rw [if_neg ‹_›, h]
    rfl

theorem run_readSource_error {e : ReadError} (h : s.textOf source = .error e) :
    ∃ stop, (readSource source).run.run s = (.error stop, s) ∧ stop ≠ .crash .unencodable := by
  unfold Session.textOf at h
  rw [readSource, run_bind_ok run_get]
  split at h
  · cases h
  · rw [if_neg ‹_›, h]
    cases e with
    | encoding e => exact ⟨_, rfl, fun hstop => by cases hstop⟩
    | file e =>
      dsimp only
      split
      · exact ⟨_, rfl, fun hstop => by cases hstop⟩
      · exact ⟨_, rfl, fun hstop => by cases hstop⟩

/-- No error in loading a configuration has to do with HTML. -/
theorem configStop_ne_unencodable (path : Text) (e : LoadError) :
    configStop path e ≠ .crash .unencodable := by
  unfold configStop
  split
  case h_2 => split <;> nofun
  case h_4 => split <;> nofun
  all_goals nofun

theorem run_renderText_error {r : Option Renderer} {e : Failure}
    (h : (renderMarkdown r s.installed {} text).html = .error e) :
    ∃ s', (renderText r text).run.run s = (.error (.crash (.highlight e)), s') ∧
      SameWorld s s' := by
  rw [renderText, run_bind_ok run_get]
  dsimp only
  rw [h]
  exact ⟨_, rfl, rfl, rfl⟩

/-- With HTML, and a parser that is known or can be spoken of, only the last part is left to do. -/
theorem run_renderSource_of_renders (h : s.Renders source config options text html)
    (hparser : (resolveParser options.markdown.parser).isSome = true ∨
      CanAnnounce options.markdown.parser) (output : Option Path) :
    ∃ s', SameWorld s s' ∧ (renderSource source config output).run.run s =
      (conclude source output (isUnencodable (Renderer.ofConfig options.markdown).1 text)
        html).run.run s' := by
  obtain ⟨s₁, hmade, hsame⟩ := run_makeRenderer_ok (s := s) hparser
  obtain ⟨s₂, hrendered, hsame'⟩ := run_renderText (s := s₁) (hsame.installed ▸ h.renders)
  refine ⟨s₂, ⟨hsame'.tree.trans hsame.tree, hsame'.installed.trans hsame.installed⟩, ?_⟩
  unfold renderSource
  rw [run_bind_ok (run_readConfig h.loads), run_bind_ok (run_readSource_text h.reads),
    run_bind_ok hmade, run_bind_ok hrendered]
  rfl

/-- A command ends with the files as they are, or it has HTML and a parser that is known or has been
    spoken of. -/
theorem run_renderSource_cases (s : Session) (source config : Text) (output : Option Path) :
    (∃ stop s', (renderSource source config output).run.run s = (.error stop, s') ∧
      stop ≠ .crash .unencodable ∧ s'.tree = s.tree) ∨
    ∃ options text html, s.Renders source config options text html ∧
      ((resolveParser options.markdown.parser).isSome = true ∨
        CanAnnounce options.markdown.parser) := by
  unfold renderSource
  cases hload : loadConfig s.tree (Path.ofText config) with
  | error e =>
    exact .inl ⟨_, _, run_bind_error (run_readConfig_error hload) _,
      configStop_ne_unencodable config e, rfl⟩
  | ok options =>
    rw [run_bind_ok (run_readConfig hload)]
    cases hread : s.textOf source with
    | error e =>
      obtain ⟨stop, hstop, hother⟩ := run_readSource_error hread
      exact .inl ⟨_, _, run_bind_error hstop _, hother, rfl⟩
    | ok text =>
      rw [run_bind_ok (run_readSource_text hread)]
      by_cases hparser : (resolveParser options.markdown.parser).isSome = true ∨
          CanAnnounce options.markdown.parser
      · obtain ⟨s₁, hmade, hsame⟩ := run_makeRenderer_ok (s := s) hparser
        rw [run_bind_ok hmade]
        cases hhtml : (renderMarkdown (Renderer.ofConfig options.markdown).1 s.installed {}
            text).html with
        | error e =>
          obtain ⟨s₂, hstop, hsame'⟩ := run_renderText_error (s := s₁) (hsame.installed ▸ hhtml)
          exact .inl ⟨_, _, run_bind_error hstop _, nofun, hsame'.tree.trans hsame.tree⟩
        | ok html => exact .inr ⟨options, text, html, ⟨hload, hread, hhtml⟩, hparser⟩
      · obtain ⟨e, s₁, hmade, hsame⟩ := run_makeRenderer_error (s := s) hparser
        exact .inl ⟨_, _, run_bind_error hmade _, nofun, hsame.tree⟩

/-! ### From the HTML on -/

theorem run_writeOutput_cases (s : Session) (output : Path) (text : Text) :
    (∃ e s', (writeOutput output text).run.run s = (.error (.crash (.file e)), s') ∧
      Grown (fun _ => False) s.tree s'.tree) ∨
    ∃ s', (writeOutput output text).run.run s = (.ok (), s') ∧ s.tree.CanHold output ∧
      s'.tree.readBytes output = .ok (Utf8.encode text) ∧
      Grown (· = s.tree.settle output) s.tree s'.tree := by
  have hset : ∀ (s : Session) (t : FileTree),
      (setTree t).run.run s = (.ok (), { s with tree := t }) := fun _ _ => rfl
  have hcrash : ∀ (s : Session) (e : FileError),
      (orCrash .file (.error e) : Task FileTree).run.run s = (.error (.crash (.file e)), s) :=
    fun _ _ => rfl
  rw [writeOutput, run_bind_ok run_get]
  cases hmade : s.tree.ensureDirectories output.parent with
  | error e => exact .inl ⟨_, s, run_bind_error (hcrash s e) _, Grown.refl _ _⟩
  | ok made =>
    have hgrown := ensureDirectories_grown hmade
    rw [run_bind_ok run_orCrash_ok, run_bind_ok (hset s made), run_bind_ok run_get]
    dsimp only
    cases hstored : made.writeText output text with
    | error e => exact .inl ⟨_, _, run_bind_error (hcrash _ e) _, hgrown⟩
    | ok stored =>
      obtain ⟨hgrown', hread⟩ := write_grown hstored
      rw [hgrown.settle] at hgrown'
      exact .inr ⟨_, run_bind_ok run_orCrash_ok _, ⟨made, text, stored, hmade, hstored⟩, hread,
        (hgrown.mono fun _ => False.elim).trans hgrown'⟩

/-- HTML for the console leaves the files alone. -/
theorem tree_conclude_none (source : Text) (unencodable : Bool) (html : Text) (s : Session) :
    ((conclude source none unencodable html).run.run s).2.tree = s.tree := by
  cases unencodable <;> rfl

/-- HTML for a file is stored there, or that fails and no file is changed. HTML that is no Unicode
    ends the command when the file has been emptied. -/
theorem run_conclude_cases (source : Text) (output : Path) (unencodable : Bool) (html : Text)
    (s : Session) :
    let result := (conclude source (some output) unencodable html).run.run s
    ((∃ stop, result.1 = .error stop ∧ stop ≠ .crash .unencodable) ∧
        Grown (fun _ => False) s.tree result.2.tree) ∨
      (s.tree.CanHold output ∧ Grown (· = s.tree.settle output) s.tree result.2.tree ∧
        result.2.tree.readBytes output = .ok (Utf8.encode (storedHtml unencodable html)) ∧
        (result.1 = .error (.crash .unencodable) ↔ unencodable = true)) := by
  intro result
  rcases run_writeOutput_cases s output (storedHtml unencodable html) with
    ⟨e, s', hstop, hgrown⟩ | ⟨s', hwritten, hholds, hread, hgrown⟩
  · have hresult : result = (.error (.crash (.file e)), s') := by
      have hdeliver : (deliverHtml unencodable (some output) html).run.run s =
          (.error (.crash (.file e)), s') := run_bind_error hstop _
      exact run_bind_error hdeliver _
    rw [hresult]
    exact .inl ⟨⟨_, rfl, nofun⟩, hgrown⟩
  · refine .inr ?_
    cases unencodable with
    | true =>
      have hresult : result = (.error (.crash .unencodable), s') := by
        have hdeliver : (deliverHtml true (some output) html).run.run s =
            (.error (.crash .unencodable), s') := run_bind_ok hwritten _
        exact run_bind_error hdeliver _
      rw [hresult]
      exact ⟨hholds, hgrown, hread, iff_of_true rfl rfl⟩
    | false =>
      have hresult : result = (printMarkup (renderedMessage source output)).run.run s' := by
        have hdeliver : (deliverHtml false (some output) html).run.run s = (.ok (), s') :=
          run_bind_ok hwritten _
        exact run_bind_ok hdeliver _
      rw [hresult, tree_printMarkup]
      refine ⟨hholds, hgrown, hread, iff_of_false (fun hstop => ?_) Bool.false_ne_true⟩
      cases hshown : Console.printed (renderedMessage source output) with
      | ok shown =>
        rw [run_printMarkup_ok hshown] at hstop
        cases hstop
      | error e =>
        rw [run_printMarkup_error hshown] at hstop
        cases hstop

/-! ### The command -/

/-- The arguments of the render command stand for a rendering, or they ask for help. -/
theorem ofArguments_render_cases {rest : List Text} {invocation : Invocation}
    (h : Invocation.ofArguments ("render".toList :: rest) = .ok invocation) :
    invocation = .help ∨ ∃ source config output, invocation = .render source config output := by
  have hmain : readArguments mainOptions false ("render".toList :: rest) =
      .ok ⟨[], "render".toList :: rest⟩ := rfl
  have hrequest : Given.request? ⟨[], "render".toList :: rest⟩ = none := rfl
  have hname : names.find? (·.word == "render".toList) = some .render := rfl
  rw [Invocation.ofArguments, hmain] at h
  dsimp only at h
  rw [hrequest] at h
  dsimp only at h
  rw [hname] at h
  dsimp only at h
  split at h
  · cases h
  · unfold Name.invocation at h
    split at h
    · exact .inl (Except.ok.inj h).symm
    · obtain ⟨output, -, h⟩ := exists_of_bind_eq_ok h
      obtain ⟨⟨source, extra⟩, -, h⟩ := exists_of_bind_eq_ok h
      dsimp only at h
      split at h
      · cases h
      · exact .inr ⟨_, _, _, (Except.ok.inj h).symm⟩

/-- A command whose exit code is zero is not ended early. -/
theorem Outcome.stop_eq_none {o : Outcome} (h : o.exitCode = 0) : o.stop = none := by
  unfold Outcome.exitCode at h
  split at h
  · assumption
  · cases h
  · cases h

/-- What ends a command early is what ends its task. -/
theorem stop_run {args : List Text} {invocation : Invocation}
    (h : Invocation.ofArguments args = .ok invocation) (s : Session) (stop : Stop) :
    (run args s).stop = some stop ↔ (invocation.task.run.run s).1 = .error stop := by
  unfold run
  rw [h]
  dsimp only
  split
  · rename_i hrun
    rw [hrun]
    exact iff_of_false nofun nofun
  · rename_i found _ hrun
    rw [hrun]
    simp

/-- Without an output no file is changed. -/
theorem tree_renderSource_none (source config : Text) (s : Session) :
    ((renderSource source config none).run.run s).2.tree = s.tree := by
  rcases run_renderSource_cases s source config none with
    ⟨stop, s', hstop, -, htree⟩ | ⟨options, text, html, hrenders, hparser⟩
  · rw [hstop]
    exact htree
  · obtain ⟨s', hsame, hresult⟩ := run_renderSource_of_renders hrenders hparser none
    rw [hresult, tree_conclude_none]
    exact hsame.tree

/-- With an output, the HTML is stored there, or the command ends with an error of another kind and
    no file is changed. -/
theorem run_renderSource_file (source config : Text) (output : Path) (s : Session) :
    let result := (renderSource source config (some output)).run.run s
    ((∃ stop, result.1 = .error stop ∧ stop ≠ .crash .unencodable) ∧
      Grown (fun _ => False) s.tree result.2.tree) ∨
    ∃ options text html, s.Renders source config options text html ∧ s.tree.CanHold output ∧
      Grown (· = s.tree.settle output) s.tree result.2.tree ∧
      result.2.tree.readBytes output = .ok (Utf8.encode
        (storedHtml (isUnencodable (Renderer.ofConfig options.markdown).1 text) html)) ∧
      (result.1 = .error (.crash .unencodable) ↔
        isUnencodable (Renderer.ofConfig options.markdown).1 text = true) := by
  intro result
  rcases run_renderSource_cases s source config (some output) with
    ⟨stop, s', hstop, hother, htree⟩ | ⟨options, text, html, hrenders, hparser⟩
  · refine .inl ?_
    have hresult : result = (.error stop, s') := hstop
    rw [hresult, htree]
    exact ⟨⟨stop, rfl, hother⟩, Grown.refl _ _⟩
  · obtain ⟨s', hsame, hresult⟩ := run_renderSource_of_renders hrenders hparser (some output)
    have hcases := run_conclude_cases source output
      (isUnencodable (Renderer.ofConfig options.markdown).1 text) html s'
    rw [← hresult, hsame.tree] at hcases
    exact hcases.imp_right fun hstored => ⟨options, text, html, hrenders, hstored⟩

/-- A rendering to a file ends with an error of another kind and no file is changed, or only the
    output is: it holds the HTML, or nothing, if the HTML is no Unicode. -/
theorem run_render_file {args : List Text}
    (hargs : Invocation.ofArguments args = .ok (.render source config (some output)))
    (s : Session) :
    ((∃ stop, (run args s).stop = some stop ∧ stop ≠ .crash .unencodable) ∧
      Grown (fun _ => False) s.tree (run args s).tree) ∨
    ∃ options text html, s.Renders source config options text html ∧ s.tree.CanHold output ∧
      Grown (· = s.tree.settle output) s.tree (run args s).tree ∧
      ((isUnencodable (Renderer.ofConfig options.markdown).1 text = false ∧
          (run args s).stop ≠ some (.crash .unencodable) ∧
          (run args s).tree.readBytes output = .ok (Utf8.encode (html ++ ['\n']))) ∨
        (isUnencodable (Renderer.ofConfig options.markdown).1 text = true ∧
          (run args s).stop = some (.crash .unencodable) ∧
          (run args s).tree.readBytes output = .ok [])) := by
  simp only [run_tree hargs, stop_run hargs, ne_eq]
  refine (run_renderSource_file source config output s).imp_right ?_
  rintro ⟨options, text, html, hrenders, hholds, hgrown, hread, hstop⟩
  refine ⟨options, text, html, hrenders, hholds, hgrown, ?_⟩
  cases hbroken : isUnencodable (Renderer.ofConfig options.markdown).1 text with
  | false =>
    rw [hbroken] at hread hstop
    exact .inl ⟨rfl, fun h => Bool.false_ne_true (hstop.1 h), hread⟩
  | true =>
    rw [hbroken] at hread hstop
    exact .inr ⟨rfl, hstop.2 rfl, hread⟩

/-- No file is changed, or only the output of a rendering is, and it holds all of the HTML of the
    whole source, and a line end. -/
def WholeOrNone (args : List Text) (s : Session) : Prop :=
  Grown (fun _ => False) s.tree (run args s).tree ∨
    ∃ source config output options text html,
      Invocation.ofArguments args = .ok (.render source config (some output)) ∧
      s.Renders source config options text html ∧
      Grown (· = s.tree.settle output) s.tree (run args s).tree ∧
      (run args s).tree.readBytes output = .ok (Utf8.encode (html ++ ['\n']))

/-- Without a rendering to a file no file is changed. -/
theorem run_render_grown {rest : List Text} {s : Session}
    (h : ∀ source config output, Invocation.ofArguments ("render".toList :: rest) ≠
      .ok (.render source config (some output))) :
    Grown (fun _ => False) s.tree (run ("render".toList :: rest) s).tree := by
  cases hargs : Invocation.ofArguments ("render".toList :: rest) with
  | error e =>
    have hrun : run ("render".toList :: rest) s =
        ⟨some (argumentStop e), s.printed, s.logs, s.tree⟩ := by
      unfold run
      rw [hargs]
      rfl
    rw [hrun]
    exact Grown.refl _ _
  | ok invocation =>
    rw [run_tree hargs]
    rcases ofArguments_render_cases hargs with rfl | ⟨source, config, output, rfl⟩
    · exact Grown.refl _ _
    · cases output with
      | none =>
        rw [Invocation.task, tree_renderSource_none]
        exact Grown.refl _ _
      | some output => exact absurd hargs (h source config output)

/-- A rendering to a file is ended by HTML that is no Unicode exactly if there is such HTML for a
    source that could be read, and the file could be written. -/
theorem stop_render_eq_unencodable_iff {args : List Text}
    (hargs : Invocation.ofArguments args = .ok (.render source config (some output)))
    (s : Session) :
    (run args s).stop = some (.crash .unencodable) ↔
      ∃ options text html, s.Renders source config options text html ∧
        isUnencodable (Renderer.ofConfig options.markdown).1 text = true ∧
        s.tree.CanHold output := by
  constructor
  · intro hstop
    rcases run_render_file hargs s with ⟨⟨stop, hother, hne⟩, -⟩ |
      ⟨options, text, html, hrenders, hholds, -, ⟨-, hnot, -⟩ | ⟨hbroken, -, -⟩⟩
    · exact absurd (Option.some.inj (hother.symm.trans hstop)) hne
    · exact absurd hstop hnot
    · exact ⟨options, text, html, hrenders, hbroken, hholds⟩
  · rintro ⟨options, text, html, hrenders, hbroken, hholds⟩
    have hparser : (resolveParser options.markdown.parser).isSome = true := by
      have hsome := (Bool.and_eq_true_iff.1 hbroken).1
      rwa [Renderer.fst_ofConfig, Option.isSome_map] at hsome
    obtain ⟨s', hsame, hresult⟩ :=
      run_renderSource_of_renders hrenders (.inl hparser) (some output)
    obtain ⟨made, stored, hmade, hstored, -⟩ := hholds.store (storedHtml true html)
    rw [← hsame.tree] at hmade
    have hdeliver := run_deliverHtml hmade hstored
    rw [stop_run hargs, Invocation.task, hresult, hbroken, conclude, run_bind_error hdeliver]

/-- A rendering to a file that is ended so has emptied the file. -/
theorem readBytes_render_unencodable {args : List Text}
    (hargs : Invocation.ofArguments args = .ok (.render source config (some output)))
    (hstop : (run args s).stop = some (.crash .unencodable)) :
    (run args s).tree.readBytes output = .ok [] := by
  rcases run_render_file hargs s with ⟨⟨stop, hother, hne⟩, -⟩ |
    ⟨_, _, _, -, -, -, ⟨-, hnot, -⟩ | ⟨-, -, hempty⟩⟩
  · exact absurd (Option.some.inj (hother.symm.trans hstop)) hne
  · exact absurd hstop hnot
  · exact hempty

/-- However a run of the render command ends, it changes no file but its output, and then the output
    holds all of the HTML: exactly if there is no HTML that is no Unicode, for a source that could be
    read and an output that could be written and was not empty before. Such an output is emptied. If
    the run ends well, the output holds the HTML. -/
theorem wholeOrNone_render_iff (rest : List Text) (s : Session) :
    let args := "render".toList :: rest
    (WholeOrNone args s ↔ ∀ source config output options text html,
      Invocation.ofArguments args = .ok (.render source config (some output)) →
        s.Renders source config options text html →
          isUnencodable (Renderer.ofConfig options.markdown).1 text = true →
            s.tree.CanHold output → s.tree.find? (s.tree.settle output) = some (.file [])) ∧
    ∀ source config output,
      Invocation.ofArguments args = .ok (.render source config (some output)) →
        ((run args s).stop = some (.crash .unencodable) →
          (run args s).tree.readBytes output = .ok []) ∧
        ((run args s).exitCode = 0 → ∃ options text html,
          s.Renders source config options text html ∧
          (run args s).tree.readBytes output = .ok (Utf8.encode (html ++ ['\n']))) := by
  intro args
  refine ⟨⟨fun hwhole source config output options text html hargs hrenders hbroken hholds => ?_,
    fun h => ?_⟩, fun source config output hargs =>
      ⟨fun hstop => readBytes_render_unencodable hargs hstop, fun hexit => ?_⟩⟩
  · have hstop := (stop_render_eq_unencodable_iff hargs s).2
      ⟨options, text, html, hrenders, hbroken, hholds⟩
    have hempty := readBytes_render_unencodable hargs hstop
    obtain ⟨-, hfile⟩ := readBytes_eq_ok_iff.1 hempty
    rcases hwhole with hsame | ⟨_, _, _, _, _, html', hargs', -, -, hread⟩
    · rw [hsame.settle] at hfile
      exact (hsame.origin _ _ hfile).resolve_right id
    · cases hargs.symm.trans hargs'
      exact absurd (Except.ok.inj (hempty.symm.trans hread)).symm
        (Utf8.encode_ne_nil (List.append_ne_nil_of_right_ne_nil _ (List.cons_ne_nil _ _)))
  · by_cases hfile : ∃ source config output,
        Invocation.ofArguments args = .ok (.render source config (some output))
    · obtain ⟨source, config, output, hargs⟩ := hfile
      rcases run_render_file hargs s with ⟨-, hsame⟩ | ⟨options, text, html, hrenders, hholds, hgrown,
        ⟨-, -, hread⟩ | ⟨hbroken, -, hempty⟩⟩
      · exact .inl hsame
      · exact .inr ⟨source, config, output, options, text, html, hargs, hrenders, hgrown, hread⟩
      · have hbefore := h source config output options text html hargs hrenders hbroken hholds
        obtain ⟨-, hfile⟩ := readBytes_eq_ok_iff.1 hempty
        rw [hgrown.settle] at hfile
        exact .inl (hgrown.of_same hbefore hfile)
    · exact .inl (run_render_grown fun source config output hargs =>
        hfile ⟨source, config, output, hargs⟩)
  · have hnone := Outcome.stop_eq_none hexit
    rcases run_render_file hargs s with ⟨⟨stop, hother, -⟩, -⟩ |
      ⟨options, text, html, hrenders, -, -, ⟨-, -, hread⟩ | ⟨-, hstop, -⟩⟩
    · cases hnone.symm.trans hother
    · exact ⟨options, text, html, hrenders, hread⟩
    · cases hnone.symm.trans hstop

/-- A document, and a page that is there before. -/
def letter (content : String) : FileTree :=
  { entries := [(["a.md".toList], .file (Utf8.encode content.toList)),
      (["out.html".toList], .file (Utf8.encode "old".toList))] }

/-- The arguments that render the document to the page. -/
def letterArguments : List Text :=
  ["render".toList, "a.md".toList, "-o".toList, "out.html".toList]

theorem ofArguments_letter :
    Invocation.ofArguments letterArguments =
      .ok (.render "a.md".toList ['.'] (some (Path.ofText "out.html".toList))) := rfl

/-- The page of a document is written whole. -/
theorem wholeOrNone_render_letter :
    let s : Session := { tree := letter "*Dear*", installed := ⟨none, none⟩ }
    (run letterArguments s).exitCode = 0 ∧ ∃ options text html,
      s.Renders "a.md".toList ['.'] options text html ∧
      (run letterArguments s).tree.readBytes (Path.ofText "out.html".toList) =
        .ok (Utf8.encode (html ++ ['\n'])) := by
  intro s
  have hexit : (run letterArguments s).exitCode = 0 := by decide +kernel
  obtain ⟨-, hall⟩ := wholeOrNone_render_iff letterArguments.tail s
  obtain ⟨-, hstored⟩ := hall _ _ _ ofArguments_letter
  exact ⟨hexit, hstored hexit⟩

/-- The host of an address stands for half of a surrogate pair. The page is emptied, and nothing is
    written to it. -/
theorem run_render_empties_page :
    let s : Session := { tree := letter "//xn--a-rc4g.com", installed := ⟨none, none⟩ }
    let page := Path.ofText "out.html".toList
    s.tree.readBytes page = .ok (Utf8.encode "old".toList) ∧
      (run letterArguments s).exitCode = 1 ∧ (run letterArguments s).tree.readBytes page = .ok [] ∧
      ¬ WholeOrNone letterArguments s := by
  intro s page
  have hbefore : s.tree.readBytes page = .ok (Utf8.encode "old".toList) := rfl
  have hstop : (run letterArguments s).stop = some (.crash .unencodable) := by decide +kernel
  have hempty := readBytes_render_unencodable ofArguments_letter hstop
  refine ⟨hbefore, by rw [Outcome.exitCode, hstop], hempty, ?_⟩
  rintro (hsame | ⟨_, _, _, _, _, html, hargs, -, -, hread⟩)
  · cases (hsame.readBytes hbefore id).symm.trans hempty
  · cases ofArguments_letter.symm.trans hargs
    exact absurd (Except.ok.inj (hempty.symm.trans hread)).symm
      (Utf8.encode_ne_nil (List.append_ne_nil_of_right_ne_nil _ (List.cons_ne_nil _ _)))

end Docpress.Command
