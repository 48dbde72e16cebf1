import Docpress.Proofs.Renderer.Fence
import Docpress.Proofs.Renderer.Plain
/-!
What a highlighter is called with for fenced code: the code after the steps before Markdown, which is
the code as it was written exactly if these steps find nothing in it. The calls are read off a
backend that differs in its commands alone: it has one for every call, which holds the block.
-/

namespace Docpress

open Text Markdown Highlight InlineTag

/-! ### Calls on record -/

namespace Highlight

/-- The backend with its calls on record: for every block that it is asked for there is a command,
    with the language as argument and the code as input. -/
def Backend.recorded (b : Backend) : Backend :=
  { b with command := fun code language => some ⟨[language], code⟩ }

/-- The language and the code of a call on record. -/
def Command.block (call : Command) : Text × Text :=
  (call.arguments.headD [], call.input)

/-- The blocks that a backend is called for when fences are highlighted, in order. -/
def callsFor (b : Backend) (s : LoadState) (blocks : List (Text × Text)) : List (Text × Text) :=
  (highlightAll b.recorded s blocks).commands.map Command.block

/-- Keeping a record changes nothing else, and the commands that a backend has run are those of the
    calls on record. -/
theorem highlightAll_recorded (b : Backend) (s : LoadState) (blocks : List (Text × Text)) :
    let replies := highlightAll b s blocks
    let recorded := highlightAll b.recorded s blocks
    recorded.result = replies.result ∧ recorded.state = replies.state ∧
      recorded.logs = replies.logs ∧
      replies.commands = (callsFor b s blocks).flatMap fun block =>
        (b.command block.2 block.1).toList := by
  induction blocks generalizing s with
  | nil => exact ⟨rfl, rfl, rfl, rfl⟩
  | cons block rest ih =>
    obtain ⟨language, code⟩ := block
    have hask : s.ask (fun _ => b.recorded.load) language (b.recorded.reply code language) =
        s.ask (fun _ => b.load) language (b.reply code language) := rfl
    simp only [callsFor, highlightAll, hask] at ih ⊢
    generalize s.ask (fun _ => b.load) language (b.reply code language) = answer
    cases answer.result with
    | error e =>
      refine ⟨rfl, rfl, rfl, ?_⟩
      cases answer.asked <;> simp [Backend.recorded, Command.block]
    | ok html =>
      obtain ⟨hresult, hstate, hlogs, hcommands⟩ := ih answer.state
      refine ⟨by simp only [hresult], hstate, by simp only [hlogs], ?_⟩
      simp only [hcommands]
      cases answer.asked <;> simp [Backend.recorded, Command.block]

/-- A highlighter that is enabled and whose backend loads calls it once for one fence. -/
theorem callsFor_singleton {b : Backend} (hload : b.load = .ok ()) {s : LoadState}
    (henabled : s.disabled = false) (block : Text × Text) : callsFor b s [block] = [block] := by
  obtain ⟨language, code⟩ := block
  obtain ⟨s', -, -, hask⟩ := LoadState.ask_of_loads (b := b.recorded) hload henabled language
    (b.recorded.reply code language)
  have hasked : (s'.receive language (b.recorded.reply code language)).asked = true := by
    unfold LoadState.receive
    split
    · rfl
    · split <;> rfl
  simp only [callsFor, highlightAll, hask, hasked, if_true]
  split <;> rfl

end Highlight

/-- The blocks that a renderer calls its backend for, in order, when it renders a source. -/
def Renderer.callsOf (r : Renderer) (b : Backend) (state : LoadState) (source : Text) :
    List (Text × Text) :=
  (r.renderWith (some b.recorded) state source).commands.map Command.block

/-- With a record a source is rendered as without, and the commands are those of the calls. -/
theorem Renderer.renderWith_recorded (r : Renderer) (b : Backend) (state : LoadState)
    (source : Text) :
    let rendering := r.renderWith (some b) state source
    let recorded := r.renderWith (some b.recorded) state source
    recorded.html = rendering.html ∧ recorded.state = rendering.state ∧
      recorded.logs = rendering.logs ∧
      rendering.commands = (r.callsOf b state source).flatMap fun block =>
        (b.command block.2 block.1).toList := by
  obtain ⟨hresult, hstate, hlogs, hcommands⟩ :=
    highlightAll_recorded b state (fences (r.config.document (protect source)))
  refine ⟨?_, hstate, hlogs, hcommands⟩
  simp only [Renderer.renderWith, Renderer.engineWith, hresult]

/-! ### Fenced code -/

/-- The language and the code of a fence as the renderer reads them. -/
theorem Renderer.fencesOf_fenced (r : Renderer) {lang : Text} {lines : List Text} (ended : Bool)
    (hlang : IsWord lang) (hlines : ∀ l ∈ lines, IsWrittenLine l) :
    r.fencesOf (fenced lang lines ended) =
      [(lang, (lines.map protect).flatMap (· ++ ['\n']))] := by
  have hkept : ∀ l ∈ lines.map protect, IsFenceLine l := by
    intro l hl
    obtain ⟨source, hsource, rfl⟩ := List.mem_map.1 hl
    exact (hlines source hsource).isFenceLine
  have hevents : r.config.document (fenced lang (lines.map protect) ended) =
      [.fence lang ((lines.map protect).flatMap (· ++ ['\n']))] := by
    rw [MarkdownConfig.document, document_fenced ended hlang hkept]
    split <;> rfl
  rw [Renderer.fencesOf, protect_fenced_lines hlang, hevents, fences, fences,
    fenceLanguage_of_isWord hlang]

/-- Rendering a fence with a backend that loads calls it once, with the language and the lines of
    code after the steps before Markdown, and runs the command for these. They are the lines as they
    were written exactly if no line has a URL or a bare underscore in an inline tag. -/
theorem Renderer.callsOf_fenced {r : Renderer} {i : Installation} {b : Backend}
    (hb : r.backend i = some b) (hload : b.load = .ok ()) {state : LoadState}
    (henabled : state.disabled = false) {lang : Text} {lines : List Text} (ended : Bool)
    (hlang : IsWord lang) (hlines : ∀ l ∈ lines, IsWrittenLine l) :
    let source := fenced lang lines ended
    let written := lines.flatMap (· ++ ['\n'])
    let given := (lines.map protect).flatMap (· ++ ['\n'])
    r.callsOf b state source = [(lang, given)] ∧
      (r.render i state source).commands = (b.command given lang).toList ∧
      (given = written ↔
        ∀ l ∈ lines, ¬ HasBareUnderscore l ∧ ¬ Url.HasScheme ["://".toList] l) := by
  intro source written given
  have hcalls : r.callsOf b state source = [(lang, given)] := by
    change callsFor b state (r.fencesOf source) = _
    rw [r.fencesOf_fenced ended hlang hlines, callsFor_singleton hload henabled]
  refine ⟨hcalls, ?_, ?_⟩
  · rw [Renderer.render, hb, (r.renderWith_recorded b state source).2.2.2, hcalls,
      List.flatMap_singleton]
  · have hend : GrowsIf False ['\n'] ['\n'] := .inl ⟨id, rfl⟩
    have hgrows := GrowsIf.flatMap (fun l => (protect_growsIf l).append hend) lines
    have hgiven : given = lines.flatMap fun l => protect l ++ ['\n'] := List.flatMap_map ..
    rw [hgiven, hgrows.eq_iff]
    simp [not_or]

/-- A script without a URL, and with an underscore that is guarded already, is given to the program
    as it was written. -/
theorem Renderer.callsOf_fenced_script :
    let r : Renderer := ⟨{ highlight := .named "pygmentize".toList }, .marked, some .pygmentize⟩
    let i : Installation := ⟨none, some fun _ _ => .ok ⟨0, [], []⟩⟩
    let lines := ["a_b = c".toList, "  # \x7b@link d\\_e\x7d".toList]
    (r.render i {} (fenced "sh".toList lines true)).commands =
      [programCommand "a_b = c\n  # \x7b@link d\\_e\x7d\n".toList "sh".toList] := by
  intro r i lines
  have hgiven : (lines.map protect).flatMap (· ++ ['\n']) =
      "a_b = c\n  # \x7b@link d\\_e\x7d\n".toList := by
    decide
  have hb : r.backend i = some (programBackend i) := rfl
  have henabled : ({} : LoadState).disabled = false := rfl
  have hlang : IsWord "sh".toList := by decide
  have hlines : ∀ l ∈ lines, IsWrittenLine l := by decide
  obtain ⟨-, hcommands, -⟩ := Renderer.callsOf_fenced hb rfl henabled true hlang hlines
  rw [hcommands, hgiven]
  rfl

/-- An address in a script is given to the program with its slashes hidden. -/
theorem Renderer.callsOf_fenced_address :
    let r : Renderer := ⟨{ highlight := .named "pygmentize".toList }, .marked, some .pygmentize⟩
    let i : Installation := ⟨none, some fun _ _ => .ok ⟨0, [], []⟩⟩
    let source := fenced "sh".toList ["curl http://x".toList] false
    (r.render i {} source).commands =
        [programCommand "curl http:\\/\\/x\n".toList "sh".toList] ∧
      (r.render i {} source).commands ≠ [programCommand "curl http://x\n".toList "sh".toList] := by
  decide

end Docpress
