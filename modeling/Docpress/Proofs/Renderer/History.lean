import Docpress.Proofs.Highlight.Loading
import Docpress.Renderer
/-!
Sources rendered one after another. What comes of a source does not depend on those before it; only
the report that the highlighter is not available is written once for all of them.
-/

namespace Docpress

open Markdown Highlight

/-- The fences of a source, which the highlighter is asked for. -/
def Renderer.fencesOf (r : Renderer) (source : Text) : List (Text × Text) :=
  fences (r.config.document (protect source))

/-- A source reaches the highlighter: it has a fence. -/
def Renderer.reachesHighlighter (r : Renderer) (source : Text) : Bool :=
  !(r.fencesOf source).isEmpty

/-- The highlighter's state after sources have been rendered one after another. -/
def Renderer.stateAfter (r : Renderer) (backend : Option Backend) (state : LoadState)
    (sources : List Text) : LoadState :=
  sources.foldl (fun state source => (r.renderWith backend state source).state) state

theorem Renderer.length_renderAll (r : Renderer) (backend : Option Backend) (state : LoadState)
    (sources : List Text) : (r.renderAll backend state sources).length = sources.length := by
  induction sources generalizing state with
  | nil => rfl
  | cons source rest ih => simp [Renderer.renderAll, ih]

/-- Each source is rendered from the state that those before it have led to. -/
theorem Renderer.renderAll_getElem? (r : Renderer) (backend : Option Backend) (state : LoadState)
    (sources : List Text) (k : Nat) (source : Text) (hk : sources[k]? = some source) :
    (r.renderAll backend state sources)[k]? =
      some (r.renderWith backend (r.stateAfter backend state (sources.take k)) source) := by
  induction sources generalizing state k with
  | nil => simp at hk
  | cons first rest ih =>
    cases k with
    | zero =>
      obtain rfl : first = source := by simpa using hk
      rfl
    | succ k => exact ih _ k (by simpa using hk)

/-- Rendering with a backend, from any state that earlier renderings can have led to. -/
theorem Renderer.renderWith_of_reached (r : Renderer) {b : Backend} {state : LoadState}
    (hs : state.Reached b) (source : Text) :
    let rendering := r.renderWith (some b) state source
    let fresh := r.renderWith (some b) {} source
    rendering.state.Reached b ∧ rendering.html = fresh.html ∧
      rendering.commands = fresh.commands ∧
      rendering.logs = (if state.disabled then [] else fresh.logs) := by
  obtain ⟨hstate, hresult, hcommands, hlogs, -⟩ :=
    highlightAll_of_reached hs (r.fencesOf source)
  refine ⟨hstate, ?_, hcommands, hlogs⟩
  rw [Renderer.fencesOf] at hresult
  simp only [Renderer.renderWith, Renderer.engineWith, hresult]

/-- The states that earlier renderings of a renderer, if there is one, can have led to. -/
def StateReached (r : Option Renderer) (i : Installation) (state : LoadState) : Prop :=
  ∀ renderer, r = some renderer → ∀ b, renderer.backend i = some b → state.Reached b

theorem stateReached_initial (r : Option Renderer) (i : Installation) : StateReached r i {} :=
  fun _ _ b _ => LoadState.reached_initial b

/-- What a source is rendered to does not depend on what was rendered before it. -/
theorem renderMarkdown_of_reached {r : Option Renderer} {i : Installation} {state : LoadState}
    (hs : StateReached r i state) (source : Text) :
    StateReached r i (renderMarkdown r i state source).state ∧
      (renderMarkdown r i state source).html = (renderMarkdown r i {} source).html := by
  unfold renderMarkdown
  cases r with
  | none => exact ⟨hs, rfl⟩
  | some renderer =>
    simp only
    split
    · exact ⟨hs, rfl⟩
    · simp only [Renderer.render]
      cases hb : renderer.backend i with
      | none => exact ⟨hs, rfl⟩
      | some b =>
        obtain ⟨hstate, hhtml, -⟩ := renderer.renderWith_of_reached (hs _ rfl b hb) source
        refine ⟨fun renderer' hr b' hb' => ?_, hhtml⟩
        cases hr
        obtain rfl : b = b' := Option.some.inj (hb.symm.trans hb')
        exact hstate

/-- Rendering with a backend that is not available disables the highlighter with the first
    fence. -/
theorem Renderer.renderWith_of_unavailable (r : Renderer) {b : Backend} {state : LoadState}
    {e : Failure} (hs : state.Reached b) (hb : b.unavailable? = some e) (source : Text) :
    let rendering := r.renderWith (some b) state source
    rendering.logs =
      (if r.reachesHighlighter source && !state.disabled then [unavailableReport e] else []) ∧
      rendering.state.disabled = (state.disabled || r.reachesHighlighter source) := by
  obtain ⟨-, -, hlogs, hdisabled⟩ :=
    highlightAll_of_unavailable hs hb (r.fencesOf source)
  refine ⟨?_, hdisabled⟩
  change (highlightAll b state (r.fencesOf source)).logs = _
  rw [hlogs, Renderer.reachesHighlighter]
  cases state.disabled <;> simp

theorem Renderer.reached_stateAfter (r : Renderer) {b : Backend} {state : LoadState}
    (hs : state.Reached b) (sources : List Text) :
    (r.stateAfter (some b) state sources).Reached b := by
  induction sources generalizing state with
  | nil => exact hs
  | cons source rest ih => exact ih (r.renderWith_of_reached hs source).1

/-- What a source is rendered to after others is what a new renderer makes of it. -/
theorem Renderer.html_renderWith_stateAfter (r : Renderer) (backend : Option Backend)
    (sources : List Text) (source : Text) :
    (r.renderWith backend (r.stateAfter backend {} sources) source).html =
      (r.renderWith backend {} source).html := by
  cases backend with
  | none => rfl
  | some b =>
    exact (r.renderWith_of_reached
      (r.reached_stateAfter (LoadState.reached_initial b) sources) source).2.1

/-- A highlighter that is not available is disabled as soon as some source has reached it. -/
theorem Renderer.disabled_stateAfter (r : Renderer) {b : Backend} {state : LoadState} {e : Failure}
    (hs : state.Reached b) (hb : b.unavailable? = some e) (sources : List Text) :
    (r.stateAfter (some b) state sources).disabled =
      (state.disabled || sources.any r.reachesHighlighter) := by
  induction sources generalizing state with
  | nil => simp [Renderer.stateAfter]
  | cons source rest ih =>
    have hnext := ih (r.renderWith_of_reached hs source).1
    rw [(r.renderWith_of_unavailable hs hb source).2] at hnext
    simpa [Renderer.stateAfter, Bool.or_assoc] using hnext

/-- However many sources a renderer has rendered before, also such as failed, the HTML of a source
    or its failure and the commands that are run for it are those of a new renderer. So are the
    reports, except that a backend which is not available is reported with the first source that
    reaches the highlighter and with none after it. -/
theorem Renderer.renderAll_eq_fresh (r : Renderer) (backend : Option Backend)
    (sources : List Text) :
    (r.renderAll backend {} sources).length = sources.length ∧
      ∀ (k : Nat) (source : Text), sources[k]? = some source →
        ∃ rendering, (r.renderAll backend {} sources)[k]? = some rendering ∧
          rendering.html = (r.renderWith backend {} source).html ∧
          rendering.commands = (r.renderWith backend {} source).commands ∧
          rendering.logs = match backend.bind Backend.unavailable? with
            | some e =>
              if r.reachesHighlighter source && !(sources.take k).any r.reachesHighlighter
              then [unavailableReport e] else []
            | none => (r.renderWith backend {} source).logs := by
  refine ⟨r.length_renderAll backend {} sources, fun k source hk => ?_⟩
  refine ⟨_, r.renderAll_getElem? backend {} sources k source hk, ?_⟩
  cases backend with
  | none => exact ⟨rfl, rfl, rfl⟩
  | some b =>
    have hs := r.reached_stateAfter (LoadState.reached_initial b) (sources.take k)
    obtain ⟨-, hhtml, hcommands, hlogs⟩ := r.renderWith_of_reached hs source
    refine ⟨hhtml, hcommands, ?_⟩
    cases hb : b.unavailable? with
    | none => simpa [hb, hs.enabled hb] using hlogs
    | some e =>
      have hdisabled := r.disabled_stateAfter (LoadState.reached_initial b) hb (sources.take k)
      have hreport := (r.renderWith_of_unavailable hs hb source).1
      rw [hdisabled] at hreport
      simpa [hb] using hreport

/-- With a library that is missing, the first of two sources with fences is the only one that is
    reported. -/
theorem Renderer.renderAll_eq_fresh_missing :
    let r : Renderer := ⟨{ highlight := .flag true }, .marked, some .highlightJs⟩
    let b := libraryBackend ⟨none, none⟩
    let sources := ["text".toList, "```\na\n```".toList, "```\nb\n```".toList]
    ∃ first second, (r.renderAll (some b) {} sources)[1]? = some first ∧
      (r.renderAll (some b) {} sources)[2]? = some second ∧
      first.logs = [unavailableReport ⟨.unavailable, "Could not find Pygments.".toList⟩] ∧
      second.logs = [] ∧
      second.html = (r.renderWith (some b) {} "```\nb\n```".toList).html := by
  intro r b sources
  obtain ⟨-, hall⟩ := r.renderAll_eq_fresh (some b) sources
  obtain ⟨first, hfirst, -, -, hlogs⟩ := hall 1 _ rfl
  obtain ⟨second, hsecond, hhtml, -, hlogs'⟩ := hall 2 _ rfl
  refine ⟨first, second, hfirst, hsecond, ?_, ?_, hhtml⟩
  · rw [hlogs]
    decide +kernel
  · rw [hlogs']
    decide +kernel

end Docpress
