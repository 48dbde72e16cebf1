import Docpress.Highlight.Backend
/-!
What asking a highlighter for blocks depends on. Loading always ends in the same way here, so the
state of a highlighter decides only whether the failure to load is reported once more.
-/

namespace Docpress.Highlight

/-- The failure of a backend that is not available. Other failures to load are not of this kind:
    they end the rendering, and loading is tried again. -/
def Backend.unavailable? (b : Backend) : Option Failure :=
  match b.load with
  | .error e => if e.kind == .unavailable then some e else none
  | .ok () => none

/-- The states that a highlighter can be in when each attempt to load ends in the same way. -/
structure LoadState.Reached (b : Backend) (s : LoadState) : Prop where
  load_of_loaded : s.loaded = true → b.load = .ok ()
  unavailable_of_disabled : s.disabled = true → b.unavailable?.isSome = true

theorem LoadState.reached_initial (b : Backend) : LoadState.Reached b {} :=
  ⟨by simp, by simp⟩

/-- A highlighter whose backend loads is never disabled. -/
theorem LoadState.Reached.enabled {b : Backend} {s : LoadState} (hs : s.Reached b)
    (hb : b.unavailable? = none) : s.disabled = false := by
  cases hd : s.disabled with
  | false => rfl
  | true =>
    have h := hs.unavailable_of_disabled hd
    simp [hb] at h

@[simp] theorem LoadState.receive_state (s : LoadState) (language : Text)
    (reply : Except Failure (Option Text)) : (s.receive language reply).state = s := by
  unfold LoadState.receive
  split
  · rfl
  · split <;> rfl

/-- Apart from the state, what is made of a reply does not depend on the state. -/
theorem LoadState.receive_eq (s s' : LoadState) (language : Text)
    (reply : Except Failure (Option Text)) :
    s.receive language reply = { s'.receive language reply with state := s } := by
  unfold LoadState.receive
  split
  · rfl
  · split <;> rfl

/-- A highlighter that is not disabled and whose backend loads passes the backend's reply on. -/
theorem LoadState.ask_of_loads {b : Backend} {s : LoadState} (hload : b.load = .ok ())
    (hd : s.disabled = false) (language : Text) (reply : Except Failure (Option Text)) :
    ∃ s' : LoadState, s'.Reached b ∧ s'.disabled = false ∧
      s.ask (fun _ => b.load) language reply = s'.receive language reply := by
  cases hl : s.loaded with
  | true => exact ⟨s, ⟨fun _ => hload, by simp [hd]⟩, hd, by simp [LoadState.ask, hd, hl]⟩
  | false =>
    exact ⟨{ s with loads := s.loads + 1, loaded := true }, ⟨fun _ => hload, by simp [hd]⟩, hd,
      by simp [LoadState.ask, hd, hl, hload]⟩

/-- A highlighter that is not disabled and whose backend does not load: only a failure that the
    backend is not available disables it, and is reported. -/
theorem LoadState.ask_of_load_error {b : Backend} {s : LoadState} {e : Failure}
    (hload : b.load = .error e) (hd : s.disabled = false) (hl : s.loaded = false)
    (language : Text) (reply : Except Failure (Option Text)) :
    s.ask (fun _ => b.load) language reply =
      let missing := e.kind == .unavailable
      { result := if missing then .ok (some []) else .error e
        state := { s with loads := s.loads + 1, disabled := missing }
        logs := if missing then [unavailableReport e] else [], asked := false } := by
  cases hk : e.kind == .unavailable <;> simp [LoadState.ask, hd, hl, hload, hk]

theorem LoadState.Reached.loaded_of_error {b : Backend} {s : LoadState} {e : Failure}
    (hs : s.Reached b) (hload : b.load = .error e) : s.loaded = false := by
  cases hl : s.loaded with
  | false => rfl
  | true => simp [hs.load_of_loaded hl] at hload

/-- Asking for a block gives the answer that a new highlighter gives. What was reported before is
    not reported again, and that is the whole difference. -/
theorem LoadState.Reached.ask {b : Backend} {s : LoadState} (hs : s.Reached b) (language : Text)
    (reply : Except Failure (Option Text)) :
    let answer := s.ask (fun _ => b.load) language reply
    let fresh := LoadState.ask {} (fun _ => b.load) language reply
    answer.state.Reached b ∧ answer.result = fresh.result ∧ answer.asked = fresh.asked ∧
      answer.logs = (if s.disabled then [] else fresh.logs) ∧
      answer.state.disabled = fresh.state.disabled ∧
      (s.disabled = true → answer.state.disabled = true) := by
  cases hload : b.load with
  | ok loaded =>
    have hd := hs.enabled (by simp [Backend.unavailable?, hload])
    obtain ⟨s₁, hreached, hd₁, hask⟩ := LoadState.ask_of_loads hload hd language reply
    obtain ⟨fresh₁, -, hfresh₁, hfresh⟩ :=
      LoadState.ask_of_loads (s := {}) hload rfl language reply
    rw [← hload, hask, hfresh, LoadState.receive_eq s₁ fresh₁]
    exact ⟨hreached, rfl, rfl, by simp [hd], by simp [hd₁, hfresh₁], by simp [hd]⟩
  | error e =>
    have hl := hs.loaded_of_error hload
    have hfresh := LoadState.ask_of_load_error (s := {}) hload rfl rfl language reply
    have hunavailable : b.unavailable?.isSome = (e.kind == .unavailable) := by
      simp only [Backend.unavailable?, hload]
      split <;> simp_all
    rw [← hload, hfresh]
    cases hd : s.disabled with
    | true =>
      have hk := hunavailable.symm.trans (hs.unavailable_of_disabled hd)
      simp [LoadState.ask, hd, hk, hs]
    | false =>
      rw [LoadState.ask_of_load_error hload hd hl]
      exact ⟨⟨by simp [hl], fun hk => hunavailable.trans hk⟩, rfl, rfl, rfl, rfl, by simp⟩

/-- A highlighter whose backend is not available is disabled once it has been asked, and reports
    that the first time. -/
theorem LoadState.Reached.ask_of_unavailable {b : Backend} {s : LoadState} {e : Failure}
    (hs : s.Reached b) (hb : b.unavailable? = some e) (language : Text)
    (reply : Except Failure (Option Text)) :
    let answer := s.ask (fun _ => b.load) language reply
    answer.result = .ok (some []) ∧ answer.asked = false ∧ answer.state.disabled = true ∧
      answer.logs = if s.disabled then [] else [unavailableReport e] := by
  have hload : b.load = .error e ∧ (e.kind == .unavailable) = true := by
    unfold Backend.unavailable? at hb
    split at hb
    · split at hb
      · rename_i hload hk
        cases hb
        exact ⟨hload, hk⟩
      · cases hb
    · cases hb
  obtain ⟨hload, hk⟩ := hload
  have hl := hs.loaded_of_error hload
  cases hd : s.disabled <;> simp [LoadState.ask, hd, hl, hload, hk]

/-- A backend that ends no rendering: it may be missing, and it may fail to highlight. -/
structure Backend.IsBenign (b : Backend) : Prop where
  load : ∀ e, b.load = .error e → e.kind = .unavailable
  reply : ∀ code language e, b.reply code language = .error e → e.kind.isHighlight = true

theorem LoadState.receive_of_isBenign {b : Backend} (hb : b.IsBenign) (s : LoadState)
    (code language : Text) :
    ∃ html, (s.receive language (b.reply code language)).result = .ok html := by
  cases hreply : b.reply code language with
  | ok html => exact ⟨html, rfl⟩
  | error e =>
    have he := hb.reply code language e hreply
    exact ⟨some [], by simp only [LoadState.receive, he, if_true]⟩

theorem LoadState.ask_of_isBenign {b : Backend} (hb : b.IsBenign) (s : LoadState)
    (code language : Text) :
    ∃ html, (s.ask (fun _ => b.load) language (b.reply code language)).result = .ok html := by
  unfold LoadState.ask
  split
  · exact ⟨some [], rfl⟩
  · split
    · exact LoadState.receive_of_isBenign hb _ code language
    · dsimp only
      split
      · exact LoadState.receive_of_isBenign hb _ code language
      · rename_i e hload
        rw [if_pos (by simpa using hb.load e hload)]
        exact ⟨some [], rfl⟩

/-! ### The fences of a document -/

/-- A benign backend has an answer for every fence. -/
theorem highlightAll_of_isBenign {b : Backend} (hb : b.IsBenign) (s : LoadState)
    (blocks : List (Text × Text)) :
    ∃ replies, (highlightAll b s blocks).result = .ok replies := by
  induction blocks generalizing s with
  | nil => exact ⟨[], rfl⟩
  | cons block rest ih =>
    obtain ⟨language, code⟩ := block
    obtain ⟨html, hask⟩ := LoadState.ask_of_isBenign hb s code language
    obtain ⟨replies, hrest⟩ :=
      ih (s.ask (fun _ => b.load) language (b.reply code language)).state
    refine ⟨html.getD [] :: replies, ?_⟩
    simp only [highlightAll, hask, hrest, Except.map]

/-- What comes of the fences of a document, but for the state and the reports, does not depend on
    what the highlighter was asked before, and neither do the reports but for the one that it is
    not available. -/
theorem highlightAll_of_reached {b : Backend} {s : LoadState} (hs : s.Reached b)
    (blocks : List (Text × Text)) :
    let replies := highlightAll b s blocks
    let fresh := highlightAll b {} blocks
    replies.state.Reached b ∧ replies.result = fresh.result ∧
      replies.commands = fresh.commands ∧
      replies.logs = (if s.disabled then [] else fresh.logs) ∧
      replies.state.disabled = (s.disabled || fresh.state.disabled) := by
  induction blocks generalizing s with
  | nil => simp [highlightAll, hs]
  | cons block rest ih =>
    obtain ⟨language, code⟩ := block
    have hinit := LoadState.reached_initial b
    obtain ⟨hs₁, hresult, hasked, hlogs, hsame, hstays⟩ :=
      hs.ask language (b.reply code language)
    obtain ⟨hf₁, -⟩ := hinit.ask language (b.reply code language)
    simp only [highlightAll, hresult, hasked]
    generalize s.ask (fun _ => b.load) language (b.reply code language) = answer at *
    generalize LoadState.ask {} (fun _ => b.load) language (b.reply code language) = fresh at *
    have hdisabled : fresh.state.disabled = (s.disabled || fresh.state.disabled) := by
      cases hd : s.disabled with
      | false => simp
      | true => simpa [hsame] using hstays hd
    cases fresh.result with
    | error e => exact ⟨hs₁, rfl, rfl, hlogs, hsame.trans hdisabled⟩
    | ok html =>
      -- Both go on from states that are disabled or not alike.
      obtain ⟨hs₂, hr, hc, hl, hd⟩ := ih hs₁
      obtain ⟨-, hr', hc', hl', hd'⟩ := ih hf₁
      refine ⟨hs₂, by rw [hr, hr'], by rw [hc, hc'], ?_, ?_⟩
      · rw [hl, hl', hlogs, hsame]
        cases hb : s.disabled with
        | false => simp
        | true => simp [← hsame, hstays hb]
      · rw [hd, hd', hsame, ← Bool.or_assoc, ← hdisabled]

/-- The fences of a document stay plain if the highlighter is not available, which is reported once
    and only if there is a fence. -/
theorem highlightAll_of_unavailable {b : Backend} {s : LoadState} {e : Failure}
    (hs : s.Reached b) (hb : b.unavailable? = some e) (blocks : List (Text × Text)) :
    let replies := highlightAll b s blocks
    replies.result = .ok (blocks.map fun _ => []) ∧ replies.commands = [] ∧
      replies.logs = (if s.disabled || blocks.isEmpty then [] else [unavailableReport e]) ∧
      replies.state.disabled = (s.disabled || !blocks.isEmpty) := by
  induction blocks generalizing s with
  | nil => simp [highlightAll]
  | cons block rest ih =>
    obtain ⟨language, code⟩ := block
    obtain ⟨hresult, hasked, hdisabled, hlogs⟩ :=
      hs.ask_of_unavailable hb language (b.reply code language)
    obtain ⟨hs₁, -⟩ := hs.ask language (b.reply code language)
    obtain ⟨hr, hc, hl, hd⟩ := ih hs₁
    simp only [highlightAll, hresult, hasked]
    simp only [hr, hc, hl, hd, hlogs, hdisabled]
    simp [Except.map]

end Docpress.Highlight
