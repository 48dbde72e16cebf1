import Docpress.Proofs.Highlight.Loading
import Mathlib.Data.List.Basic
/-!
The life of one highlighter, whatever its loader and its backend do. Loading is tried again as long
as it breaks; once it has succeeded, or the backend was found not to be available, it is not tried
any more, and the highlighter stays as it is then.
-/

namespace Docpress.Highlight

/-- What a backend does with a block: it answers at once, or it delivers its answer. -/
inductive Reply where
  | direct (said : Except Failure (Option Text))
  | deferred (work : DeferredWork)

/-- What comes from the backend; none if a delivery is waited for that never comes. -/
def Reply.received? : Reply → Option (Except Failure (Option Text))
  | .direct said => some said
  | .deferred work => work.outcome.map (·.map some)

/-- A block that a highlighter is asked for: its language, and what the backend would do with it. -/
structure Request where
  language : Text
  reply : Reply

/-- A highlighter answers a request. If it asks its backend, the backend has replied. -/
def LoadState.Answers (loader : Nat → Except Failure Unit) (s : LoadState) (r : Request)
    (a : Answer) : Prop :=
  ∃ said, a = s.ask loader r.language said ∧ (a.asked = true → r.reply.received? = some said)

/-- A highlighter answers requests one after another. -/
inductive LoadState.Serves (loader : Nat → Except Failure Unit) :
    LoadState → List (Request × Answer) → LoadState → Prop where
  | nil (s : LoadState) : Serves loader s [] s
  | cons {s s' : LoadState} {r : Request} {a : Answer} {history : List (Request × Answer)}
      (head : s.Answers loader r a) (tail : Serves loader a.state history s') :
      Serves loader s ((r, a) :: history) s'

/-- All that was reported. -/
def reports (history : List (Request × Answer)) : List LogEntry :=
  history.flatMap (·.2.logs)

namespace LoadState

variable {loader : Nat → Except Failure Unit} {s s' : LoadState} {r : Request} {a : Answer}
  {history : List (Request × Answer)}

/-! ### One request -/

/-- The ways in which a request can be answered. -/
inductive Course (loader : Nat → Except Failure Unit) (s : LoadState) (r : Request) :
    Answer → Prop where
  | disabled (hd : s.disabled = true) : Course loader s r ⟨.ok (some []), s, [], false⟩
  | loaded {said : Except Failure (Option Text)} (hd : s.disabled = false) (hl : s.loaded = true)
      (hsaid : r.reply.received? = some said) : Course loader s r (s.receive r.language said)
  /-- The backend is loaded and asked at once. -/
  | loads {said : Except Failure (Option Text)} (hd : s.disabled = false) (hl : s.loaded = false)
      (hload : loader s.loads = .ok ()) (hsaid : r.reply.received? = some said) :
      Course loader s r (receive ⟨s.loads + 1, true, false⟩ r.language said)
  | missing {e : Failure} (hd : s.disabled = false) (hl : s.loaded = false)
      (hload : loader s.loads = .error e) (he : e.kind = .unavailable) :
      Course loader s r
        ⟨.ok (some []), ⟨s.loads + 1, false, true⟩, [unavailableReport e], false⟩
  | breaks {e : Failure} (hd : s.disabled = false) (hl : s.loaded = false)
      (hload : loader s.loads = .error e) (he : e.kind ≠ .unavailable) :
      Course loader s r ⟨.error e, ⟨s.loads + 1, false, false⟩, [], false⟩

/-- Whatever a backend says, it was asked. -/
theorem asked_receive (s : LoadState) (language : Text) (said : Except Failure (Option Text)) :
    (s.receive language said).asked = true := by
  unfold receive
  split
  · rfl
  · split <;> rfl

theorem Answers.course (h : s.Answers loader r a) : Course loader s r a := by
  obtain ⟨said, rfl, hsaid⟩ := h
  unfold ask at hsaid ⊢
  cases hd : s.disabled with
  | true => exact .disabled hd
  | false =>
    cases hl : s.loaded with
    | true =>
      simp only [hd, hl, Bool.false_eq_true, if_false, if_true] at hsaid ⊢
      exact .loaded hd hl (hsaid (asked_receive ..))
    | false =>
      simp only [hd, hl, Bool.false_eq_true, if_false] at hsaid ⊢
      cases hload : loader s.loads with
      | ok loaded =>
        simp only [hload] at hsaid
        exact .loads hd hl hload (hsaid (asked_receive ..))
      | error e =>
        cases hk : e.kind == .unavailable with
        | true =>
          simp only [hk, if_true]
          exact .missing hd hl hload (eq_of_beq hk)
        | false =>
          simp only [hk, Bool.false_eq_true, if_false]
          exact .breaks hd hl hload (ne_of_beq_false hk)

/-! ### All requests -/

/-- What the outcomes of loading so far have made of a highlighter: each attempt but the last one
    broke, and the state tells what came of the last one. -/
structure Tried (loader : Nat → Except Failure Unit) (s : LoadState) : Prop where
  breaks : ∀ n, n + 1 < s.loads → ∃ e, loader n = .error e ∧ e.kind ≠ .unavailable
  last : ∀ n, n + 1 = s.loads →
    (s.loaded = true ∧ s.disabled = false ∧ loader n = .ok ()) ∨
    (s.loaded = false ∧ s.disabled = true ∧
      ∃ e, loader n = .error e ∧ e.kind = .unavailable) ∨
    (s.loaded = false ∧ s.disabled = false ∧ ∃ e, loader n = .error e ∧ e.kind ≠ .unavailable)
  untried : s.loads = 0 → s.loaded = false ∧ s.disabled = false

theorem tried_start : Tried loader {} :=
  ⟨fun _ h => absurd h (Nat.not_lt_zero _), fun _ h => absurd h (Nat.succ_ne_zero _),
    fun _ => ⟨rfl, rfl⟩⟩

/-- All attempts of a highlighter that is in neither condition broke. -/
theorem Tried.all_break (h : Tried loader s) (hd : s.disabled = false) (hl : s.loaded = false)
    {n : Nat} (hn : n < s.loads) : ∃ e, loader n = .error e ∧ e.kind ≠ .unavailable := by
  rcases Nat.lt_or_eq_of_le hn with hlt | heq
  · exact h.breaks n hlt
  · rcases h.last n heq with ⟨hloaded, -⟩ | ⟨-, hdisabled, -⟩ | ⟨-, -, he⟩
    · simp [hl] at hloaded
    · simp [hd] at hdisabled
    · exact he

/-- One more attempt leaves a highlighter in the condition that its outcome tells. -/
theorem Tried.succ (h : Tried loader s) (hd : s.disabled = false) (hl : s.loaded = false)
    {loaded disabled : Bool}
    (hlast : (loaded = true ∧ disabled = false ∧ loader s.loads = .ok ()) ∨
      (loaded = false ∧ disabled = true ∧
        ∃ e, loader s.loads = .error e ∧ e.kind = .unavailable) ∨
      (loaded = false ∧ disabled = false ∧
        ∃ e, loader s.loads = .error e ∧ e.kind ≠ .unavailable)) :
    Tried loader ⟨s.loads + 1, loaded, disabled⟩ := by
  refine ⟨fun n hn => h.all_break hd hl (Nat.lt_of_succ_lt_succ hn), fun n hn => ?_,
    fun hn => absurd hn (Nat.succ_ne_zero _)⟩
  obtain rfl : n = s.loads := Nat.succ.inj hn
  exact hlast

theorem Tried.answer (h : Tried loader s) (ha : s.Answers loader r a) : Tried loader a.state := by
  cases ha.course with
  | disabled hd => exact h
  | loaded hd hl hsaid => rwa [receive_state]
  | loads hd hl hload hsaid =>
    rw [receive_state]
    exact h.succ hd hl (.inl ⟨rfl, rfl, hload⟩)
  | missing hd hl hload he => exact h.succ hd hl (.inr (.inl ⟨rfl, rfl, _, hload, he⟩))
  | breaks hd hl hload he => exact h.succ hd hl (.inr (.inr ⟨rfl, rfl, _, hload, he⟩))

theorem Serves.tried (h : Serves loader s history s') (hs : Tried loader s) :
    Tried loader s' := by
  induction h with
  | nil s => exact hs
  | cons head tail ih => exact ih (hs.answer head)

/-- A highlighter is not disabled while it has a backend. -/
theorem Tried.not_both (h : Tried loader s) : ¬ (s.disabled = true ∧ s.loaded = true) := by
  rintro ⟨hd, hl⟩
  cases hn : s.loads with
  | zero =>
    have hd' := (h.untried hn).2
    simp [hd] at hd'
  | succ n =>
    rcases h.last n hn.symm with ⟨-, hd', -⟩ | ⟨hl', -⟩ | ⟨hl', -⟩
    · simp [hd] at hd'
    · simp [hl] at hl'
    · simp [hl] at hl'

/-- A disabled highlighter stays as it is, and says nothing. -/
theorem Serves.of_disabled (h : Serves loader s history s') (hd : s.disabled = true) :
    s' = s ∧ reports history = [] := by
  induction h with
  | nil s => exact ⟨rfl, rfl⟩
  | cons head tail ih =>
    cases head.course with
    | disabled _ => exact ih hd
    | loaded hd' => simp [hd] at hd'
    | loads hd' => simp [hd] at hd'
    | missing hd' => simp [hd] at hd'
    | breaks hd' => simp [hd] at hd'

/-- A highlighter with a backend stays as it is. -/
theorem Serves.of_loaded (h : Serves loader s history s') (hd : s.disabled = false)
    (hl : s.loaded = true) : s' = s := by
  induction h with
  | nil s => rfl
  | cons head tail ih =>
    cases head.course with
    | disabled hd' => simp [hd] at hd'
    | loaded _ _ _ =>
      rw [receive_state] at ih
      exact ih hd hl
    | loads _ hl' => simp [hl] at hl'
    | missing _ hl' => simp [hl] at hl'
    | breaks _ hl' => simp [hl] at hl'

/-- A highlighter that has become disabled has reported that once, and nothing else. -/
theorem Serves.reports_of_disabled (h : Serves loader s history s') (hd : s.disabled = false)
    (hl : s.loaded = false) (hd' : s'.disabled = true) :
    ∃ n e, s'.loads = n + 1 ∧ loader n = .error e ∧ e.kind = .unavailable ∧
      reports history = [unavailableReport e] := by
  induction h with
  | nil s => simp [hd] at hd'
  | cons head tail ih =>
    cases head.course with
    | disabled h => simp [hd] at h
    | loaded _ h _ => simp [hl] at h
    | loads _ _ _ _ =>
      rw [receive_state] at tail
      rw [tail.of_loaded rfl rfl] at hd'
      cases hd'
    | missing _ _ hload he =>
      obtain ⟨rfl, hrest⟩ := tail.of_disabled rfl
      exact ⟨_, _, rfl, hload, he, congrArg (_ :: ·) hrest⟩
    | breaks _ _ _ _ => exact ih rfl rfl hd'

/-- As long as a highlighter is in neither condition, it reports nothing. -/
theorem Serves.reports_of_neither (h : Serves loader s history s') (hd : s'.disabled = false)
    (hl : s'.loaded = false) : reports history = [] := by
  induction h with
  | nil s => rfl
  | cons head tail ih =>
    cases head.course with
    | disabled h =>
      rw [(tail.of_disabled h).1] at hd
      cases h.symm.trans hd
    | loaded h h' _ =>
      rw [receive_state] at tail
      rw [tail.of_loaded h h'] at hl
      simp [hl] at h'
    | loads _ _ _ _ =>
      rw [receive_state] at tail
      rw [tail.of_loaded rfl rfl] at hl
      cases hl
    | missing _ _ _ _ =>
      rw [(tail.of_disabled rfl).1] at hd
      cases hd
    | breaks _ _ _ _ => exact ih hd hl

/-! ### The law -/

/-- Whatever its loader and its backend do, a highlighter is never disabled while it has a backend,
    and it keeps each of these conditions. It loads once for each request made in neither condition,
    and for no other.

    A backend that is not available disables it. This is the one report that it ever makes, and from
    then on code stays plain, without a report and without asking the backend. Any other failure to
    load is passed on and leaves the highlighter in neither condition. Once the backend is loaded it
    is asked for each block, and a failure to highlight leaves the code plain with one report; any
    other failure is passed on, without a report. -/
theorem Serves.lifetime (h : Serves loader {} history s) :
    ¬ (s.disabled = true ∧ s.loaded = true) ∧
    (∀ more s', Serves loader s more s' →
      (s.disabled = true → s'.disabled = true) ∧ (s.loaded = true → s'.loaded = true)) ∧
    (∀ r a, s.Answers loader r a → a.state.loads =
      if s.disabled = true ∨ s.loaded = true then s.loads else s.loads + 1) ∧
    (s.disabled = true →
      (∃ n e, s.loads = n + 1 ∧ loader n = .error e ∧ e.kind = .unavailable ∧
        (∀ m < n, ∃ e, loader m = .error e ∧ e.kind ≠ .unavailable) ∧
        reports history = [⟨.error, e.message ++ " Highlighting disabled.".toList⟩]) ∧
      ∀ r a, s.Answers loader r a → a = ⟨.ok (some []), s, [], false⟩) ∧
    (s.disabled = false → s.loaded = false → reports history = [] ∧
      ∀ r a, s.Answers loader r a → ∀ e, loader s.loads = .error e →
        (e.kind = .unavailable → a.result = .ok (some []) ∧ a.state.disabled = true ∧
          a.logs = [⟨.error, e.message ++ " Highlighting disabled.".toList⟩] ∧
          a.asked = false) ∧
        (e.kind ≠ .unavailable → a.result = .error e ∧ a.state.disabled = false ∧
          a.state.loaded = false ∧ a.logs = [] ∧ a.asked = false)) ∧
    (s.disabled = false → ∀ r a, s.Answers loader r a →
      (s.loaded = true ∨ loader s.loads = .ok ()) →
      a.state.loaded = true ∧ a.asked = true ∧ ∃ said, r.reply.received? = some said ∧
        (∀ html, said = .ok html → a.result = .ok html ∧ a.logs = []) ∧
        (∀ e, said = .error e → e.kind.isHighlight = true →
          a.result = .ok (some []) ∧ a.logs = [blockReport r.language e]) ∧
        (∀ e, said = .error e → e.kind.isHighlight = false →
          a.result = .error e ∧ a.logs = [])) := by
  have htried := h.tried tried_start
  refine ⟨htried.not_both, fun more s' hmore => ⟨fun hd => ?_, fun hl => ?_⟩, fun r a ha => ?_,
    fun hd => ⟨?_, fun r a ha => ?_⟩, fun hd hl => ⟨h.reports_of_neither hd hl, fun r a ha => ?_⟩,
    fun hd r a ha hload => ?_⟩
  · rw [(hmore.of_disabled hd).1]
    exact hd
  · have hd : s.disabled = false := by
      simpa [hl] using htried.not_both
    rw [hmore.of_loaded hd hl]
    exact hl
  · cases ha.course with
    | disabled hd => simp [hd]
    | loaded hd hl _ => simp [hl]
    | loads hd hl _ _ => simp [hd, hl]
    | missing hd hl _ _ => simp [hd, hl]
    | breaks hd hl _ _ => simp [hd, hl]
  · obtain ⟨n, e, hn, hload, he, hreports⟩ := h.reports_of_disabled rfl rfl hd
    exact ⟨n, e, hn, hload, he, fun m hm => htried.breaks m (by omega), hreports⟩
  · cases ha.course with
    | disabled _ => rfl
    | loaded hd' => simp [hd] at hd'
    | loads hd' => simp [hd] at hd'
    | missing hd' => simp [hd] at hd'
    | breaks hd' => simp [hd] at hd'
  · intro e hload
    cases ha.course with
    | disabled hd' => simp [hd] at hd'
    | loaded _ hl' => simp [hl] at hl'
    | loads _ _ hload' => cases hload.symm.trans hload'
    | missing _ _ hload' he =>
      cases hload.symm.trans hload'
      exact ⟨fun _ => ⟨rfl, rfl, rfl, rfl⟩, fun hne => absurd he hne⟩
    | breaks _ _ hload' he =>
      cases hload.symm.trans hload'
      exact ⟨fun heq => absurd heq he, fun _ => ⟨rfl, rfl, rfl, rfl, rfl⟩⟩
  · have hreceived : ∃ (s' : LoadState) (said : Except Failure (Option Text)),
        r.reply.received? = some said ∧ s'.loaded = true ∧ a = s'.receive r.language said := by
      cases ha.course with
      | disabled hd' => simp [hd] at hd'
      | loaded _ hl hsaid => exact ⟨s, _, hsaid, hl, rfl⟩
      | loads _ _ _ hsaid => exact ⟨_, _, hsaid, rfl, rfl⟩
      | missing _ hl hload' _ => simp [hl, hload'] at hload
      | breaks _ hl hload' _ => simp [hl, hload'] at hload
    obtain ⟨s', said, hsaid, hl, rfl⟩ := hreceived
    rw [receive_state]
    refine ⟨hl, asked_receive .., said, hsaid, ?_, ?_, ?_⟩
    · rintro html rfl
      exact ⟨rfl, rfl⟩
    · rintro e rfl he
      simp [receive, he]
    · rintro e rfl he
      simp [receive, he]

/-- Loading breaks once with a failure to highlight, which is passed on; then the backend is found
    not to be there, and stays so for a block that it would deliver. -/
theorem Serves.lifetime_missing :
    let broken : Failure := ⟨.highlight, "Busy.".toList⟩
    let missing : Failure := ⟨.unavailable, "Gone.".toList⟩
    let loader : Nat → Except Failure Unit := fun n => .error (if n = 0 then broken else missing)
    let direct : Request := ⟨"c".toList, .direct (.ok none)⟩
    let deferred : Request := ⟨[], .deferred ⟨[⟨none, some "<b>".toList⟩], true, none⟩⟩
    let history : List (Request × Answer) :=
      [(direct, ⟨.error broken, ⟨1, false, false⟩, [], false⟩),
        (direct, ⟨.ok (some []), ⟨2, false, true⟩, [unavailableReport missing], false⟩),
        (deferred, ⟨.ok (some []), ⟨2, false, true⟩, [], false⟩)]
    Serves loader {} history ⟨2, false, true⟩ ∧
      ∃ n e, 2 = n + 1 ∧ loader n = .error e ∧
        reports history = [⟨.error, e.message ++ " Highlighting disabled.".toList⟩] := by
  intro broken missing loader direct deferred history
  have hserves : Serves loader {} history ⟨2, false, true⟩ :=
    .cons ⟨.ok none, rfl, fun _ => rfl⟩ <| .cons ⟨.ok none, rfl, fun _ => rfl⟩ <|
      .cons ⟨.ok none, rfl, fun h => absurd h (by decide)⟩ (.nil _)
  obtain ⟨-, -, -, hdisabled, -⟩ := hserves.lifetime
  obtain ⟨⟨n, e, hn, hload, -, -, hreports⟩, -⟩ := hdisabled rfl
  exact ⟨hserves, n, e, hn, hload, hreports⟩

end LoadState

end Docpress.Highlight
