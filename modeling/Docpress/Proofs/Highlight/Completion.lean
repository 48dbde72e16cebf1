import Docpress.Highlight.Completion
import Mathlib.Data.List.Basic
/-!
A completion that many share: some deliver results and some wait, in any order. Whatever the order,
the first delivery is the only one that is taken, and everybody who waits gets its outcome.
-/

namespace Docpress.Highlight

/-! ### What a delivery means -/

/-- What a delivery means to those who wait. -/
inductive Delivery.Means : Delivery → Except Failure Text → Prop where
  /-- A failure to highlight is passed on as it is, of whichever kind, and whatever code comes with
      it. -/
  | failed {e : Failure} (html : Option Text) (h : e.kind.isHighlight = true) :
      Means ⟨some e, html⟩ (.error e)
  /-- Any other failure becomes one to highlight. -/
  | broken {e : Failure} (html : Option Text) (h : e.kind.isHighlight = false) :
      Means ⟨some e, html⟩ (.error ⟨.highlight, e.message⟩)
  | highlighted (html : Text) : Means ⟨none, some html⟩ (.ok html)
  | nothing : Means ⟨none, none⟩ (.ok [])

theorem Delivery.means_outcome (d : Delivery) : d.Means d.outcome := by
  obtain ⟨error, html⟩ := d
  cases error with
  | none =>
    cases html with
    | none => exact .nothing
    | some html => exact .highlighted html
  | some e =>
    cases h : e.kind.isHighlight with
    | true =>
      have houtcome : Delivery.outcome ⟨some e, html⟩ = .error e := by simp [outcome, h]
      exact houtcome ▸ .failed html h
    | false =>
      have houtcome : Delivery.outcome ⟨some e, html⟩ = .error ⟨.highlight, e.message⟩ := by
        simp [outcome, h]
      exact houtcome ▸ .broken html h

/-! ### Sharing -/

/-- What happens at a completion that many share. -/
inductive Happening where
  /-- Somebody delivers a result, and is told how that went. -/
  | delivers (d : Delivery) (reply : Except Failure Unit)
  /-- Somebody begins to wait. -/
  | waits (who : Nat)
  /-- Somebody who waits goes on with an outcome. -/
  | goesOn (who : Nat) (outcome : Except Failure Text)

/-- A completion and those who wait at it. -/
structure Shared where
  completion : Completion := {}
  waiting : List Nat := []

/-- One thing happens at a shared completion. A delivery and the beginning of a wait are possible
    at any time; whoever waits can go on as soon as there is an outcome, and at any time from then
    on. -/
inductive Shared.Step : Shared → Happening → Shared → Prop where
  | delivers (s : Shared) (d : Delivery) :
      Step s (.delivers d (s.completion.deliver d).1)
        { s with completion := (s.completion.deliver d).2 }
  | waits (s : Shared) (who : Nat) : Step s (.waits who) { s with waiting := who :: s.waiting }
  | goesOn {s : Shared} {who : Nat} {outcome : Except Failure Text} (hwho : who ∈ s.waiting)
      (houtcome : s.completion.wait = some outcome) :
      Step s (.goesOn who outcome) { s with waiting := s.waiting.erase who }

/-- Things happen one after another. -/
inductive Shared.Run : Shared → List Happening → Shared → Prop where
  | nil (s : Shared) : Run s [] s
  | cons {s s₁ s₂ : Shared} {e : Happening} {history : List Happening} (head : s.Step e s₁)
      (tail : Run s₁ history s₂) : Run s (e :: history) s₂

/-- The delivery that happens, if one does. -/
def Happening.delivery? : Happening → Option Delivery
  | .delivers d _ => some d
  | _ => none

/-- The deliveries of a history, in order. -/
def deliveries (history : List Happening) : List Delivery :=
  history.filterMap Happening.delivery?

/-- How often somebody has begun to wait. -/
def waitsOf (who : Nat) (history : List Happening) : Nat :=
  history.countP fun | .waits other => other == who | _ => false

/-- How often somebody who waited has gone on. -/
def returnsOf (who : Nat) (history : List Happening) : Nat :=
  history.countP fun | .goesOn other _ => other == who | _ => false

/-! ### One step -/

/-- A completion keeps the delivery that it has, and takes any delivery as long as it has none. -/
theorem Shared.Step.first {s s' : Shared} {e : Happening} (h : s.Step e s') :
    s'.completion.first = s.completion.first.or e.delivery? := by
  cases h with
  | delivers d =>
    obtain ⟨⟨first⟩, waiting⟩ := s
    cases first <;> rfl
  | waits who => cases s.completion.first <;> rfl
  | goesOn hwho houtcome => cases s.completion.first <;> rfl

/-- Nobody who waits is lost: whoever begins to wait does so until he goes on. -/
theorem Shared.Step.count_waiting {s s' : Shared} {e : Happening} (h : s.Step e s') (who : Nat) :
    s.waiting.count who + waitsOf who [e] = s'.waiting.count who + returnsOf who [e] := by
  cases h with
  | delivers d => rfl
  | waits other => simp [waitsOf, returnsOf, List.count_cons]
  | @goesOn other outcome hwho houtcome =>
    by_cases heq : other = who
    · subst heq
      have hpos := List.count_pos_iff.2 hwho
      simp [waitsOf, returnsOf, List.count_erase_self]
      omega
    · simp [waitsOf, returnsOf, List.count_erase_of_ne (Ne.symm heq), heq]

/-- A delivery is refused if there was one before, and then nothing changes. -/
theorem Shared.Step.refused {s s' : Shared} {d : Delivery} {reply : Except Failure Unit}
    (h : s.Step (.delivers d reply) s') (hdone : s.completion.done = true) :
    reply = .error repeatedDelivery ∧ s' = s := by
  obtain ⟨⟨first⟩, waiting⟩ := s
  cases first with
  | none => cases hdone
  | some first =>
    cases h
    exact ⟨rfl, rfl⟩

/-! ### Runs -/

namespace Shared.Run

variable {s s' : Shared} {history : List Happening}

theorem first (h : Run s history s') :
    s'.completion.first = s.completion.first.or (deliveries history).head? := by
  induction h with
  | nil s => cases s.completion.first <;> rfl
  | @cons s s₁ s₂ e history head tail ih =>
    rw [ih, head.first]
    cases s.completion.first with
    | some d => rfl
    | none =>
      cases hdelivery : e.delivery? <;> simp [deliveries, hdelivery]

theorem count_waiting (h : Run s history s') (who : Nat) :
    s.waiting.count who + waitsOf who history =
      s'.waiting.count who + returnsOf who history := by
  induction h with
  | nil s => rfl
  | @cons s s₁ s₂ e history head tail ih =>
    have hhead := head.count_waiting who
    have hwaits : waitsOf who ([e] ++ history) = waitsOf who [e] + waitsOf who history :=
      List.countP_append
    have hreturns : returnsOf who ([e] ++ history) = returnsOf who [e] + returnsOf who history :=
      List.countP_append
    rw [List.singleton_append] at hwaits hreturns
    omega

/-- At any point of a run there is a state between what has happened and what has not. -/
theorem split {past rest : List Happening} (h : Run s (past ++ rest) s') :
    ∃ now, Run s past now ∧ Run now rest s' := by
  induction past generalizing s with
  | nil => exact ⟨s, .nil s, h⟩
  | cons e past ih =>
    cases h with
    | cons head tail =>
      obtain ⟨now, hpast, hrest⟩ := ih tail
      exact ⟨now, .cons head hpast, hrest⟩

/-- From the beginning a completion holds the first delivery. -/
theorem first_of_start (h : Run {} history s) :
    s.completion.first = (deliveries history).head? := by
  rw [h.first, Option.none_or]

theorem done_iff (h : Run {} history s) :
    s.completion.done = true ↔ deliveries history ≠ [] := by
  rw [Completion.done, h.first_of_start, List.isSome_head?]

/-- Whatever the order in which results are delivered and waits begin and end at a completion: it is
    done as soon as there was a delivery, and stays so. The first delivery succeeds, every other one
    fails, and then it changes nothing. Nobody goes on before the first delivery; from then on
    everybody who waits can go on, and does so with what the first delivery means. No wait is
    lost. -/
theorem oneShot (h : Run {} history s) :
    (s.completion.done = true ↔ ∃ d reply, Happening.delivers d reply ∈ history) ∧
    (∀ more s', Run s more s' → s.completion.done = true → s'.completion.done = true) ∧
    (∀ past d reply rest, history = past ++ .delivers d reply :: rest →
      reply = if deliveries past = [] then .ok ()
        else .error ⟨.highlight, "Highlight callback was invoked more than once.".toList⟩) ∧
    (∀ d reply s', s.completion.done = true → s.Step (.delivers d reply) s' → s' = s) ∧
    (∀ past who outcome rest, history = past ++ .goesOn who outcome :: rest →
      ∃ d, (deliveries past).head? = some d ∧ d.Means outcome) ∧
    (∀ who ∈ s.waiting, s.completion.done = true →
      ∃ outcome s', s.Step (.goesOn who outcome) s') ∧
    ∀ who, waitsOf who history = s.waiting.count who + returnsOf who history := by
  refine ⟨?_, ?_, ?_, ?_, ?_, ?_, ?_⟩
  · rw [h.done_iff, List.ne_nil_iff_exists_cons]
    constructor
    · rintro ⟨d, more, hcons⟩
      have hmem : d ∈ deliveries history := hcons ▸ List.mem_cons_self
      obtain ⟨e, he, hdelivery⟩ := List.mem_filterMap.1 hmem
      cases e with
      | delivers d' reply => exact ⟨d', reply, he⟩
      | waits who => cases hdelivery
      | goesOn who outcome => cases hdelivery
    · rintro ⟨d, reply, he⟩
      have hmem : d ∈ deliveries history := List.mem_filterMap.2 ⟨_, he, rfl⟩
      exact List.ne_nil_iff_exists_cons.1 (List.ne_nil_of_mem hmem)
  · intro more s' hmore hdone
    obtain ⟨d, hd⟩ := Option.isSome_iff_exists.1 hdone
    rw [Completion.done, hmore.first, hd]
    rfl
  · rintro past d reply rest rfl
    obtain ⟨now, hpast, hrest⟩ := h.split
    cases hrest with
    | cons head tail =>
      split
      · rename_i hnone
        have hfirst : now.completion.first = none := by rw [hpast.first_of_start, hnone]; rfl
        cases head
        simp [Completion.deliver, hfirst]
      · rename_i hsome
        exact (head.refused (hpast.done_iff.2 hsome)).1
  · intro d reply s' hdone hstep
    exact (hstep.refused hdone).2
  · rintro past who outcome rest rfl
    obtain ⟨now, hpast, hrest⟩ := h.split
    cases hrest with
    | cons head tail =>
      cases head with
      | goesOn hwho houtcome =>
        obtain ⟨d, hd, rfl⟩ := Option.map_eq_some_iff.1 houtcome
        exact ⟨d, hpast.first_of_start.symm.trans hd, d.means_outcome⟩
  · intro who hwho hdone
    obtain ⟨d, hd⟩ := Option.isSome_iff_exists.1 hdone
    exact ⟨d.outcome, _, .goesOn hwho (by rw [Completion.wait, hd]; rfl)⟩
  · intro who
    have hcount := h.count_waiting who
    rwa [List.count_nil, Nat.zero_add] at hcount

/-- One waits before the first delivery and one after a second one, which is refused; both go on
    with the failure that came first, and not with the code that came along with it. -/
theorem oneShot_refused :
    let e : Failure := ⟨.unavailable, "Gone.".toList⟩
    let first : Delivery := ⟨some e, some "<b>".toList⟩
    let late : Delivery := ⟨none, some "<i>".toList⟩
    let past : List Happening := [.waits 1, .delivers first (.ok ()),
      .delivers late (.error repeatedDelivery), .waits 2, .goesOn 2 (.error e)]
    Run {} (past ++ [.goesOn 1 (.error e)]) ⟨⟨some first⟩, []⟩ ∧
      (deliveries past).head? = some first ∧ first.Means (.error e) := by
  intro e first late past
  have hrun : Run {} (past ++ [.goesOn 1 (.error e)]) ⟨⟨some first⟩, []⟩ :=
    .cons (.waits _ 1) <| .cons (.delivers _ first) <| .cons (.delivers _ late) <|
      .cons (.waits _ 2) <| .cons (.goesOn (by simp) rfl) <| .cons (.goesOn (by simp) rfl) (.nil _)
  obtain ⟨-, -, -, -, houtcome, -⟩ := oneShot hrun
  obtain ⟨d, hd, hmeans⟩ := houtcome past 1 (.error e) [] rfl
  obtain rfl : first = d := Option.some.inj hd
  exact ⟨hrun, hd, hmeans⟩

end Shared.Run

end Docpress.Highlight
