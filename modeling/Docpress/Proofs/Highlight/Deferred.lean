import Docpress.Proofs.Highlight.Loading
import Mathlib.Logic.Relation
/-!
Deferred work step by step. The caller's thread and the one that delivers go on in any order, and
whatever the order is, the caller gets one and the same answer.
-/

namespace Docpress.Highlight

/-! ### Deliveries -/

namespace Completion

variable {c : Completion} {d : Delivery} {e : Failure}

/-- A delivery that is taken is the first one. -/
theorem deliver_of_ok (h : (c.deliver d).1 = .ok ()) :
    c.first = none ∧ c.deliver d = (.ok (), ⟨some d⟩) := by
  obtain ⟨first⟩ := c
  cases first with
  | none => exact ⟨rfl, rfl⟩
  | some first => cases h

/-- A delivery that is refused changes nothing. -/
theorem deliver_of_error (h : (c.deliver d).1 = .error e) :
    c.first.isSome = true ∧ c.deliver d = (.error e, c) := by
  obtain ⟨first⟩ := c
  cases first with
  | none => cases h
  | some first =>
    cases h
    exact ⟨rfl, rfl⟩

/-- Of deliveries in order the first is taken, unless there was one before. -/
theorem first_deliverAll (c : Completion) (deliveries : List Delivery) :
    (c.deliverAll deliveries).2.first = c.first.or deliveries.head? := by
  induction deliveries generalizing c with
  | nil => simp [deliverAll]
  | cons d rest ih =>
    obtain ⟨first⟩ := c
    cases first with
    | none =>
      change (Completion.deliverAll ⟨some d⟩ rest).2.first = some d
      rw [ih]
      rfl
    | some first => rfl

/-- Of deliveries in order the second one is refused. -/
theorem fst_deliverAll (deliveries : List Delivery) :
    (Completion.deliverAll {} deliveries).1 =
      if 2 ≤ deliveries.length then some repeatedDelivery else none :=
  match deliveries with
  | [] => rfl
  | [_] => rfl
  | _ :: _ :: rest => (if_pos (Nat.le_add_left 2 rest.length)).symm

end Completion

/-! ### The course of a call -/

/-- Where the caller of deferred work is: in the backend, which has still to make some deliveries in
    the caller's thread and may then fail; at the wait; or past it, with what came of the work. -/
inductive Caller where
  | works (todo : List Delivery) (failure : Option Failure)
  | waits
  | ends (said : Except Failure Text)

/-- A call of deferred work on its course: where the caller is, the deliveries that a thread of its
    own has still to make, the completion, and all deliveries so far with how they went. -/
structure DeferredCall where
  caller : Caller
  thread : List Delivery
  completion : Completion := {}
  calls : List (Delivery × Except Failure Unit) := []

/-- The beginning of a call. -/
def DeferredWork.start (w : DeferredWork) : DeferredCall :=
  if w.threaded then { caller := .works [] w.failure, thread := w.deliveries }
  else { caller := .works w.deliveries w.failure, thread := [] }

namespace DeferredCall

/-- One thing happens: the backend or the thread delivers, the backend returns or fails, or the
    caller stops waiting. The failure of a delivery ends the backend, or the thread, at once. -/
inductive Step : DeferredCall → DeferredCall → Prop where
  | delivers {d todo failure thread calls} {completion : Completion}
      (h : (completion.deliver d).1 = .ok ()) :
      Step ⟨.works (d :: todo) failure, thread, completion, calls⟩
        ⟨.works todo failure, thread, (completion.deliver d).2, calls ++ [(d, .ok ())]⟩
  | refused {d todo failure thread calls e} {completion : Completion}
      (h : (completion.deliver d).1 = .error e) :
      Step ⟨.works (d :: todo) failure, thread, completion, calls⟩
        ⟨.ends (.error e), thread, (completion.deliver d).2, calls ++ [(d, .error e)]⟩
  | fails {e thread completion calls} :
      Step ⟨.works [] (some e), thread, completion, calls⟩
        ⟨.ends (.error e), thread, completion, calls⟩
  | returns {thread completion calls} :
      Step ⟨.works [] none, thread, completion, calls⟩ ⟨.waits, thread, completion, calls⟩
  | goesOn {thread calls said} {completion : Completion} (h : completion.wait = some said) :
      Step ⟨.waits, thread, completion, calls⟩ ⟨.ends said, thread, completion, calls⟩
  | threadDelivers {caller d rest calls} {completion : Completion}
      (h : (completion.deliver d).1 = .ok ()) :
      Step ⟨caller, d :: rest, completion, calls⟩
        ⟨caller, rest, (completion.deliver d).2, calls ++ [(d, .ok ())]⟩
  | threadStops {caller d rest calls e} {completion : Completion}
      (h : (completion.deliver d).1 = .error e) :
      Step ⟨caller, d :: rest, completion, calls⟩
        ⟨caller, [], (completion.deliver d).2, calls ++ [(d, .error e)]⟩

/-- Things happen one after another, in any order that the steps allow. -/
abbrev Reaches : DeferredCall → DeferredCall → Prop :=
  Relation.ReflTransGen Step

/-- How much is left to be done. -/
def left (c : DeferredCall) : Nat :=
  c.thread.length + match c.caller with
    | .works todo _ => todo.length + 2
    | .waits => 1
    | .ends _ => 0

/-- The outcome of the first delivery, made already or by the thread, if there is one. -/
def awaited (thread : List Delivery) (completion : Completion) : Option (Except Failure Text) :=
  (completion.first.or thread.head?).map Delivery.outcome

/-- The outcome that a call comes to; none if the caller will wait for ever. -/
def outcome (c : DeferredCall) : Option (Except Failure Text) :=
  match c.caller with
  | .works todo failure =>
    match (c.completion.deliverAll todo).1.or failure with
    | some e => some (.error e)
    | none => awaited c.thread (c.completion.deliverAll todo).2
  | .waits => awaited c.thread c.completion
  | .ends said => some said

/-- Not both threads make deliveries. -/
def IsApart (c : DeferredCall) : Prop :=
  ∀ todo failure, c.caller = .works todo failure → todo = [] ∨ c.thread = []

variable {c c' : DeferredCall} {w : DeferredWork}

theorem start_isApart (w : DeferredWork) : w.start.IsApart := by
  rintro todo failure h
  unfold DeferredWork.start at h ⊢
  cases hthreaded : w.threaded with
  | true =>
    rw [hthreaded, if_pos rfl] at h
    cases h
    exact .inl rfl
  | false => exact .inr rfl

/-- What a call comes to at its beginning is the outcome of the work. -/
theorem outcome_start (w : DeferredWork) : w.start.outcome = w.outcome := by
  have hawaited : awaited [] (Completion.deliverAll {} w.deliveries).2 =
      (Completion.deliverAll {} w.deliveries).2.wait := by
    simp [awaited, Completion.wait]
  have hthread : awaited w.deliveries {} = (Completion.deliverAll {} w.deliveries).2.wait := by
    simp [awaited, Completion.wait, Completion.first_deliverAll]
  unfold DeferredWork.outcome DeferredWork.start
  cases w.threaded <;> cases hfailure : w.failure <;>
    simp only [outcome, Completion.deliverAll, hawaited, hthread, if_true, if_false,
      Bool.false_eq_true, Option.or_none, Option.none_or]
  · cases (Completion.deliverAll {} w.deliveries).1 <;> rfl
  · cases (Completion.deliverAll {} w.deliveries).1 <;> rfl

/-! ### One step -/

theorem Step.isApart (h : c.Step c') (hc : c.IsApart) : c'.IsApart := by
  rintro todo failure hcaller
  cases h with
  | @delivers d todo =>
    cases hcaller
    exact (hc _ _ rfl).resolve_left (List.cons_ne_nil _ _) ▸ .inr rfl
  | refused h => cases hcaller
  | fails => cases hcaller
  | returns => cases hcaller
  | goesOn h => cases hcaller
  | threadDelivers h =>
    cases hcaller
    exact .inl ((hc _ _ rfl).resolve_right (List.cons_ne_nil _ _))
  | threadStops h => exact .inr rfl

/-- The thread's delivery that is taken is the one that is waited for. -/
theorem awaited_of_ok {completion : Completion} {d : Delivery}
    (h : (completion.deliver d).1 = .ok ()) (rest : List Delivery) :
    awaited rest (completion.deliver d).2 = awaited (d :: rest) completion := by
  obtain ⟨hnone, hdeliver⟩ := Completion.deliver_of_ok h
  simp [awaited, hdeliver, hnone]

/-- A refused one comes after the delivery that is waited for. -/
theorem awaited_of_error {completion : Completion} {d : Delivery} {e : Failure}
    (h : (completion.deliver d).1 = .error e) (rest : List Delivery) :
    awaited [] (completion.deliver d).2 = awaited (d :: rest) completion := by
  obtain ⟨hsome, hdeliver⟩ := Completion.deliver_of_error h
  obtain ⟨first, hfirst⟩ := Option.isSome_iff_exists.1 hsome
  simp [awaited, hdeliver, hfirst]

/-- While the thread delivers, the backend does not, so only what is waited for matters. -/
theorem outcome_thread {caller : Caller} {d : Delivery} {rest thread : List Delivery}
    {completion completion' : Completion} {calls calls' : List (Delivery × Except Failure Unit)}
    (hapart : IsApart ⟨caller, d :: rest, completion, calls⟩)
    (h : awaited thread completion' = awaited (d :: rest) completion) :
    outcome ⟨caller, thread, completion', calls'⟩ =
      outcome ⟨caller, d :: rest, completion, calls⟩ := by
  cases caller with
  | works todo failure =>
    obtain rfl := (hapart _ _ rfl).resolve_right (List.cons_ne_nil _ _)
    simp only [outcome, Completion.deliverAll, h]
  | waits => exact h
  | ends said => rfl

/-- Whatever happens next, a call comes to the same outcome. -/
theorem Step.outcome_eq (h : c.Step c') (hc : c.IsApart) : c'.outcome = c.outcome := by
  cases h with
  | delivers h =>
    obtain ⟨-, hdeliver⟩ := Completion.deliver_of_ok h
    simp only [outcome, Completion.deliverAll, hdeliver]
  | refused h =>
    obtain ⟨-, hdeliver⟩ := Completion.deliver_of_error h
    simp only [outcome, Completion.deliverAll, hdeliver, Option.some_or]
  | fails => rfl
  | returns => rfl
  | goesOn h =>
    obtain ⟨first, hfirst, rfl⟩ := Option.map_eq_some_iff.1 h
    simp only [outcome, awaited, hfirst, Option.some_or, Option.map_some]
  | threadDelivers h => exact outcome_thread hc (awaited_of_ok h _)
  | threadStops h => exact outcome_thread hc (awaited_of_error h _)

/-- Each step leaves less to be done. -/
theorem Step.left_lt (h : c.Step c') : c'.left < c.left := by
  cases h <;> simp only [left, List.length_cons, List.length_nil] <;> omega

/-- A call that comes to an outcome goes on until its caller has it. -/
theorem exists_step (houtcome : c.outcome.isSome = true) :
    (∃ c', c.Step c') ∨ ∃ said, c.caller = .ends said := by
  obtain ⟨caller, thread, completion, calls⟩ := c
  cases caller with
  | works todo failure =>
    left
    cases todo with
    | nil =>
      cases failure with
      | none => exact ⟨_, .returns⟩
      | some e => exact ⟨_, .fails⟩
    | cons d todo =>
      cases hdeliver : (completion.deliver d).1 with
      | ok => exact ⟨_, .delivers hdeliver⟩
      | error e => exact ⟨_, .refused hdeliver⟩
  | waits =>
    left
    cases hwait : completion.wait with
    | some said => exact ⟨_, .goesOn hwait⟩
    | none =>
      cases thread with
      | nil =>
        have hnone : completion.first = none := Option.map_eq_none_iff.1 hwait
        simp [outcome, awaited, hnone] at houtcome
      | cons d rest =>
        cases hdeliver : (completion.deliver d).1 with
        | ok => exact ⟨_, .threadDelivers hdeliver⟩
        | error e => exact ⟨_, .threadStops hdeliver⟩
  | ends said => exact .inr ⟨said, rfl⟩

/-! ### Whole calls -/

theorem Reaches.outcome_eq (h : w.start.Reaches c) : c.outcome = w.outcome ∧ c.IsApart := by
  induction h with
  | refl => exact ⟨outcome_start w, start_isApart w⟩
  | tail _ hstep ih =>
    obtain ⟨houtcome, hapart⟩ := ih
    exact ⟨(hstep.outcome_eq hapart).trans houtcome, hstep.isApart hapart⟩

/-! ### One delivery by a thread -/

/-- How far a call can be whose thread makes one delivery: before it the caller has no outcome, and
    after it nothing is left but to go on with its outcome. -/
inductive MakesOne (d : Delivery) : DeferredCall → Prop where
  | before {caller : Caller} (hcaller : caller = .works [] none ∨ caller = .waits) :
      MakesOne d ⟨caller, [d], {}, []⟩
  | after {caller : Caller}
      (hcaller : caller = .works [] none ∨ caller = .waits ∨ caller = .ends d.outcome) :
      MakesOne d ⟨caller, [], ⟨some d⟩, [(d, .ok ())]⟩

theorem MakesOne.step {d : Delivery} (h : MakesOne d c) (hstep : c.Step c') : MakesOne d c' := by
  cases h with
  | before hcaller =>
    rcases hcaller with rfl | rfl
    · cases hstep with
      | returns => exact .before (.inr rfl)
      | threadDelivers h => exact .after (.inl rfl)
      | threadStops h => cases h
    · cases hstep with
      | goesOn h => cases h
      | threadDelivers h => exact .after (.inr (.inl rfl))
      | threadStops h => cases h
  | after hcaller =>
    rcases hcaller with rfl | rfl | rfl
    · cases hstep
      exact .after (.inr (.inl rfl))
    · cases hstep with
      | goesOn h =>
        cases h
        exact .after (.inr (.inr rfl))
    · cases hstep

theorem MakesOne.exists_step {d : Delivery} (h : MakesOne d c) :
    (∃ c', c.Step c') ∨ c.caller = .ends d.outcome ∧ c.calls = [(d, .ok ())] := by
  cases h with
  | before hcaller => exact .inl ⟨_, .threadDelivers rfl⟩
  | after hcaller =>
    rcases hcaller with rfl | rfl | rfl
    · exact .inl ⟨_, .returns⟩
    · exact .inl ⟨_, .goesOn rfl⟩
    · exact .inr ⟨rfl, rfl⟩

end DeferredCall

/-- In whatever order the threads go on, a call of the work comes to its end, with this outcome and
    after one delivery. -/
def DeferredWork.CompletesOnce (w : DeferredWork) (d : Delivery) : Prop :=
  ∀ c, w.start.Reaches c → (∀ c', c.Step c' → c'.left < c.left) ∧
    ((∃ c', c.Step c') ∨ c.caller = .ends d.outcome ∧ c.calls = [(d, .ok ())])

theorem programWork_completesOnce (outcome : Except Failure Finished) :
    (programWork outcome).CompletesOnce (programDelivery outcome) := by
  intro c hrun
  have hone : DeferredCall.MakesOne (programDelivery outcome) c := by
    induction hrun with
    | refl => exact .before (.inl rfl)
    | tail _ hstep ih => exact ih.step hstep
  exact ⟨fun c' hstep => hstep.left_lt, hone.exists_step⟩

/-- What the caller of deferred work gets when all goes on as it must. -/
theorem DeferredWork.outcome_eq (w : DeferredWork) :
    w.outcome =
      match (if w.threaded = false ∧ 2 ≤ w.deliveries.length then some repeatedDelivery
        else w.failure) with
      | some e => some (.error e)
      | none => w.deliveries.head?.map Delivery.outcome := by
  have hwait : (Completion.deliverAll {} w.deliveries).2.wait =
      w.deliveries.head?.map Delivery.outcome := by
    rw [Completion.wait, Completion.first_deliverAll, Option.none_or]
  unfold DeferredWork.outcome
  cases w.threaded with
  | true => cases w.failure <;> simp [hwait]
  | false =>
    by_cases hmany : 2 ≤ w.deliveries.length
    · simp [Completion.fst_deliverAll, hmany]
    · cases w.failure <;> simp [Completion.fst_deliverAll, hmany, hwait]

/-! ### Answers -/

/-- The answer that a highlighter with a loaded backend has for a block, from what its backend does
    about the block. In all cases the state is as it was. -/
inductive DeferredWork.Gives (w : DeferredWork) (s : LoadState) (language : Text) : Answer → Prop
  /-- A second delivery in the caller's thread counts more than anything else. -/
  | misused (hthread : w.threaded = false) (hmany : 2 ≤ w.deliveries.length) :
      w.Gives s language { result := .ok (some []), state := s, asked := true, logs := [blockReport
        language ⟨.highlight, "Highlight callback was invoked more than once.".toList⟩] }
  | fails {e : Failure} (hused : w.threaded = true ∨ w.deliveries.length < 2)
      (hfailure : w.failure = some e) (he : e.kind.isHighlight = true) :
      w.Gives s language
        { result := .ok (some []), state := s, asked := true, logs := [blockReport language e] }
  | breaks {e : Failure} (hused : w.threaded = true ∨ w.deliveries.length < 2)
      (hfailure : w.failure = some e) (he : e.kind.isHighlight = false) :
      w.Gives s language { result := .error e, state := s, asked := true, logs := [] }
  /-- An error is reported with its text, whatever it is about and whatever comes with it. -/
  | failed {e : Failure} {html : Option Text} (hused : w.threaded = true ∨ w.deliveries.length < 2)
      (hfailure : w.failure = none) (hfirst : w.deliveries.head? = some ⟨some e, html⟩) :
      w.Gives s language
        { result := .ok (some []), state := s, asked := true, logs := [blockReport language e] }
  | highlighted {html : Option Text} (hused : w.threaded = true ∨ w.deliveries.length < 2)
      (hfailure : w.failure = none) (hfirst : w.deliveries.head? = some ⟨none, html⟩) :
      w.Gives s language
        { result := .ok (some (html.getD [])), state := s, asked := true, logs := [] }

/-- What the outcome of deferred work means to the highlighter. -/
theorem DeferredWork.gives_receive {w : DeferredWork} {said : Except Failure Text}
    (h : w.outcome = some said) (s : LoadState) (language : Text) :
    w.Gives s language (s.receive language (said.map some)) := by
  have hreport {e : Failure} (he : e.kind.isHighlight = true) :
      s.receive language ((Except.error e : Except Failure Text).map some) =
        { result := .ok (some []), state := s, asked := true, logs := [blockReport language e] } := by
    simp only [Except.map, LoadState.receive, he, if_true]
  rw [w.outcome_eq] at h
  by_cases hmisused : w.threaded = false ∧ 2 ≤ w.deliveries.length
  · rw [if_pos hmisused] at h
    cases h
    rw [hreport rfl]
    exact .misused hmisused.1 hmisused.2
  · have hused : w.threaded = true ∨ w.deliveries.length < 2 := by
      rw [Decidable.not_and_iff_not_or_not, Bool.not_eq_false, Nat.not_le] at hmisused
      exact hmisused
    rw [if_neg hmisused] at h
    cases hfailure : w.failure with
    | some e =>
      rw [hfailure] at h
      cases h
      cases he : e.kind.isHighlight with
      | true =>
        rw [hreport he]
        exact .fails hused hfailure he
      | false =>
        have hpassed : s.receive language ((Except.error e : Except Failure Text).map some) =
            { result := .error e, state := s, asked := true, logs := [] } := by
          simp only [Except.map, LoadState.receive, he, Bool.false_eq_true, if_false]
        rw [hpassed]
        exact .breaks hused hfailure he
    | none =>
      rw [hfailure] at h
      obtain ⟨⟨error, html⟩, hfirst, rfl⟩ := Option.map_eq_some_iff.1 h
      cases error with
      | none => exact .highlighted hused hfailure hfirst
      | some e =>
        have hkind : (if e.kind.isHighlight then e else ⟨.highlight, e.message⟩).kind.isHighlight =
            true := by
          split
          · assumption
          · rfl
        have htext : blockReport language
            (if e.kind.isHighlight then e else ⟨.highlight, e.message⟩) = blockReport language e := by
          split <;> rfl
        rw [Delivery.outcome, hreport hkind, htext]
        exact .failed hused hfailure hfirst

/-- A block that is given to a loaded backend which reports through deliveries, in the caller's
    thread or in another one, in whatever order the threads go on: the call comes to an end unless
    there is neither a delivery nor a failure, and the answer is the one that the work gives. -/
theorem DeferredWork.gives_of_reaches {s : LoadState} (hloaded : s.loaded = true)
    (henabled : s.disabled = false) (loader : Nat → Except Failure Unit) (language : Text)
    {w : DeferredWork} {c : DeferredCall} (hrun : w.start.Reaches c) :
    (∀ c', c.Step c' → c'.left < c.left) ∧
    (w.deliveries ≠ [] ∨ w.failure ≠ none →
      (∃ c', c.Step c') ∨ ∃ said, c.caller = .ends said) ∧
    ∀ said, c.caller = .ends said → w.Gives s language (s.ask loader language (said.map some)) := by
  obtain ⟨houtcome, -⟩ := DeferredCall.Reaches.outcome_eq hrun
  refine ⟨fun c' hstep => hstep.left_lt, fun hends => ?_, fun said hsaid => ?_⟩
  · apply DeferredCall.exists_step
    rw [houtcome, w.outcome_eq]
    split
    · rfl
    · rename_i hnone
      have hfailure : w.failure = none := by
        split at hnone
        · cases hnone
        · exact hnone
      obtain ⟨d, rest, hcons⟩ :=
        List.exists_cons_of_ne_nil (hends.resolve_right (not_not_intro hfailure))
      rw [hcons]
      rfl
  · have hask : s.ask loader language (said.map some) = s.receive language (said.map some) := by
      simp only [LoadState.ask, henabled, hloaded, Bool.false_eq_true, if_false, if_true]
    rw [hask]
    apply DeferredWork.gives_receive
    rw [← houtcome, DeferredCall.outcome, hsaid]

/-- A thread delivers an error, and a second result before the caller has waited: the error's text
    is reported. -/
theorem DeferredWork.gives_of_reaches_late :
    let e : Failure := ⟨.value, "No colours.".toList⟩
    let w : DeferredWork :=
      { deliveries := [⟨some e, some "<b>".toList⟩, ⟨none, some "<i>".toList⟩], threaded := true
        failure := none }
    let s : LoadState := { loads := 1, loaded := true }
    let said : Except Failure Text := .error ⟨.highlight, e.message⟩
    ∃ c, w.start.Reaches c ∧ c.caller = .ends said ∧
      w.Gives s [] (s.ask (fun _ => .ok ()) [] (said.map some)) := by
  intro e w s said
  have hrun : w.start.Reaches ⟨.ends said, [], ⟨some ⟨some e, some "<b>".toList⟩⟩,
      [(⟨some e, some "<b>".toList⟩, .ok ()),
        (⟨none, some "<i>".toList⟩, .error repeatedDelivery)]⟩ :=
    .head (.threadDelivers rfl) <| .head (.threadStops rfl) <| .head .returns <|
      .single (.goesOn rfl)
  exact ⟨_, hrun, rfl,
    (DeferredWork.gives_of_reaches rfl rfl (fun _ => .ok ()) [] hrun).2.2 _ rfl⟩

end Docpress.Highlight
