import Docpress.Proofs.Yaml.Cursor
import Docpress.Yaml.Scanner
/-!
Tokens are handed on as soon as they are certain, while later ones are still to be found. What is
found does not depend on what was handed on: the tokens of a document are those that wait in the end
if none is handed on before.
-/

namespace Docpress.Yaml.Scanner

/-- The state before a token was taken. -/
def untake (t : Token) (s : Scanner) : Scanner :=
  { s with waiting := t :: s.waiting, taken := s.taken - 1 }

/-- The tokens that may still turn out to be keys have not been taken. -/
def KeysWait (s : Scanner) : Prop :=
  ∀ entry ∈ s.keys, s.taken ≤ entry.2.number

/-- A step that takes no tokens, and that does the same if fewer of them were taken before. -/
structure Oblivious (step : Scanner → Except Fault Scanner) : Prop where
  untake : ∀ s t, 0 < s.taken → s.KeysWait → step (s.untake t) = (step s).map (untake t)
  keeps : ∀ s s', s.KeysWait → step s = .ok s' → s'.taken = s.taken ∧ s'.KeysWait

/-! ### Single steps -/

section Fields

variable (t : Token) (s : Scanner)

@[simp] theorem untake_cursor : (s.untake t).cursor = s.cursor := rfl

@[simp] theorem untake_mark : (s.untake t).mark = s.mark := rfl

@[simp] theorem untake_depth : (s.untake t).depth = s.depth := rfl

@[simp] theorem untake_inFlow : (s.untake t).inFlow = s.inFlow := rfl

@[simp] theorem untake_indent : (s.untake t).indent = s.indent := rfl

@[simp] theorem untake_outer : (s.untake t).outer = s.outer := rfl

@[simp] theorem untake_keyAllowed : (s.untake t).keyAllowed = s.keyAllowed := rfl

@[simp] theorem untake_keys : (s.untake t).keys = s.keys := rfl

end Fields

namespace Oblivious

variable {step step' : Scanner → Except Fault Scanner}

theorem bind (h : Oblivious step) (h' : Oblivious step') : Oblivious fun s => step s >>= step' := by
  refine ⟨fun s t htaken hkeys => ?_, fun s s'' hkeys hrun => ?_⟩
  · rw [h.untake s t htaken hkeys]
    cases hstep : step s with
    | error e => rfl
    | ok s' =>
      obtain ⟨htaken', hkeys'⟩ := h.keeps s s' hkeys hstep
      exact h'.untake s' t (htaken' ▸ htaken) hkeys'
  · cases hstep : step s with
    | error e =>
      rw [hstep] at hrun
      cases hrun
    | ok s' =>
      rw [hstep] at hrun
      obtain ⟨htaken', hkeys'⟩ := h.keeps s s' hkeys hstep
      obtain ⟨htaken'', hkeys''⟩ := h'.keeps s' s'' hkeys' hrun
      exact ⟨htaken''.trans htaken', hkeys''⟩

theorem ite (p : Scanner → Bool) (hp : ∀ s t, p (s.untake t) = p s) (h : Oblivious step)
    (h' : Oblivious step') : Oblivious fun s => if p s then step s else step' s := by
  refine ⟨fun s t htaken hkeys => ?_, fun s s' hkeys hrun => ?_⟩
  · simp only [hp]
    split
    · exact h.untake s t htaken hkeys
    · exact h'.untake s t htaken hkeys
  · split at hrun
    · exact h.keeps s s' hkeys hrun
    · exact h'.keeps s s' hkeys hrun

theorem error {e : Scanner → Fault} (he : ∀ s t, e (s.untake t) = e s) :
    Oblivious fun s => .error (e s) := by
  refine ⟨fun s t _ _ => ?_, fun _ _ _ h => by cases h⟩
  rw [he]
  rfl

/-- A step that cannot fail, and that saves no key. -/
theorem of_pure (f : Scanner → Scanner) (huntake : ∀ s t, f (s.untake t) = (f s).untake t)
    (htaken : ∀ s, (f s).taken = s.taken) (hkeys : ∀ s, (f s).keys ⊆ s.keys) :
    Oblivious fun s => .ok (f s) := by
  refine ⟨fun s t _ _ => congrArg Except.ok (huntake s t), ?_⟩
  rintro s _ hwait ⟨⟩
  refine ⟨htaken s, fun entry hentry => ?_⟩
  rw [htaken]
  exact hwait entry (hkeys s hentry)

/-- A step that reads from the document. -/
theorem of_run {α : Type} (r : Scanner → Reader α) (f : α → Scanner → Scanner)
    (hread : ∀ s t, r (s.untake t) = r s)
    (huntake : ∀ a s t, f a (s.untake t) = (f a s).untake t)
    (htaken : ∀ a s, (f a s).taken = s.taken) (hkeys : ∀ a s, (f a s).keys ⊆ s.keys) :
    Oblivious fun s => s.run (r s) >>= fun (a, s) => .ok (f a s) := by
  refine ⟨fun s t _ _ => ?_, fun s s' hwait hrun => ?_⟩
  · simp only [hread, run, untake_cursor]
    cases r s s.cursor with
    | error e => rfl
    | ok found => exact congrArg Except.ok (huntake found.1 { s with cursor := found.2 } t)
  · simp only [run] at hrun
    cases hfound : r s s.cursor with
    | error e =>
      rw [hfound] at hrun
      cases hrun
    | ok found =>
      rw [hfound] at hrun
      cases hrun
      refine ⟨htaken found.1 _, fun entry hentry => ?_⟩
      rw [htaken]
      exact hwait entry (hkeys found.1 { s with cursor := found.2 } hentry)

end Oblivious

/-! ### Parts of steps -/

theorem dropKey_oblivious : Oblivious dropKey := by
  refine ⟨fun s t _ _ => ?_, fun s s' hwait h => ?_⟩
  · unfold dropKey
    simp only [untake_keys, untake_depth]
    cases s.keys.lookup s.depth with
    | none => rfl
    | some key => cases hrequired : key.required <;> simp only [hrequired] <;> rfl
  · unfold dropKey at h
    split at h
    · split at h
      · cases h
      · cases h
        exact ⟨rfl, fun entry hentry => hwait entry (List.mem_filter.1 hentry).1⟩
    · cases h
      exact ⟨rfl, hwait⟩

theorem dropStale_oblivious : Oblivious dropStale := by
  refine ⟨fun s t _ _ => ?_, fun s s' hwait h => ?_⟩
  · have hstale : (s.untake t).isStale = s.isStale := rfl
    unfold dropStale
    simp only [untake_keys, hstale]
    cases s.keys.find? fun entry => s.isStale entry.2 && entry.2.required <;> rfl
  · unfold dropStale at h
    split at h
    · cases h
    · cases h
      exact ⟨rfl, fun entry hentry => hwait entry (List.mem_filter.1 hentry).1⟩

theorem saveKey_oblivious : Oblivious saveKey := by
  refine ⟨fun s t htaken hwait => ?_, fun s s' hwait h => ?_⟩
  · have hnumber : (s.untake t).taken + (s.untake t).waiting.length =
        s.taken + s.waiting.length := by
      simp only [untake, List.length_cons]
      omega
    unfold saveKey
    rw [dropKey_oblivious.untake s t htaken hwait, hnumber, untake_keyAllowed]
    cases hallowed : s.keyAllowed with
    | false => rfl
    | true => cases s.dropKey <;> rfl
  · unfold saveKey at h
    split at h
    · cases h
      exact ⟨rfl, hwait⟩
    · cases hdrop : s.dropKey with
      | error e =>
        rw [hdrop] at h
        cases h
      | ok cleared =>
        rw [hdrop] at h
        cases h
        obtain ⟨htaken, hkeys⟩ := dropKey_oblivious.keeps s cleared hwait hdrop
        refine ⟨htaken, fun entry hentry => ?_⟩
        rcases List.mem_append.1 hentry with hentry | hentry
        · exact hkeys entry hentry
        · rw [List.mem_singleton.1 hentry]
          change cleared.taken ≤ s.taken + s.waiting.length
          omega

theorem unwindTo_untake (column : Int) (outer : List Int) (s : Scanner) (t : Token) :
    unwindTo column outer (s.untake t) = (unwindTo column outer s).untake t := by
  induction outer generalizing s with
  | nil => rfl
  | cons before outer ih =>
    rw [unwindTo, unwindTo]
    by_cases hcolumn : column < s.indent
    · rw [if_pos hcolumn, if_pos (show column < (s.untake t).indent from hcolumn)]
      exact ih ({ s with indent := before, outer }.emitHere .blockEnd)
    · rw [if_neg hcolumn, if_neg (show ¬ column < (s.untake t).indent from hcolumn)]

theorem unwindTo_taken (column : Int) (outer : List Int) (s : Scanner) :
    (unwindTo column outer s).taken = s.taken ∧ (unwindTo column outer s).keys = s.keys := by
  induction outer generalizing s with
  | nil => exact ⟨rfl, rfl⟩
  | cons before outer ih =>
    simp only [unwindTo]
    split
    · exact ih _
    · exact ⟨rfl, rfl⟩

theorem unwind_oblivious (column : Scanner → Int) (hcolumn : ∀ s t, column (s.untake t) = column s) :
    Oblivious fun s => .ok (s.unwind (column s)) := by
  refine .of_pure (fun s => s.unwind (column s)) (fun s t => ?_) (fun s => ?_) fun s => ?_
  · simp only [unwind, hcolumn, untake_inFlow, untake_outer]
    cases s.inFlow with
    | true => rfl
    | false => exact unwindTo_untake _ _ s t
  · simp only [unwind]
    split
    · rfl
    · exact (unwindTo_taken _ _ s).1
  · simp only [unwind]
    split
    · exact List.Subset.refl _
    · rw [(unwindTo_taken _ _ s).2]
      exact List.Subset.refl _

/-- A step that only says whether a key may follow. -/
theorem allow_oblivious (p : Scanner → Bool) (hp : ∀ s t, p (s.untake t) = p s) :
    Oblivious fun s => .ok { s with keyAllowed := p s } :=
  .of_pure (fun s => { s with keyAllowed := p s }) (fun s t => by rw [hp]; rfl) (fun _ => rfl)
    fun _ => List.Subset.refl _

theorem emitNext_oblivious (kind : TokenKind) (size : Nat) :
    Oblivious fun s => .ok (s.emitNext kind size) :=
  .of_pure (emitNext · kind size) (fun _ _ => rfl) (fun _ => rfl) fun _ => List.Subset.refl _

theorem emitRead_oblivious (r : Scanner → Reader Token) (hread : ∀ s t, r (s.untake t) = r s) :
    Oblivious fun s => s.emitRead (r s) := by
  have hrun := Oblivious.of_run r (fun t s => s.emit t) hread (fun _ _ _ => rfl) (fun _ _ => rfl)
    fun _ _ => List.Subset.refl _
  have heq : (fun s : Scanner => s.emitRead (r s)) =
      fun s => s.run (r s) >>= fun found => .ok (found.2.emit found.1) := by
    funext s
    simp only [emitRead, run]
    cases r s s.cursor <;> rfl
  rwa [heq]

theorem openBlock_oblivious (kind : TokenKind) :
    Oblivious fun s => .ok (s.openBlock kind) := by
  have hcases : ∀ s : Scanner, s.openBlock kind = s ∨ s.openBlock kind =
      { s with indent := s.mark.column, outer := s.indent :: s.outer }.emitHere kind := by
    intro s
    unfold openBlock indentTo
    split
    · rename_i hopen
      split at hopen
      · cases hopen
        exact .inr rfl
      · cases hopen
    · exact .inl rfl
  refine .of_pure (openBlock · kind) (fun s t => ?_) (fun s => ?_) fun s => ?_
  · unfold openBlock indentTo
    simp only [untake_indent, untake_mark]
    by_cases hindent : s.indent < s.mark.column
    · simp only [hindent, if_true]
      rfl
    · simp only [hindent, if_false]
  · rcases hcases s with h | h
    · rw [h]
    · rw [h]
      rfl
  · rcases hcases s with h | h <;> rw [h] <;> exact List.Subset.refl _

/-- A block is only begun outside brackets. -/
theorem openOutside_oblivious (kind : TokenKind) :
    Oblivious fun s => .ok (if s.inFlow then s else s.openBlock kind) := by
  have h := Oblivious.ite inFlow (fun _ _ => rfl)
    (.of_pure id (fun _ _ => rfl) (fun _ => rfl) fun _ => List.Subset.refl _)
    (openBlock_oblivious kind)
  have heq : (fun s : Scanner => (.ok (if s.inFlow then s else s.openBlock kind) : Except Fault _)) =
      fun s => if s.inFlow then .ok (id s) else .ok (s.openBlock kind) := by
    funext s
    cases s.inFlow <;> rfl
  rwa [heq]

/-! ### The tokens -/

theorem fetchStreamEnd_oblivious : Oblivious fetchStreamEnd := by
  have hend := Oblivious.of_pure
    (fun s => { s with keyAllowed := false, keys := [], finished := true }.emitHere .streamEnd)
    (fun _ _ => rfl) (fun _ => rfl) fun _ => List.nil_subset _
  exact (unwind_oblivious (fun _ => -1) fun _ _ => rfl).bind (dropKey_oblivious.bind hend)

theorem fetchDirective_oblivious : Oblivious fetchDirective :=
  (unwind_oblivious (fun _ => -1) fun _ _ => rfl).bind (dropKey_oblivious.bind
    ((allow_oblivious (fun _ => false) fun _ _ => rfl).bind
      (emitRead_oblivious (fun _ => directiveToken) fun _ _ => rfl)))

theorem fetchDocumentMarker_oblivious (kind : TokenKind) :
    Oblivious fun s => s.fetchDocumentMarker kind :=
  (unwind_oblivious (fun _ => -1) fun _ _ => rfl).bind (dropKey_oblivious.bind
    ((allow_oblivious (fun _ => false) fun _ _ => rfl).bind (emitNext_oblivious kind 3)))

theorem fetchFlowStart_oblivious (kind : TokenKind) : Oblivious fun s => s.fetchFlowStart kind := by
  have hopen := Oblivious.of_pure
    (fun s => { s with depth := s.depth + 1, keyAllowed := true }.emitNext kind 1)
    (fun _ _ => rfl) (fun _ => rfl) fun _ => List.Subset.refl _
  exact saveKey_oblivious.bind hopen

theorem fetchFlowEnd_oblivious (kind : TokenKind) : Oblivious fun s => s.fetchFlowEnd kind := by
  have hclose := Oblivious.of_pure
    (fun s => { s with depth := s.depth - 1, keyAllowed := false }.emitNext kind 1)
    (fun _ _ => rfl) (fun _ => rfl) fun _ => List.Subset.refl _
  exact dropKey_oblivious.bind hclose

theorem fetchFlowEntry_oblivious : Oblivious fetchFlowEntry :=
  (allow_oblivious (fun _ => true) fun _ _ => rfl).bind
    (dropKey_oblivious.bind (emitNext_oblivious .flowEntry 1))

theorem fetchBlockEntry_oblivious : Oblivious fetchBlockEntry :=
  .ite (fun s => !s.inFlow && !s.keyAllowed) (fun _ _ => rfl)
    (.error (e := fun s => s.refuse "sequence entries") fun _ _ => rfl)
    ((openOutside_oblivious .blockSequenceStart).bind
      ((allow_oblivious (fun _ => true) fun _ _ => rfl).bind
        (dropKey_oblivious.bind (emitNext_oblivious .blockEntry 1))))

theorem fetchKey_oblivious : Oblivious fetchKey :=
  .ite (fun s => !s.inFlow && !s.keyAllowed) (fun _ _ => rfl)
    (.error (e := fun s => s.refuse "mapping keys") fun _ _ => rfl)
    ((openOutside_oblivious .blockMappingStart).bind
      ((allow_oblivious (fun s => !s.inFlow) fun _ _ => rfl).bind
        (dropKey_oblivious.bind (emitNext_oblivious .key 1))))

theorem insertAt_untake (s : Scanner) (t : Token) {number : Nat} (htaken : 0 < s.taken)
    (hnumber : s.taken ≤ number) (tokens : List Token) :
    (s.untake t).insertAt number tokens = (s.insertAt number tokens).untake t := by
  have hat : number - (s.taken - 1) = (number - s.taken) + 1 := by omega
  simp only [insertAt, untake, hat, List.take_succ_cons, List.drop_succ_cons, List.cons_append]

/-- A key within brackets, or in a block that is open already. -/
theorem fetchValueOf_of_within {s : Scanner} {key : PossibleKey}
    (h : s.inFlow = true ∨ ¬ s.indent < key.mark.column) :
    s.fetchValueOf key =
      { s with keys := s.keys.filter (·.1 != s.depth), keyAllowed := false }.insertAt key.number
        [⟨.key, key.mark, key.mark⟩] := by
  unfold fetchValueOf
  simp only [inFlow, indentTo] at h ⊢
  rcases h with hflow | hindent
  · rw [if_pos hflow]
  · rw [if_neg hindent, ite_self]

/-- The first key of a block. -/
theorem fetchValueOf_of_first {s : Scanner} {key : PossibleKey} (hflow : s.inFlow = false)
    (hindent : s.indent < key.mark.column) :
    s.fetchValueOf key =
      { s with keys := s.keys.filter (·.1 != s.depth), keyAllowed := false
               indent := key.mark.column, outer := s.indent :: s.outer }.insertAt key.number
        [⟨.blockMappingStart, key.mark, key.mark⟩, ⟨.key, key.mark, key.mark⟩] := by
  unfold fetchValueOf
  simp only [inFlow, indentTo] at hflow ⊢
  rw [if_pos hindent, hflow]
  rfl

theorem fetchValueOf_untake {s : Scanner} {t : Token} {key : PossibleKey} (htaken : 0 < s.taken)
    (hnumber : s.taken ≤ key.number) :
    (s.untake t).fetchValueOf key = (s.fetchValueOf key).untake t := by
  by_cases h : s.inFlow = true ∨ ¬ s.indent < key.mark.column
  · rw [fetchValueOf_of_within h, fetchValueOf_of_within (s := s.untake t) h]
    exact insertAt_untake
      { s with keys := s.keys.filter (·.1 != s.depth), keyAllowed := false } t htaken hnumber _
  · obtain ⟨hflow, hindent⟩ := not_or.1 h
    rw [Bool.not_eq_true] at hflow
    have hfirst := Decidable.not_not.1 hindent
    rw [fetchValueOf_of_first hflow hfirst, fetchValueOf_of_first (s := s.untake t) hflow hfirst]
    exact insertAt_untake
      { s with keys := s.keys.filter (·.1 != s.depth), keyAllowed := false
               indent := key.mark.column, outer := s.indent :: s.outer } t htaken hnumber _

theorem fetchValueOf_keeps (s : Scanner) (key : PossibleKey) :
    (s.fetchValueOf key).taken = s.taken ∧ (s.fetchValueOf key).keys ⊆ s.keys := by
  have hkeys : s.keys.filter (·.1 != s.depth) ⊆ s.keys := fun _ h => (List.mem_filter.1 h).1
  by_cases h : s.inFlow = true ∨ ¬ s.indent < key.mark.column
  · rw [fetchValueOf_of_within h]
    exact ⟨rfl, hkeys⟩
  · obtain ⟨hflow, hindent⟩ := not_or.1 h
    rw [Bool.not_eq_true] at hflow
    rw [fetchValueOf_of_first hflow (Decidable.not_not.1 hindent)]
    exact ⟨rfl, hkeys⟩

theorem lookup_mem {keys : List (Int × PossibleKey)} {depth : Int} {key : PossibleKey}
    (h : keys.lookup depth = some key) : (depth, key) ∈ keys := by
  obtain ⟨before, after, rfl, -⟩ := List.lookup_eq_some_iff.1 h
  simp

/-- A colon before a value that has no key. -/
def fetchLoneValue (s : Scanner) : Except Fault Scanner :=
  if !s.inFlow && !s.keyAllowed then .error (s.refuse "mapping values") else
    (.ok (if s.inFlow then s else s.openBlock .blockMappingStart) : Except Fault Scanner) >>=
      fun s => (.ok { s with keyAllowed := !s.inFlow } : Except Fault Scanner) >>= fun s =>
        s.dropKey >>= fun s => .ok (s.emitNext .value 1)

theorem fetchValue_of_none {s : Scanner} (h : s.keys.lookup s.depth = none) :
    s.fetchValue = s.fetchLoneValue := by
  unfold fetchValue
  rw [h]
  rfl

theorem fetchValue_of_some {s : Scanner} {key : PossibleKey}
    (h : s.keys.lookup s.depth = some key) :
    s.fetchValue = .ok ((s.fetchValueOf key).emitNext .value 1) := by
  unfold fetchValue
  rw [h]
  rfl

theorem fetchLoneValue_oblivious : Oblivious fetchLoneValue :=
  .ite (fun s => !s.inFlow && !s.keyAllowed) (fun _ _ => rfl)
    (.error (e := fun s => s.refuse "mapping values") fun _ _ => rfl)
    ((openOutside_oblivious .blockMappingStart).bind
      ((allow_oblivious (fun s => !s.inFlow) fun _ _ => rfl).bind
        (dropKey_oblivious.bind (emitNext_oblivious .value 1))))

/-- A colon after a possible key, or before a value without one. -/
theorem fetchValue_oblivious : Oblivious fetchValue := by
  refine ⟨fun s t htaken hwait => ?_, fun s s' hwait h => ?_⟩
  · cases hlookup : s.keys.lookup s.depth with
    | none =>
      rw [fetchValue_of_none hlookup, fetchValue_of_none (s := s.untake t) hlookup]
      exact fetchLoneValue_oblivious.untake s t htaken hwait
    | some key =>
      rw [fetchValue_of_some hlookup, fetchValue_of_some (s := s.untake t) hlookup,
        fetchValueOf_untake htaken (hwait _ (lookup_mem hlookup))]
      rfl
  · cases hlookup : s.keys.lookup s.depth with
    | none =>
      rw [fetchValue_of_none hlookup] at h
      exact fetchLoneValue_oblivious.keeps s s' hwait h
    | some key =>
      obtain ⟨hkept, hkeys⟩ := fetchValueOf_keeps s key
      rw [fetchValue_of_some hlookup] at h
      cases h
      refine ⟨hkept, fun entry hentry => ?_⟩
      change (s.fetchValueOf key).taken ≤ _
      rw [hkept]
      exact hwait entry (hkeys hentry)

theorem fetchKeyable_oblivious (r : Reader Token) : Oblivious fun s => s.fetchKeyable r :=
  saveKey_oblivious.bind ((allow_oblivious (fun _ => false) fun _ _ => rfl).bind
    (emitRead_oblivious (fun _ => r) fun _ _ => rfl))

theorem fetchBlockScalar_oblivious : Oblivious fetchBlockScalar :=
  (allow_oblivious (fun _ => true) fun _ _ => rfl).bind (dropKey_oblivious.bind
    (emitRead_oblivious (fun s => blockScalar s.indent) fun _ _ => rfl))

theorem fetchPlain_oblivious : Oblivious fetchPlain := by
  have hread := Oblivious.of_run (fun s => plainScalar s.inFlow (s.indent + 1).toNat)
    (fun found s => { s with keyAllowed := found.2 }.emit found.1)
    (fun _ _ => rfl) (fun _ _ _ => rfl) (fun _ _ => rfl) fun _ _ => List.Subset.refl _
  exact saveKey_oblivious.bind hread

/-! ### Between tokens -/

/-- Spaces, perhaps a comment, and perhaps the end of the line. -/
def lineGap : Reader Text := do
  Reader.skipWhile (· == ' ')
  Reader.skipComment
  Reader.takeBreak

theorem goesOn_lineGap : Reader.GoesOn lineGap :=
  (Reader.goesOn_skipWhile _).bind fun _ => Reader.goesOn_skipComment.bind fun _ =>
    Reader.goesOn_takeBreak

theorem skipLines_succ (fuel : Nat) (s : Scanner) :
    skipLines (fuel + 1) s =
      match lineGap s.cursor with
      | .error _ => s
      | .ok ([], cursor) => { s with cursor }
      | .ok (_ :: _, cursor) =>
        skipLines fuel { s with cursor, keyAllowed := s.keyAllowed || !s.inFlow } := by
  have hflow : ∀ s : Scanner, (if s.inFlow then s else { s with keyAllowed := true }) =
      { s with keyAllowed := s.keyAllowed || !s.inFlow } := by
    intro s
    cases s.inFlow <;> simp
  have hrun : s.run lineGap = (lineGap s.cursor).map fun (a, cursor) => (a, { s with cursor }) := by
    unfold run
    cases lineGap s.cursor <;> rfl
  rw [skipLines, ← lineGap, hrun]
  cases lineGap s.cursor with
  | error e => rfl
  | ok found =>
    obtain ⟨skipped, cursor⟩ := found
    cases skipped with
    | nil => rfl
    | cons c skipped => exact congrArg (skipLines fuel) (hflow { s with cursor })

/-- What is skipped does not depend on the tokens. -/
theorem skipLines_with (fuel : Nat) (s : Scanner) (waiting : List Token) (taken : Nat)
    (keys : List (Int × PossibleKey)) :
    skipLines fuel { s with waiting, taken, keys } =
      { skipLines fuel s with waiting, taken, keys } := by
  induction fuel generalizing s with
  | zero => rfl
  | succ fuel ih =>
    rw [skipLines_succ, skipLines_succ]
    cases lineGap s.cursor with
    | error e => rfl
    | ok found =>
      obtain ⟨skipped, cursor⟩ := found
      cases skipped with
      | nil => rfl
      | cons c skipped =>
        exact ih { s with cursor, keyAllowed := s.keyAllowed || !s.inFlow }

/-- The place past a byte order mark at the beginning. -/
def pastOrderMark (c : Cursor) : Cursor :=
  if c.mark.index == 0 && (c.peek 0).toNat == 0xFEFF then c.advance 1 else c

theorem skipToToken_eq (s : Scanner) :
    s.skipToToken = skipLines ((pastOrderMark s.cursor).rest.length + 1)
      { s with cursor := pastOrderMark s.cursor } := by
  unfold skipToToken pastOrderMark mark
  by_cases h : (s.cursor.mark.index == 0 && (s.cursor.peek 0).toNat == 0xFEFF) = true
  · simp only [h, if_true]
  · simp only [h, if_false, Bool.false_eq_true]

theorem skipToToken_with (s : Scanner) (waiting : List Token) (taken : Nat)
    (keys : List (Int × PossibleKey)) :
    skipToToken { s with waiting, taken, keys } = { s.skipToToken with waiting, taken, keys } := by
  rw [skipToToken_eq, skipToToken_eq]
  exact skipLines_with _ { s with cursor := pastOrderMark s.cursor } waiting taken keys

/-- Going to the next token leaves everything but the place. -/
theorem skipToToken_keeps (s : Scanner) :
    s.skipToToken.waiting = s.waiting ∧ s.skipToToken.taken = s.taken ∧
      s.skipToToken.keys = s.keys := by
  have h : s.skipToToken =
      { s.skipToToken with waiting := s.waiting, taken := s.taken, keys := s.keys } :=
    skipToToken_with s s.waiting s.taken s.keys
  have hwaiting := congrArg Scanner.waiting h
  have htaken := congrArg Scanner.taken h
  have hkeys := congrArg Scanner.keys h
  exact ⟨hwaiting, htaken, hkeys⟩

theorem skipLines_leads (fuel : Nat) (s : Scanner) : s.cursor.Leads (skipLines fuel s).cursor := by
  induction fuel generalizing s with
  | zero => exact Cursor.Leads.refl _
  | succ fuel ih =>
    rw [skipLines_succ]
    cases hgap : lineGap s.cursor with
    | error e => exact Cursor.Leads.refl _
    | ok found =>
      obtain ⟨skipped, cursor⟩ := found
      have hleads := goesOn_lineGap _ _ _ hgap
      cases skipped with
      | nil => exact hleads
      | cons c skipped =>
        exact hleads.trans (ih { s with cursor, keyAllowed := s.keyAllowed || !s.inFlow })

theorem skipToToken_leads (s : Scanner) : s.cursor.Leads s.skipToToken.cursor := by
  have hmark : s.cursor.Leads (pastOrderMark s.cursor) := by
    unfold pastOrderMark
    split
    · exact ⟨1, rfl⟩
    · exact Cursor.Leads.refl _
  rw [skipToToken_eq]
  exact hmark.trans (skipLines_leads _ _)

theorem skipToToken_oblivious : Oblivious fun s => .ok s.skipToToken := by
  refine .of_pure skipToToken (fun s t => ?_) (fun s => (skipToToken_keeps s).2.1) fun s => ?_
  · obtain ⟨hwaiting, htaken, hkeys⟩ := skipToToken_keeps s
    have h : (s.untake t).skipToToken =
        { s.skipToToken with waiting := t :: s.waiting, taken := s.taken - 1, keys := s.keys } :=
      skipToToken_with s _ _ _
    rw [h]
    simp only [untake, hwaiting, htaken, ← hkeys]
  · rw [(skipToToken_keeps s).2.2]
    exact List.Subset.refl _

/-- What is found is told by the characters that come next. -/
def dispatch (s : Scanner) : Except Fault Scanner :=
  let c := s.cursor.peek 0
  let next := s.cursor.peek 1
  let first := s.mark.column == 0
  if c == endChar then s.fetchStreamEnd
  else if c == '%' && first then s.fetchDirective
  else if first && s.cursor.hasMarker '-' then s.fetchDocumentMarker .documentStart
  else if first && s.cursor.hasMarker '.' then s.fetchDocumentMarker .documentEnd
  else if c == '[' then s.fetchFlowStart .flowSequenceStart
  else if c == '\x7b' then s.fetchFlowStart .flowMappingStart
  else if c == ']' then s.fetchFlowEnd .flowSequenceEnd
  else if c == '\x7d' then s.fetchFlowEnd .flowMappingEnd
  else if c == ',' then s.fetchFlowEntry
  else if c == '-' && isGapOrEnd next then s.fetchBlockEntry
  else if c == '?' && (s.inFlow || isGapOrEnd next) then s.fetchKey
  else if c == ':' && (s.inFlow || isGapOrEnd next) then s.fetchValue
  else if c == '*' || c == '&' then s.fetchKeyable anchorToken
  else if c == '!' then s.fetchKeyable tagToken
  else if (c == '|' || c == '>') && !s.inFlow then s.fetchBlockScalar
  else if c == '\'' || c == '"' then s.fetchKeyable quotedScalar
  else if canBePlain s.inFlow c next then s.fetchPlain
  else throw (.placed ⟨.token, some "while scanning for the next token".toList, none,
    "found character ".toList ++ Text.quoted [c] ++ " that cannot start any token".toList, s.mark⟩)

theorem fetch_eq (s : Scanner) :
    s.fetch = s.skipToToken.dropStale >>= fun s => dispatch (s.unwind s.mark.column) := rfl

theorem dispatch_oblivious : Oblivious dispatch := by
  have hif {step step' : Scanner → Except Fault Scanner} (p : Scanner → Bool) (h : Oblivious step)
      (hp : ∀ s t, p (s.untake t) = p s) (h' : Oblivious step') :
      Oblivious fun s => if p s then step s else step' s := .ite p hp h h'
  refine hif (fun s => s.cursor.peek 0 == endChar) fetchStreamEnd_oblivious (fun _ _ => rfl) ?_
  refine hif (fun s => s.cursor.peek 0 == '%' && s.mark.column == 0) fetchDirective_oblivious
    (fun _ _ => rfl) ?_
  refine hif (fun s => s.mark.column == 0 && s.cursor.hasMarker '-')
    (fetchDocumentMarker_oblivious .documentStart) (fun _ _ => rfl) ?_
  refine hif (fun s => s.mark.column == 0 && s.cursor.hasMarker '.')
    (fetchDocumentMarker_oblivious .documentEnd) (fun _ _ => rfl) ?_
  refine hif (fun s => s.cursor.peek 0 == '[') (fetchFlowStart_oblivious .flowSequenceStart)
    (fun _ _ => rfl) ?_
  refine hif (fun s => s.cursor.peek 0 == '\x7b') (fetchFlowStart_oblivious .flowMappingStart)
    (fun _ _ => rfl) ?_
  refine hif (fun s => s.cursor.peek 0 == ']') (fetchFlowEnd_oblivious .flowSequenceEnd)
    (fun _ _ => rfl) ?_
  refine hif (fun s => s.cursor.peek 0 == '\x7d') (fetchFlowEnd_oblivious .flowMappingEnd)
    (fun _ _ => rfl) ?_
  refine hif (fun s => s.cursor.peek 0 == ',') fetchFlowEntry_oblivious (fun _ _ => rfl) ?_
  refine hif (fun s => s.cursor.peek 0 == '-' && isGapOrEnd (s.cursor.peek 1))
    fetchBlockEntry_oblivious (fun _ _ => rfl) ?_
  refine hif (fun s => s.cursor.peek 0 == '?' && (s.inFlow || isGapOrEnd (s.cursor.peek 1)))
    fetchKey_oblivious (fun _ _ => rfl) ?_
  refine hif (fun s => s.cursor.peek 0 == ':' && (s.inFlow || isGapOrEnd (s.cursor.peek 1)))
    fetchValue_oblivious (fun _ _ => rfl) ?_
  refine hif (fun s => s.cursor.peek 0 == '*' || s.cursor.peek 0 == '&')
    (fetchKeyable_oblivious anchorToken) (fun _ _ => rfl) ?_
  refine hif (fun s => s.cursor.peek 0 == '!') (fetchKeyable_oblivious tagToken)
    (fun _ _ => rfl) ?_
  refine hif (fun s => (s.cursor.peek 0 == '|' || s.cursor.peek 0 == '>') && !s.inFlow)
    fetchBlockScalar_oblivious (fun _ _ => rfl) ?_
  refine hif (fun s => s.cursor.peek 0 == '\'' || s.cursor.peek 0 == '"')
    (fetchKeyable_oblivious quotedScalar) (fun _ _ => rfl) ?_
  refine hif (fun s => canBePlain s.inFlow (s.cursor.peek 0) (s.cursor.peek 1)) fetchPlain_oblivious
    (fun _ _ => rfl) ?_
  exact .error (e := fun s => .placed ⟨.token, some "while scanning for the next token".toList, none,
    "found character ".toList ++ Text.quoted [s.cursor.peek 0] ++
      " that cannot start any token".toList, s.mark⟩) fun _ _ => rfl

theorem fetch_oblivious : Oblivious fetch := by
  exact skipToToken_oblivious.bind (dropStale_oblivious.bind
    ((unwind_oblivious (fun s => s.mark.column) fun _ _ => rfl).bind dispatch_oblivious))

/-! ### Possible keys that can no longer be keys -/

/-- No possible key has to be one, and all of them have been passed. -/
def KeysPassed (s : Scanner) : Prop :=
  ∀ entry ∈ s.keys, entry.2.required = false ∧ entry.2.mark.line ≤ s.mark.line

/-- Where no key has to be one, those that can no longer be keys are given up. -/
theorem dropStale_of_passed {s : Scanner} (h : s.KeysPassed) :
    s.dropStale = .ok { s with keys := s.keys.filter fun (_, key) => !s.isStale key } := by
  have hnone : (s.keys.find? fun (_, key) => s.isStale key && key.required) = none := by
    rw [List.find?_eq_none]
    rintro entry hentry
    simp [(h entry hentry).1]
  unfold dropStale
  rw [hnone]

/-- What can no longer be a key at one place cannot be one further on. -/
theorem isStale_of_leads {s s' : Scanner} (h : s.cursor.Leads s'.cursor) {key : PossibleKey}
    (hkey : key.mark.line ≤ s.mark.line) (hstale : s.isStale key = true) :
    s'.isStale key = true := by
  have hline : s.mark.line ≤ s'.mark.line := h.line_le
  have hindex : s.mark.index ≤ s'.mark.index := h.index_le
  simp only [isStale, Bool.or_eq_true, bne_iff_ne, decide_eq_true_eq] at hstale ⊢
  omega

theorem KeysPassed.skipToToken {s : Scanner} (h : s.KeysPassed) : s.skipToToken.KeysPassed := by
  intro entry hentry
  rw [(skipToToken_keeps s).2.2] at hentry
  exact ⟨(h entry hentry).1, Nat.le_trans (h entry hentry).2 (skipToToken_leads s).line_le⟩

/-- What is given up need not have been there. -/
theorem dropStale_of_filter {s : Scanner} (h : s.KeysPassed) {keys : List (Int × PossibleKey)}
    (hkeys : keys ⊆ s.keys) (hfilter : (keys.filter fun (_, key) => !s.isStale key) =
      s.keys.filter fun (_, key) => !s.isStale key) :
    dropStale { s with keys } = s.dropStale := by
  have hpassed : KeysPassed { s with keys } := fun entry hentry => h entry (hkeys hentry)
  rw [dropStale_of_passed h, dropStale_of_passed hpassed]
  exact congrArg (fun keys => Except.ok { s with keys }) hfilter

/-- Giving up keys early makes no difference. -/
theorem fetch_of_dropStale {s dropped : Scanner} (h : s.KeysPassed)
    (hdrop : s.dropStale = .ok dropped) : dropped.fetch = s.fetch := by
  rw [dropStale_of_passed h] at hdrop
  obtain rfl := Except.ok.inj hdrop
  obtain ⟨hwaiting, htaken, hkeys⟩ := skipToToken_keeps s
  have hskip : skipToToken { s with keys := s.keys.filter fun (_, key) => !s.isStale key } =
      { s.skipToToken with keys := s.keys.filter fun (_, key) => !s.isStale key } := by
    rw [skipToToken_with s s.waiting s.taken, ← hwaiting, ← htaken]
  rw [fetch_eq, fetch_eq, hskip, dropStale_of_filter h.skipToToken]
  · rw [hkeys]
    exact fun entry hentry => (List.mem_filter.1 hentry).1
  · rw [hkeys, List.filter_filter]
    refine List.filter_congr fun entry hentry => ?_
    cases hstale : s.isStale entry.2 with
    | false => simp [hstale]
    | true => simp [hstale, isStale_of_leads (skipToToken_leads s) (h entry hentry).2 hstale]

/-! ### All tokens -/

/-- Tokens are fetched one after another. Each time something is read, or the document ends. -/
inductive Fetches : Scanner → Scanner → Prop where
  | refl (s) : Fetches s s
  | step {s s' s'' : Scanner} (hgoing : s.finished = false) (hpassed : s.KeysPassed)
      (hfetch : s.fetch = .ok s')
      (hless : s'.cursor.rest.length < s.cursor.rest.length ∨ s'.finished = true)
      (hrest : Fetches s' s'') : Fetches s s''

theorem Fetches.trans {s s' s'' : Scanner} (h : Fetches s s') (h' : Fetches s' s'') :
    Fetches s s'' := by
  induction h with
  | refl => exact h'
  | step hgoing hpassed hfetch hless _ ih => exact .step hgoing hpassed hfetch hless (ih h')

theorem Fetches.eq_of_finished {s s' : Scanner} (h : Fetches s s') (hs : s.finished = true) :
    s' = s := by
  cases h with
  | refl => rfl
  | step hgoing =>
    rw [hs] at hgoing
    cases hgoing

/-- What is fetched does not depend on whether a token was taken before. -/
theorem Fetches.of_untake {t : Token} {s final : Scanner} (h : Fetches (s.untake t) final)
    (htaken : 0 < s.taken) (hwait : s.KeysWait) :
    ∃ final', final = final'.untake t ∧ Fetches s final' := by
  generalize hstart : s.untake t = start at h
  induction h generalizing s with
  | refl =>
    subst hstart
    exact ⟨s, rfl, .refl s⟩
  | @step start next final hgoing hpassed hfetch hless hrest ih =>
    subst hstart
    rw [fetch_oblivious.untake s t htaken hwait] at hfetch
    cases hnext : s.fetch with
    | error e =>
      rw [hnext] at hfetch
      cases hfetch
    | ok s' =>
      rw [hnext] at hfetch
      cases hfetch
      obtain ⟨htaken', hwait'⟩ := fetch_oblivious.keeps s s' hwait hnext
      obtain ⟨final', hfinal, hrest'⟩ := ih (htaken' ▸ htaken) hwait' rfl
      exact ⟨final', hfinal, .step hgoing hpassed hnext hless hrest'⟩

/-- Giving up keys leaves the rest as it is, and what is fetched next. -/
theorem KeysPassed.exists_dropStale {s : Scanner} (h : s.KeysPassed) :
    ∃ dropped, s.dropStale = .ok dropped ∧ dropped.cursor = s.cursor ∧
      dropped.finished = s.finished ∧ dropped.waiting = s.waiting ∧ dropped.KeysPassed ∧
      dropped.fetch = s.fetch := by
  have hdrop := dropStale_of_passed h
  exact ⟨_, hdrop, rfl, rfl, rfl, fun entry hentry => h entry (List.mem_filter.1 hentry).1,
    fetch_of_dropStale h hdrop⟩

theorem settle_of_isEmpty {s : Scanner} (hgoing : s.finished = false)
    (hempty : s.waiting.isEmpty = true) (fuel : Nat) :
    settle (fuel + 1) s = s.fetch >>= settle fuel := by
  rw [settle, if_neg (by simp [hgoing]), if_pos hempty]

theorem settle_of_waiting {s dropped : Scanner} (hgoing : s.finished = false)
    (hsome : ¬ s.waiting.isEmpty = true) (hdrop : s.dropStale = .ok dropped) (fuel : Nat) :
    settle (fuel + 1) s =
      if dropped.isUndecided then dropped.fetch >>= settle fuel else .ok dropped := by
  rw [settle, if_neg (by simp [hgoing]), if_neg hsome, hdrop]
  rfl

/-- On the way to the final state the first token that waits is certain, or the document has
    ended. -/
structure IsReady (final s : Scanner) : Prop where
  rest : Fetches s final
  wait : s.KeysWait
  ready : s.finished = true ∨ (s.waiting ≠ [] ∧ s.isUndecided = false)

/-- Before a token is handed on, tokens are fetched until it is certain. -/
theorem settle_of_fetches {s final : Scanner} (h : Fetches s final) (hfinal : final.finished = true)
    (hwait : s.KeysWait) {fuel : Nat} (hfuel : s.cursor.rest.length + 1 < fuel) :
    ∃ settled, settle fuel s = .ok settled ∧ IsReady final settled := by
  -- One step of fuel is enough where the document has ended.
  have hfuel' : (s.finished = true ∧ 0 < fuel) ∨ s.cursor.rest.length + 1 < fuel := .inr hfuel
  clear hfuel
  induction fuel generalizing s with
  | zero => omega
  | succ fuel ih =>
    cases hfinished : s.finished with
    | true => exact ⟨s, by rw [settle, if_pos hfinished], h, hwait, .inl hfinished⟩
    | false =>
      cases h with
      | refl =>
        rw [hfinal] at hfinished
        cases hfinished
      | @step _ next _ _ hpassed hfetch hless hrest =>
        have hgo : ∃ settled, settle fuel next = .ok settled ∧ IsReady final settled := by
          refine ih hrest (fetch_oblivious.keeps s next hwait hfetch).2 ?_
          rcases hfuel' with ⟨hs, -⟩ | hfuel'
          · rw [hfinished] at hs
            cases hs
          · rcases hless with hless | hnext
            · exact .inr (by omega)
            · exact .inl ⟨hnext, by omega⟩
        by_cases hempty : s.waiting.isEmpty = true
        · rw [settle_of_isEmpty hfinished hempty, hfetch]
          exact hgo
        · -- The keys that are given up here would have been given up in fetching.
          obtain ⟨dropped, hdrop, hcursor, hgoing, hwaiting, hpassed', hsame⟩ :=
            hpassed.exists_dropStale
          obtain ⟨-, hwait'⟩ := dropStale_oblivious.keeps s dropped hwait hdrop
          rw [settle_of_waiting hfinished hempty hdrop, hsame, hfetch]
          by_cases hundecided : dropped.isUndecided = true
          · rw [if_pos hundecided]
            exact hgo
          · refine ⟨dropped, if_neg hundecided, ?_, hwait', .inr ⟨?_, by simpa using hundecided⟩⟩
            · exact .step (hgoing.trans hfinished) hpassed' (hsame.trans hfetch) (hcursor ▸ hless)
                hrest
            · rw [hwaiting]
              exact fun hnil => hempty (by rw [hnil]; rfl)

/-- The tokens that are handed on are those that wait in the end if all are fetched at once. -/
theorem tokens_of_fetches {s final : Scanner} (h : Fetches s final) (hfinal : final.finished = true)
    (hkeys : final.keys = []) (hwait : s.KeysWait) {fuel : Nat}
    (hfuel : final.waiting.length < fuel) : s.tokens fuel = (final.waiting, none) := by
  induction fuel generalizing s final with
  | zero => omega
  | succ fuel ih =>
    obtain ⟨settled, hsettle, hrest, hwait, hready⟩ :=
      settle_of_fetches h hfinal hwait (Nat.lt_succ_self _)
    rw [tokens, hsettle]
    cases hwaiting : settled.waiting with
    | nil =>
      rcases hready with hended | ⟨hsome, -⟩
      · simp only [hrest.eq_of_finished hended, hwaiting]
      · exact absurd hwaiting hsome
    | cons t waiting =>
      have huntake : untake t { settled with waiting, taken := settled.taken + 1 } = settled := by
        simp only [untake, Nat.add_sub_cancel, ← hwaiting]
      have hlater : KeysWait { settled with waiting, taken := settled.taken + 1 } := by
        intro entry hentry
        rcases hready with hended | ⟨-, hcertain⟩
        · rw [← hrest.eq_of_finished hended, hkeys] at hentry
          cases hentry
        · have hnumber : entry.2.number ≠ settled.taken := by
            rintro heq
            have := List.any_eq_false.1 hcertain entry hentry
            simp [heq] at this
          exact Nat.lt_of_le_of_ne (hwait entry hentry) hnumber.symm
      obtain ⟨final', rfl, hrest'⟩ :=
        Fetches.of_untake (huntake.symm ▸ hrest) (Nat.succ_pos _) hlater
      have hlength : final'.waiting.length < fuel := by
        simpa [untake] using hfuel
      simp only [hwaiting, ih hrest' hfinal hkeys hlater hlength]
      rfl

end Docpress.Yaml.Scanner
