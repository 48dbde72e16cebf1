import Docpress.Yaml.Event
/-!
Reading events within brackets. A node is read where something waits for it, and what waits is read
next; of tokens and events only the kinds matter.
-/

namespace Docpress.Yaml.EventReader

/-! ### Single nodes -/

theorem peek_bind {α : Type} {r : EventReader} {t : Token} {ts : List Token}
    (h : r.tokens = t :: ts) (f : Token → Except Fault α) : (r.peek >>= f) = f t := by
  rw [peek, h]
  rfl

theorem readProperties_eq {r : EventReader} {t : Token} {ts : List Token} (h : r.tokens = t :: ts)
    (hanchor : ∀ name, t.kind ≠ .anchor name)
    (htag : ∀ handle suffix, t.kind ≠ .tag handle suffix) :
    r.readProperties = .ok ({}, r) := by
  rw [readProperties, peek_bind h]
  split
  · exact absurd ‹_› (hanchor _)
  · exact absurd ‹_› (htag _ _)
  · rfl

/-- A node without an anchor and a tag is told by its first token. -/
theorem readNode_scalar {r : EventReader} {t : Token} {ts : List Token} (h : r.tokens = t :: ts)
    {s : ScalarText} {plain : Bool} (hkind : t.kind = .scalar s plain) (block loose : Bool) :
    r.readNode block loose = .ok (⟨.scalar none .absent s plain, t.start⟩, r.next.pop) := by
  have hproperties : r.readProperties = .ok ({}, r) :=
    readProperties_eq h (by simp [hkind]) (by simp [hkind])
  rw [readNode, peek_bind h]
  simp only [hkind, hproperties]
  change (r.peek >>= _) = _
  rw [peek_bind h]
  simp only [hkind]
  rfl

/-- The two kinds of brackets. -/
inductive Bracket where
  | square
  | brace

namespace Bracket

/-- The token that opens a collection. -/
def opening : Bracket → TokenKind
  | .square => .flowSequenceStart
  | .brace => .flowMappingStart

/-- The token that closes a collection. -/
def closing : Bracket → TokenKind
  | .square => .flowSequenceEnd
  | .brace => .flowMappingEnd

/-- What is read within a collection, at first and later. -/
def within : Bracket → Bool → Goal
  | .square => .flowEntry
  | .brace => .flowKey

/-- The event at the beginning of a collection. -/
def first : Bracket → EventKind
  | .square => .sequenceStart none .absent
  | .brace => .mappingStart none .absent

/-- The event at the end of a collection. -/
def last : Bracket → EventKind
  | .square => .sequenceEnd
  | .brace => .mappingEnd

end Bracket

theorem readNode_opening {r : EventReader} {t : Token} {ts : List Token} (h : r.tokens = t :: ts)
    {b : Bracket} (hkind : t.kind = b.opening) (block loose : Bool) :
    r.readNode block loose =
      .ok (⟨b.first, t.start⟩, (r.next.enter t.start).goTo (b.within true)) := by
  have hproperties : r.readProperties = .ok ({}, r) :=
    readProperties_eq h (by cases b <;> simp [hkind, Bracket.opening])
      (by cases b <;> simp [hkind, Bracket.opening])
  rw [readNode, peek_bind h]
  cases b <;>
  · simp only [hkind, Bracket.opening, hproperties]
    change (r.peek >>= _) = _
    rw [peek_bind h]
    simp only [hkind, Bracket.opening]
    rfl

/-! ### States -/

/-- Tokens of some kinds come next, and this is to be read after the next node, and that later. -/
structure Awaits (kinds : List TokenKind) (goals : List Goal) (r : EventReader) : Prop where
  tokens_eq : r.tokens.map Token.kind = kinds
  goals_eq : r.goals = goals

/-- Tokens of some kinds come next, and this is to be read from them. -/
structure Stands (kinds : List TokenKind) (goal : Option Goal) (goals : List Goal)
    (r : EventReader) : Prop extends Awaits kinds goals r where
  goal_eq : r.goal = goal

theorem Awaits.exists_token {kind : TokenKind} {kinds : List TokenKind} {goals : List Goal}
    {r : EventReader} (h : Awaits (kind :: kinds) goals r) :
    ∃ t ts, r.tokens = t :: ts ∧ t.kind = kind ∧ Awaits kinds goals r.next := by
  obtain ⟨t, ts, htokens, hkind, hkinds⟩ := List.map_eq_cons_iff.1 h.tokens_eq
  refine ⟨t, ts, htokens, hkind, ?_, h.goals_eq⟩
  rw [next, htokens]
  exact hkinds

/-- Events of some kinds are read, and this is the state after them. -/
def Yields (kinds : List EventKind) (r r' : EventReader) : Prop :=
  ∃ found : List Event, found.map Event.kind = kinds ∧
    ∀ fuel, r.events (found.length + fuel) = (found ++ (r'.events fuel).1, (r'.events fuel).2)

/-- A step and the steps after it give events of some kinds. -/
def Gives (step : Step) (kinds : List EventKind) (r' : EventReader) : Prop :=
  ∃ e after more, step = .ok (e, after) ∧ kinds = e.kind :: more ∧ Yields more after r'

theorem Yields.refl (r : EventReader) : Yields [] r r :=
  ⟨[], rfl, fun fuel => by rw [List.length_nil, Nat.zero_add]; rfl⟩

theorem Yields.trans {kinds kinds' : List EventKind} {r r' r'' : EventReader}
    (h : Yields kinds r r') (h' : Yields kinds' r' r'') : Yields (kinds ++ kinds') r r'' := by
  obtain ⟨found, rfl, hevents⟩ := h
  obtain ⟨found', rfl, hevents'⟩ := h'
  refine ⟨found ++ found', List.map_append, fun fuel => ?_⟩
  rw [List.length_append, Nat.add_assoc, hevents, hevents', List.append_assoc]

/-- What is to be read is read by steps. -/
theorem Gives.yields {r r' : EventReader} {goal : Goal} {kinds : List EventKind}
    (h : Gives (r.read goal) kinds r') (hgoal : r.goal = some goal) : Yields kinds r r' := by
  obtain ⟨e, after, more, hstep, rfl, found, rfl, hevents⟩ := h
  refine ⟨e :: found, rfl, fun fuel => ?_⟩
  rw [List.length_cons, Nat.add_right_comm, events, hgoal]
  simp only [hstep, hevents]
  rfl

theorem Gives.single {step : Step} {e : Event} {r' : EventReader} (h : step = .ok (e, r')) :
    Gives step [e.kind] r' :=
  ⟨e, r', [], h, rfl, .refl r'⟩

theorem Gives.trans {step : Step} {kinds kinds' : List EventKind} {r' r'' : EventReader}
    (h : Gives step kinds r') (h' : Yields kinds' r' r'') : Gives step (kinds ++ kinds') r'' := by
  obtain ⟨e, after, more, hstep, rfl, hmore⟩ := h
  exact ⟨e, after, more ++ kinds', hstep, rfl, hmore.trans h'⟩

/-! ### Nodes -/

/-- A node is read, and this is what comes after it. -/
def GivesNode (step : Step) (kinds : List EventKind) (tokens : List TokenKind) (goal : Goal)
    (goals : List Goal) : Prop :=
  ∃ r', Gives step kinds r' ∧ Stands tokens (some goal) goals r'

theorem Awaits.scalar {s : ScalarText} {plain : Bool} {kinds : List TokenKind} {goal : Goal}
    {goals : List Goal} {r : EventReader} (h : Awaits (.scalar s plain :: kinds) (goal :: goals) r)
    (block loose : Bool) :
    GivesNode (r.readNode block loose) [.scalar none .absent s plain] kinds goal goals := by
  obtain ⟨t, ts, htokens, hkind, hnext⟩ := h.exists_token
  refine ⟨_, .single (readNode_scalar htokens hkind block loose), ⟨hnext.tokens_eq, ?_⟩, ?_⟩
  · exact congrArg (List.drop 1) hnext.goals_eq
  · exact congrArg List.head? hnext.goals_eq

theorem Stands.closing {b : Bracket} {again : Bool} {kinds : List TokenKind} {goal : Goal}
    {goals : List Goal} {r : EventReader}
    (h : Stands (b.closing :: kinds) (some (b.within again)) (goal :: goals) r) :
    GivesNode (r.read (b.within again)) [b.last] kinds goal goals := by
  obtain ⟨t, ts, htokens, hkind, hnext⟩ := h.exists_token
  have hread : r.read (b.within again) = .ok (⟨b.last, t.start⟩, r.next.close) := by
    cases b <;>
    · simp only [read, readFlowEntry, readFlowKey, Bracket.within]
      rw [peek_bind htokens, hkind]
      rfl
  refine ⟨_, .single hread, ⟨hnext.tokens_eq, ?_⟩, ?_⟩
  · exact congrArg (List.drop 1) hnext.goals_eq
  · exact congrArg List.head? hnext.goals_eq

/-- What stands between brackets is read after the opening one, and the node ends with the closing
    one. -/
theorem Awaits.between {b : Bracket} {kinds more : List TokenKind} {inner : List EventKind}
    {goal : Goal} {goals : List Goal} {r : EventReader}
    (h : Awaits (b.opening :: kinds) (goal :: goals) r)
    (hinner : ∀ s, Stands kinds (some (b.within true)) (goal :: goals) s →
      ∃ again s', Yields inner s s' ∧
        Stands (b.closing :: more) (some (b.within again)) (goal :: goals) s')
    (block loose : Bool) :
    GivesNode (r.readNode block loose) (b.first :: inner ++ [b.last]) more goal goals := by
  obtain ⟨t, ts, htokens, hkind, hnext⟩ := h.exists_token
  have hopening := readNode_opening htokens hkind block loose
  obtain ⟨again, through, hthrough, hstands⟩ :=
    hinner ((r.next.enter t.start).goTo (b.within true)) ⟨⟨hnext.tokens_eq, hnext.goals_eq⟩, rfl⟩
  obtain ⟨r', hclosing, hafter⟩ := hstands.closing
  exact ⟨r', ((Gives.single hopening).trans hthrough).trans (hclosing.yields hstands.goal_eq),
    hafter⟩

/-! ### Items and members -/

/-- A node begins with a token of this kind, if it has no anchor and no tag. -/
def beginsNode : TokenKind → Bool
  | .scalar _ _ => true
  | .flowSequenceStart => true
  | .flowMappingStart => true
  | _ => false

/-- The comma before what is not the first. -/
def comma (first : Bool) : List TokenKind :=
  if first then [] else [.flowEntry]

theorem Stands.readComma {first : Bool} {kinds : List TokenKind} {goal : Option Goal}
    {goals : List Goal} {r : EventReader} (h : Stands (comma first ++ kinds) goal goals r)
    (context expected : String) :
    ∃ s, r.readComma first context expected = .ok s ∧ Awaits kinds goals s := by
  cases first with
  | true => exact ⟨r, rfl, h.toAwaits⟩
  | false =>
    obtain ⟨t, ts, htokens, hkind, hnext⟩ := h.exists_token
    refine ⟨r.next, ?_, hnext⟩
    unfold EventReader.readComma
    simp only [Bool.false_eq_true, if_false]
    rw [peek_bind htokens, hkind]
    rfl

/-- An item, with its comma, is read as a node. -/
theorem Stands.entry {first : Bool} {kind : TokenKind} {kinds : List TokenKind} {goals : List Goal}
    {r : EventReader}
    (h : Stands (comma first ++ kind :: kinds) (some (.flowEntry first)) goals r)
    (hkind : beginsNode kind = true) :
    ∃ s, r.read (.flowEntry first) = s.readNode false false ∧
      Awaits (kind :: kinds) (.flowEntry false :: goals) s := by
  obtain ⟨there, hcomma, hthere⟩ :=
    h.readComma "while parsing a flow sequence" "expected ',' or ']', but got "
  obtain ⟨t, ts, htokens, ht, -⟩ := hthere.exists_token
  obtain ⟨t', ts', htokens', ht'⟩ : ∃ t' ts', r.tokens = t' :: ts' ∧
      (t'.kind == .flowSequenceEnd) = false := by
    cases first with
    | true =>
      obtain ⟨t', ts', htokens', ht', -⟩ := h.exists_token
      refine ⟨t', ts', htokens', beq_eq_false_iff_ne.2 fun hend => ?_⟩
      rw [← ht', hend] at hkind
      cases hkind
    | false =>
      obtain ⟨t', ts', htokens', ht', -⟩ := h.exists_token
      exact ⟨t', ts', htokens', by rw [ht']; rfl⟩
  refine ⟨there.push (.flowEntry false), ?_, hthere.tokens_eq, ?_⟩
  · change r.readFlowEntry first = _
    rw [readFlowEntry, peek_bind htokens', ht']
    simp only [Bool.false_eq_true, if_false, hcomma]
    change (there.peek >>= _) = _
    rw [peek_bind htokens, ht]
    cases kind <;> first | rfl | cases hkind
  · exact congrArg (Goal.flowEntry false :: ·) hthere.goals_eq

/-- The name of a member, with its comma, is read as a node. -/
theorem Stands.key {first : Bool} {kind : TokenKind} {kinds : List TokenKind} {goals : List Goal}
    {r : EventReader}
    (h : Stands (comma first ++ .key :: kind :: kinds) (some (.flowKey first)) goals r)
    (hkind : beginsNode kind = true) :
    ∃ s, r.read (.flowKey first) = s.readNode false false ∧
      Awaits (kind :: kinds) (.flowValue :: goals) s := by
  obtain ⟨there, hcomma, hthere⟩ :=
    h.readComma "while parsing a flow mapping" "expected ',' or '\x7d', but got "
  obtain ⟨t, ts, htokens, ht, hnext⟩ := hthere.exists_token
  obtain ⟨u, us, htokensNext, hu, -⟩ := hnext.exists_token
  obtain ⟨t', ts', htokens', ht'⟩ : ∃ t' ts', r.tokens = t' :: ts' ∧
      (t'.kind == .flowMappingEnd) = false := by
    cases first <;>
    · obtain ⟨t', ts', htokens', ht', -⟩ := h.exists_token
      exact ⟨t', ts', htokens', by rw [ht']; rfl⟩
  refine ⟨there.next.push .flowValue, ?_, hnext.tokens_eq, ?_⟩
  · change r.readFlowKey first = _
    rw [readFlowKey, peek_bind htokens', ht']
    simp only [Bool.false_eq_true, if_false, hcomma]
    change (there.peek >>= _) = _
    rw [peek_bind htokens, ht]
    change (there.next.peek >>= _) = _
    rw [peek_bind htokensNext, hu]
    cases kind <;> first | rfl | cases hkind
  · exact congrArg (Goal.flowValue :: ·) hnext.goals_eq

/-- The value of a member is read as a node. -/
theorem Stands.value {kind : TokenKind} {kinds : List TokenKind} {goals : List Goal}
    {r : EventReader} (h : Stands (.value :: kind :: kinds) (some .flowValue) goals r)
    (hkind : beginsNode kind = true) :
    ∃ s, r.read .flowValue = s.readNode false false ∧
      Awaits (kind :: kinds) (.flowKey false :: goals) s := by
  obtain ⟨t, ts, htokens, ht, hnext⟩ := h.exists_token
  obtain ⟨u, us, htokensNext, hu, -⟩ := hnext.exists_token
  refine ⟨r.next.push (.flowKey false), ?_, hnext.tokens_eq, ?_⟩
  · change r.readFlowValue = _
    rw [readFlowValue, peek_bind htokens, ht]
    change (r.next.peek >>= _) = _
    rw [peek_bind htokensNext, hu]
    cases kind <;> first | rfl | cases hkind
  · exact congrArg (Goal.flowKey false :: ·) hnext.goals_eq

/-! ### Documents -/

theorem Stands.streamStart {kinds : List TokenKind} {r : EventReader}
    (h : Stands (.streamStart :: kinds) (some .streamStart) [] r) :
    ∃ r', Yields [.streamStart] r r' ∧ Stands kinds (some .implicitDocument) [] r' := by
  obtain ⟨t, ts, htokens, -, hnext⟩ := h.exists_token
  have hread : r.read .streamStart =
      .ok (⟨.streamStart, t.start⟩, r.next.goTo .implicitDocument) := by
    change (r.peek >>= _) = _
    rw [peek_bind htokens]
    rfl
  exact ⟨_, (Gives.single hread).yields h.goal_eq, ⟨hnext.tokens_eq, hnext.goals_eq⟩, rfl⟩

/-- A document that is not marked begins with a node. -/
theorem Stands.documentStart {kind : TokenKind} {kinds : List TokenKind} {r : EventReader}
    (h : Stands (kind :: kinds) (some .implicitDocument) [] r) (hkind : beginsNode kind = true) :
    ∃ r', Yields [.documentStart] r r' ∧
      Stands (kind :: kinds) (some .blockNode) [.documentEnd] r' := by
  obtain ⟨t, ts, htokens, ht, -⟩ := h.exists_token
  have hread : r.read .implicitDocument = .ok (⟨.documentStart, t.start⟩,
      (({ r with shorthands := standardShorthands }).push .documentEnd).goTo .blockNode) := by
    change r.readImplicitDocument = _
    rw [readImplicitDocument, peek_bind htokens, ht]
    cases kind <;> first | rfl | cases hkind
  exact ⟨_, (Gives.single hread).yields h.goal_eq,
    ⟨h.tokens_eq, congrArg (Goal.documentEnd :: ·) h.goals_eq⟩, rfl⟩

/-- After the only node the document and the stream end. -/
theorem Stands.documentEnd {r : EventReader}
    (h : Stands [.streamEnd] (some .documentEnd) [] r) :
    ∃ r', Yields [.documentEnd, .streamEnd] r r' ∧ r'.goal = none := by
  obtain ⟨t, ts, htokens, ht, -⟩ := h.exists_token
  have hend : r.read .documentEnd = .ok (⟨.documentEnd, t.start⟩, r.goTo .document) := by
    change r.readDocumentEnd = _
    rw [readDocumentEnd, peek_bind htokens, ht]
    rfl
  have hstream : (r.goTo .document).read .document =
      .ok (⟨.streamEnd, t.start⟩, { (r.goTo .document).next with goal := none }) := by
    have hdrop : { r.goTo .document with tokens :=
        (r.goTo .document).tokens.dropWhile fun t => t.kind == TokenKind.documentEnd } =
        r.goTo .document := by
      have hstay : (t.kind == TokenKind.documentEnd) = false := by rw [ht]; rfl
      simp only [goTo, htokens, List.dropWhile_cons, hstay]
      rfl
    change (r.goTo .document).readDocument = _
    rw [readDocument, hdrop]
    have htokens' : (r.goTo .document).tokens = t :: ts := htokens
    change ((r.goTo .document).peek >>= _) = _
    rw [peek_bind htokens', ht]
    rfl
  exact ⟨_, ((Gives.single hend).yields h.goal_eq).trans ((Gives.single hstream).yields rfl), rfl⟩

theorem events_of_done {r : EventReader} (h : r.goal = none) (fuel : Nat) :
    r.events fuel = ([], none) := by
  cases fuel with
  | zero => rfl
  | succ fuel => rw [events, h]

end EventReader

open EventReader

/-- The events of a document that is one node. -/
theorem Event.ofTokens_of_node {kind : TokenKind} {kinds : List TokenKind}
    {nodes : List EventKind} {tokens : List Token} (hkind : beginsNode kind = true)
    (htokens : tokens.map Token.kind = .streamStart :: kind :: kinds ++ [.streamEnd])
    (hlength : nodes.length ≤ kinds.length + 1)
    (hnode : ∀ r, Awaits (kind :: kinds ++ [.streamEnd]) [.documentEnd] r →
      GivesNode (r.readNode true false) nodes [.streamEnd] .documentEnd []) :
    ∃ events, Event.ofTokens tokens none = (events, none) ∧
      events.map Event.kind =
        .streamStart :: .documentStart :: nodes ++ [.documentEnd, .streamEnd] := by
  obtain ⟨begun, hbegin, hbegun⟩ :=
    Stands.streamStart (r := { tokens, fault := none }) ⟨⟨htokens, rfl⟩, rfl⟩
  obtain ⟨opened, hopen, hopened⟩ := hbegun.documentStart hkind
  obtain ⟨closed, hread, hclosed⟩ := hnode opened hopened.toAwaits
  have hnodes : Gives (opened.read .blockNode) nodes closed := hread
  obtain ⟨done, hend, hdone⟩ := hclosed.documentEnd
  obtain ⟨found, hfound, hevents⟩ :=
    ((hbegin.trans hopen).trans (hnodes.yields hopened.goal_eq)).trans hend
  have hfuel : ∃ fuel, 4 * tokens.length + 8 = found.length + fuel := by
    refine ⟨4 * tokens.length + 8 - found.length, ?_⟩
    have hcount := congrArg List.length hfound
    have hwidth := congrArg List.length htokens
    simp only [List.length_map, List.length_append, List.length_cons, List.length_nil]
      at hcount hwidth
    omega
  obtain ⟨fuel, hfuel⟩ := hfuel
  refine ⟨found, ?_, hfound⟩
  rw [Event.ofTokens, hfuel, hevents, events_of_done hdone, List.append_nil]

end Docpress.Yaml
