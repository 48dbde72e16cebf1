import Docpress.Proofs.Yaml.Table
/-!
Composing nodes without anchors and tags. Nodes are only added to the table, and a collection is
filled when all that it holds has been composed, so what was added before stays as it is.
-/

namespace Docpress.Yaml.Composer

open NodeTable

/-- Nodes have been added, and events of some kinds are left. -/
structure Grows (c c' : Composer) (more : List EventKind) : Prop where
  nodes : c.nodes <+: c'.nodes
  events : c'.events.map Event.kind = more

theorem Grows.trans {c c' c'' : Composer} {kinds more : List EventKind} (h : Grows c c' kinds)
    (h' : Grows c' c'' more) : Grows c c'' more :=
  ⟨h.nodes.trans h'.nodes, h'.events⟩

/-- A value is composed. -/
def Composes (step : Except Fault (Nat × Composer)) (c : Composer) (v : Value)
    (more : List EventKind) : Prop :=
  ∃ n c', step = .ok (n, c') ∧ Grows c c' more ∧ Holds c'.nodes c.nodes.length n v

/-- The items of a list are composed. -/
def ComposesItems (step : Except Fault (List Nat × Composer)) (c : Composer) (values : List Value)
    (more : List EventKind) : Prop :=
  ∃ items c', step = .ok (items, c') ∧ Grows c c' more ∧
    HoldItems c'.nodes c.nodes.length items values

/-- The entries of a mapping are composed. -/
def ComposesEntries (step : Except Fault (List (Nat × Nat) × Composer)) (c : Composer)
    (values : List (Value × Value)) (more : List EventKind) : Prop :=
  ∃ entries c', step = .ok (entries, c') ∧ Grows c c' more ∧
    HoldEntries c'.nodes c.nodes.length entries values

variable {c : Composer} {more : List EventKind} (fuel : Nat)

theorem exists_event {kind : EventKind} (h : c.events.map Event.kind = kind :: more) :
    ∃ e es, c.events = e :: es ∧ e.kind = kind ∧ c.next.events.map Event.kind = more := by
  obtain ⟨e, es, hevents, hkind, hmore⟩ := List.map_eq_cons_iff.1 h
  refine ⟨e, es, hevents, hkind, ?_⟩
  rw [next, hevents]
  exact hmore

theorem peek_bind {α : Type} {e : Event} {es : List Event} (h : c.events = e :: es)
    (f : Event → Except Fault α) : (c.peek >>= f) = f e := by
  rw [peek, h]
  rfl

/-! ### Scalars -/

/-- A scalar becomes the next node. -/
theorem composeNode_scalar {s : ScalarText} {isOpen : Bool}
    (h : c.events.map Event.kind = .scalar none .absent s isOpen :: more) :
    ∃ mark c', composeNode (fuel + 1) c = .ok (c.nodes.length, c') ∧ Grows c c' more ∧
      c'.nodes[c.nodes.length]? = some ⟨scalarTag isOpen s .absent, .scalar s, mark⟩ := by
  obtain ⟨e, es, hevents, hkind, hmore⟩ := exists_event h
  refine ⟨e.start, (c.next.add none ⟨scalarTag isOpen s .absent, .scalar s, e.start⟩).2, ?_,
    ⟨List.prefix_append _ _, hmore⟩, List.getElem?_concat_length⟩
  rw [composeNode, peek_bind hevents]
  simp only [hkind]
  rfl

theorem composes_scalar {s : ScalarText} {isOpen : Bool}
    (h : c.events.map Event.kind = .scalar none .absent s isOpen :: more) {type : ValueType}
    {v : Value} (htype : ValueType.ofTag? (scalarTag isOpen s .absent) = some type)
    (hflat : type.isCollection = false) (hread : ∀ t n, readAs t n type s = .ok v)
    (hkey : v.isKey = true) : Composes (composeNode (fuel + 1) c) c v more := by
  obtain ⟨mark, c', hcompose, hgrows, hnode⟩ := composeNode_scalar fuel h
  exact ⟨_, c', hcompose, hgrows, .scalar (Nat.le_refl _) hnode htype hflat hread hkey⟩

/-! ### Collections -/

/-- The state in a collection that has begun. -/
def begun (c : Composer) (name : String) (shape : NodeShape) (mark : Mark) : Composer :=
  (c.next.add none ⟨standardTag name, shape, mark⟩).2

/-- A collection is filled when all that it holds has been composed. Nothing else changes. -/
theorem exists_filled {name : String} {empty : NodeShape} {mark : Mark} {c' : Composer}
    (h : Grows (c.begun name empty mark) c' more) (shape : NodeShape) :
    Grows c (c'.fill c.nodes.length shape) more ∧
      (c'.fill c.nodes.length shape).nodes[c.nodes.length]? =
        some ⟨standardTag name, shape, mark⟩ ∧
      AgreesFrom c'.nodes (c'.fill c.nodes.length shape).nodes
        (c.begun name empty mark).nodes.length ∧
      c.nodes.length ≤ (c.begun name empty mark).nodes.length := by
  obtain ⟨added, hadded⟩ := h.nodes
  have hlength : (c.begun name empty mark).nodes.length = c.nodes.length + 1 := List.length_append
  have hfilled : (c'.fill c.nodes.length shape).nodes =
      c.nodes ++ ⟨standardTag name, shape, mark⟩ :: added := by
    rw [fill, ← hadded, begun, add]
    dsimp only
    rw [List.append_assoc]
    exact List.modifyTailIdx_add _ 0 c.nodes (⟨standardTag name, empty, mark⟩ :: added)
  rw [hlength]
  refine ⟨⟨hfilled ▸ List.prefix_append _ _, h.events⟩, ?_, .of_modify (Nat.lt_succ_self _) _,
    Nat.le_succ _⟩
  rw [hfilled, List.getElem?_append_right (Nat.le_refl _), Nat.sub_self]
  rfl

theorem composes_sequence {kinds : List EventKind} {values : List Value}
    (h : c.events.map Event.kind = .sequenceStart none .absent :: kinds)
    (hitems : ∀ c', c'.events.map Event.kind = kinds →
      ComposesItems (composeItems fuel c') c' values more) :
    Composes (composeNode (fuel + 1) c) c (.list values) more := by
  obtain ⟨e, es, hevents, hkind, hkinds⟩ := exists_event h
  obtain ⟨items, c', hcompose, hgrows, hhold⟩ :=
    hitems (c.begun "seq" (.sequence []) e.start) hkinds
  obtain ⟨hfilled, hnode, hagree, hstart⟩ := exists_filled hgrows (.sequence items)
  refine ⟨c.nodes.length, c'.fill c.nodes.length (.sequence items), ?_, hfilled,
    .list (Nat.le_refl _) hnode (hhold.mono hagree hstart)⟩
  rw [composeNode, peek_bind hevents]
  simp only [hkind]
  change (composeItems fuel (c.begun "seq" (.sequence []) e.start) >>= _) = _
  rw [hcompose]
  rfl

theorem composes_mapping {kinds : List EventKind} {values : List (Value × Value)}
    (h : c.events.map Event.kind = .mappingStart none .absent :: kinds)
    (hentries : ∀ c', c'.events.map Event.kind = kinds →
      ComposesEntries (composeEntries fuel c') c' values more) :
    Composes (composeNode (fuel + 1) c) c (.mapping values) more := by
  obtain ⟨e, es, hevents, hkind, hkinds⟩ := exists_event h
  obtain ⟨entries, c', hcompose, hgrows, hhold⟩ :=
    hentries (c.begun "map" (.mapping []) e.start) hkinds
  obtain ⟨hfilled, hnode, hagree, hstart⟩ := exists_filled hgrows (.mapping entries)
  refine ⟨c.nodes.length, c'.fill c.nodes.length (.mapping entries), ?_, hfilled,
    .mapping (Nat.le_refl _) hnode (hhold.mono hagree hstart)⟩
  rw [composeNode, peek_bind hevents]
  simp only [hkind]
  change (composeEntries fuel (c.begun "map" (.mapping []) e.start) >>= _) = _
  rw [hcompose]
  rfl

/-! ### Items and entries -/

theorem composesItems_nil (h : c.events.map Event.kind = .sequenceEnd :: more) :
    ComposesItems (composeItems (fuel + 1) c) c [] more := by
  obtain ⟨e, es, hevents, hkind, hmore⟩ := exists_event h
  refine ⟨[], c.next, ?_, ⟨List.prefix_rfl, hmore⟩, .nil⟩
  rw [composeItems, peek_bind hevents, hkind]
  rfl

theorem composesItems_cons {kind : EventKind} {kinds rest : List EventKind} {v : Value}
    {values : List Value} (h : c.events.map Event.kind = kind :: kinds)
    (hkind : kind ≠ .sequenceEnd) (hitem : Composes (composeNode fuel c) c v rest)
    (hitems : ∀ c', c'.events.map Event.kind = rest →
      ComposesItems (composeItems fuel c') c' values more) :
    ComposesItems (composeItems (fuel + 1) c) c (v :: values) more := by
  obtain ⟨e, es, hevents, rfl, -⟩ := exists_event h
  obtain ⟨n, there, hcompose, hgrows, hhold⟩ := hitem
  obtain ⟨items, c', hrest, hgrows', hhold'⟩ := hitems there hgrows.events
  refine ⟨n :: items, c', ?_, hgrows.trans hgrows', .cons ?_ ?_⟩
  · rw [composeItems, peek_bind hevents, if_neg (by simpa using hkind), hcompose]
    change (composeItems fuel there >>= _) = _
    rw [hrest]
    rfl
  · exact hhold.mono (.of_grown hgrows'.nodes _) (Nat.le_refl _)
  · exact hhold'.mono (.of_grown List.prefix_rfl _) hgrows.nodes.length_le

theorem composesEntries_nil (h : c.events.map Event.kind = .mappingEnd :: more) :
    ComposesEntries (composeEntries (fuel + 1) c) c [] more := by
  obtain ⟨e, es, hevents, hkind, hmore⟩ := exists_event h
  refine ⟨[], c.next, ?_, ⟨List.prefix_rfl, hmore⟩, .nil⟩
  rw [composeEntries, peek_bind hevents, hkind]
  rfl

/-- The key is a name. -/
theorem composesEntries_cons {name : Text} {kinds rest : List EventKind} {v : Value}
    {values : List (Value × Value)}
    (h : c.events.map Event.kind = .scalar none .absent { chars := name } false :: kinds)
    (hvalue : ∀ c', c'.events.map Event.kind = kinds →
      Composes (composeNode (fuel + 1) c') c' v rest)
    (hentries : ∀ c', c'.events.map Event.kind = rest →
      ComposesEntries (composeEntries (fuel + 1) c') c' values more) :
    ComposesEntries (composeEntries (fuel + 2) c) c ((.text name, v) :: values) more := by
  obtain ⟨e, es, hevents, hkind, -⟩ := exists_event h
  obtain ⟨mark, named, hkey, hgrows, hnode⟩ := composeNode_scalar fuel h
  obtain ⟨n, there, hcompose, hgrows', hhold⟩ := hvalue named hgrows.events
  obtain ⟨entries, c', hrest, hgrows'', hhold'⟩ := hentries there hgrows'.events
  have hname : HoldsName named.nodes c.nodes.length c.nodes.length name :=
    ⟨Nat.le_refl _, mark, hnode⟩
  refine ⟨(c.nodes.length, n) :: entries, c', ?_, (hgrows.trans hgrows').trans hgrows'',
    .cons ?_ ?_ ?_⟩
  · rw [composeEntries, peek_bind hevents, hkind, if_neg (by simp), hkey]
    change (composeNode (fuel + 1) named >>= _) = _
    rw [hcompose]
    change (composeEntries (fuel + 1) there >>= _) = _
    rw [hrest]
    rfl
  · exact hname.mono (.of_grown (hgrows'.nodes.trans hgrows''.nodes) _) (Nat.le_refl _)
  · exact hhold.mono (.of_grown hgrows''.nodes _) hgrows.nodes.length_le
  · exact hhold'.mono (.of_grown List.prefix_rfl _) (hgrows.trans hgrows').nodes.length_le

end Composer

/-! ### Documents -/

open Composer

/-- A document that is one node leads to a table in which a node holds its value. -/
theorem exists_holds {nodes : List EventKind} {v : Value} {events : List Event}
    (hevents : events.map Event.kind =
      .streamStart :: .documentStart :: (nodes ++ [.documentEnd, .streamEnd]))
    (hnode : ∀ fuel c, nodes.length ≤ fuel →
      c.events.map Event.kind = nodes ++ [.documentEnd, .streamEnd] →
      Composes (composeNode fuel c) c v [.documentEnd, .streamEnd]) :
    ∃ t n, composeEvents events none = .ok (some (t, n)) ∧ NodeTable.Holds t 0 n v := by
  let start : Composer := { events, fault := none }
  obtain ⟨_, _, hstream, -, hrest⟩ := exists_event (c := start) hevents
  obtain ⟨_, _, hdocument, hkind, hnodes⟩ := exists_event hrest
  have hlength : nodes.length ≤ 2 * start.next.events.length + 2 := by
    have := congrArg List.length hrest
    simp only [List.length_map, List.length_cons, List.length_append] at this
    omega
  obtain ⟨n, c, hcompose, hgrows, hhold⟩ := hnode _ start.next.next hlength hnodes
  obtain ⟨_, _, hdocumentEnd, -, hlast⟩ := exists_event hgrows.events
  obtain ⟨_, _, hstreamEnd, hend, -⟩ := exists_event hlast
  refine ⟨c.next.nodes, n, ?_, hhold⟩
  change start.composeDocument = _
  rw [composeDocument, peek_bind hstream]
  dsimp only
  rw [peek_bind hdocument, hkind, if_neg (by decide), hcompose]
  change (c.peek >>= _) = _
  rw [peek_bind hdocumentEnd]
  dsimp only
  rw [peek_bind hstreamEnd, hend]
  rfl

end Docpress.Yaml
