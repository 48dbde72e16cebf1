import Docpress.Proofs.Json.Tokens
import Docpress.Proofs.Yaml.Events
/-!
The events of a JSON document. Each of its values is a node, and so is each name.
-/

namespace Docpress.Json

open Yaml Yaml.EventReader

/-- The event of a name. -/
def Name.event (name : Name) : EventKind :=
  .scalar none .absent { chars := name.chars.map StringChar.value } false

mutual

/-- The events of a value. -/
def Written.events : Written → List EventKind
  | .leaf l => [.scalar none .absent { chars := l.chars } l.isPlain]
  | .emptyArray _ => [.sequenceStart none .absent, .sequenceEnd]
  | .array items => .sequenceStart none .absent :: items.events ++ [.sequenceEnd]
  | .emptyObject _ => [.mappingStart none .absent, .mappingEnd]
  | .object members => .mappingStart none .absent :: members.events ++ [.mappingEnd]

/-- The events of items. -/
def Items.events : Items → List EventKind
  | .one _ item _ => item.events
  | .more _ item _ rest => item.events ++ rest.events

/-- The events of members. -/
def Members.events : Members → List EventKind
  | .one name _ value _ => name.event :: value.events
  | .more name _ value _ rest => name.event :: value.events ++ rest.events

end

/-- A value begins with a token that nodes begin with. -/
theorem Written.exists_kinds (w : Written) :
    ∃ kind kinds, w.kinds = kind :: kinds ∧ beginsNode kind = true := by
  cases w <;> exact ⟨_, _, rfl, rfl⟩

mutual

/-- There are no more events than tokens. -/
theorem Written.length_events_le (w : Written) : w.events.length ≤ w.kinds.length := by
  cases w with
  | leaf l => exact Nat.le_refl _
  | emptyArray gap => exact Nat.le_refl _
  | array items =>
    have := items.length_events_le
    simp only [Written.events, Written.kinds, List.length_append, List.length_cons, List.length_nil]
    omega
  | emptyObject gap => exact Nat.le_refl _
  | object members =>
    have := members.length_events_le
    simp only [Written.events, Written.kinds, List.length_append, List.length_cons, List.length_nil]
    omega

theorem Items.length_events_le (items : Items) : items.events.length ≤ items.kinds.length := by
  cases items with
  | one before item after => exact item.length_events_le
  | more before item after others =>
    have := item.length_events_le
    have := others.length_events_le
    simp only [Items.events, Items.kinds, List.length_append, List.length_cons]
    omega

theorem Members.length_events_le (members : Members) :
    members.events.length ≤ members.kinds.length := by
  cases members with
  | one name before value after =>
    have := value.length_events_le
    simp only [Members.events, Members.kinds, Name.kinds, List.length_append, List.length_cons,
      List.length_nil]
    omega
  | more name before value after others =>
    have := value.length_events_le
    have := others.length_events_le
    simp only [Members.events, Members.kinds, Name.kinds, List.length_append, List.length_cons,
      List.length_nil]
    omega

end

/-- A value that is an item, with its comma. -/
theorem Written.yields_item {w : Written} {first : Bool} {kinds : List TokenKind}
    {goals : List Goal}
    (hnode : ∀ s, Awaits (w.kinds ++ kinds) (.flowEntry false :: goals) s →
      GivesNode (s.readNode false false) w.events kinds (.flowEntry false) goals) {r : EventReader}
    (h : Stands (comma first ++ (w.kinds ++ kinds)) (some (.flowEntry first)) goals r) :
    ∃ r', Yields w.events r r' ∧ Stands kinds (some (.flowEntry false)) goals r' := by
  obtain ⟨kind, more, hkinds, hbegins⟩ := w.exists_kinds
  rw [hkinds] at h hnode
  obtain ⟨there, hread, hthere⟩ := h.entry hbegins
  obtain ⟨r', hgives, hafter⟩ := hnode there hthere
  exact ⟨r', (hread ▸ hgives).yields h.goal_eq, hafter⟩

/-- A member: its name, with its comma, and its value. -/
theorem Written.yields_member {w : Written} (name : Name) {first : Bool} {kinds : List TokenKind}
    {goals : List Goal}
    (hnode : ∀ s, Awaits (w.kinds ++ kinds) (.flowKey false :: goals) s →
      GivesNode (s.readNode false false) w.events kinds (.flowKey false) goals) {r : EventReader}
    (h : Stands (comma first ++ (name.kinds ++ (w.kinds ++ kinds))) (some (.flowKey first)) goals
      r) :
    ∃ r', Yields (name.event :: w.events) r r' ∧ Stands kinds (some (.flowKey false)) goals r' := by
  obtain ⟨there, hread, hthere⟩ := h.key rfl
  obtain ⟨named, hname, hnamed⟩ := hthere.scalar false false
  obtain ⟨kind, more, hkinds, hbegins⟩ := w.exists_kinds
  rw [hkinds] at hnamed hnode
  obtain ⟨valued, hvalue, hvalued⟩ := hnamed.value hbegins
  obtain ⟨r', hgives, hafter⟩ := hnode valued hvalued
  exact ⟨r', ((hread ▸ hname).yields h.goal_eq).trans ((hvalue ▸ hgives).yields hnamed.goal_eq),
    hafter⟩

mutual

/-- A value is read as a node. -/
theorem Written.givesNode (w : Written) {kinds : List TokenKind} {goal : Goal} {goals : List Goal}
    {r : EventReader} (h : Awaits (w.kinds ++ kinds) (goal :: goals) r) (block loose : Bool) :
    GivesNode (r.readNode block loose) w.events kinds goal goals := by
  cases w with
  | leaf l => exact h.scalar block loose
  | emptyArray gap =>
    exact h.between (b := .square) (fun s hs => ⟨true, s, .refl s, hs⟩) block loose
  | array items =>
    rw [Written.kinds, List.cons_append, List.cons_append, List.append_assoc] at h
    exact h.between (b := .square) (fun s hs => ⟨false, items.yields true hs⟩) block loose
  | emptyObject gap =>
    exact h.between (b := .brace) (fun s hs => ⟨true, s, .refl s, hs⟩) block loose
  | object members =>
    rw [Written.kinds, List.cons_append, List.cons_append, List.append_assoc] at h
    exact h.between (b := .brace) (fun s hs => ⟨false, members.yields true hs⟩) block loose

/-- Items are read, the first without a comma. -/
theorem Items.yields (items : Items) (first : Bool) {kinds : List TokenKind} {goals : List Goal}
    {r : EventReader}
    (h : Stands (comma first ++ (items.kinds ++ kinds)) (some (.flowEntry first)) goals r) :
    ∃ r', Yields items.events r r' ∧ Stands kinds (some (.flowEntry false)) goals r' := by
  cases items with
  | one before item after =>
    exact Written.yields_item (fun _ hs => item.givesNode hs false false) h
  | more before item after others =>
    rw [Items.kinds, List.append_assoc] at h
    obtain ⟨there, hitem, hthere⟩ :=
      Written.yields_item (fun _ hs => item.givesNode hs false false) h
    obtain ⟨r', hothers, hafter⟩ := others.yields false hthere
    exact ⟨r', hitem.trans hothers, hafter⟩

/-- Members are read, the first without a comma. -/
theorem Members.yields (members : Members) (first : Bool) {kinds : List TokenKind}
    {goals : List Goal} {r : EventReader}
    (h : Stands (comma first ++ (members.kinds ++ kinds)) (some (.flowKey first)) goals r) :
    ∃ r', Yields members.events r r' ∧ Stands kinds (some (.flowKey false)) goals r' := by
  cases members with
  | one name before value after =>
    rw [Members.kinds, List.append_assoc] at h
    exact Written.yields_member name (fun _ hs => value.givesNode hs false false) h
  | more name before value after others =>
    rw [Members.kinds, List.append_assoc, List.append_assoc] at h
    obtain ⟨there, hvalue, hthere⟩ :=
      Written.yields_member name (fun _ hs => value.givesNode hs false false) h
    obtain ⟨r', hothers, hafter⟩ := others.yields false hthere
    exact ⟨r', hvalue.trans hothers, hafter⟩

end

/-- The events of a document are those of its value. -/
theorem Document.events {d : Document} (hd : d.isYaml = true) :
    ∃ tokens events, Token.ofText (Text.unifyLineEnds d.text) = (tokens, none) ∧
      Event.ofTokens tokens none = (events, none) ∧ events.map Event.kind =
        .streamStart :: .documentStart :: d.root.events ++ [.documentEnd, .streamEnd] := by
  obtain ⟨tokens, hread, htokens⟩ := Document.tokens hd
  have hlength := d.root.length_events_le
  obtain ⟨kind, kinds, hkinds, hbegins⟩ := d.root.exists_kinds
  rw [hkinds] at htokens hlength
  obtain ⟨events, hevents⟩ := Event.ofTokens_of_node hbegins htokens hlength fun r hr =>
    d.root.givesNode (hkinds ▸ hr) true false
  exact ⟨tokens, events, hread, hevents⟩

end Docpress.Json
