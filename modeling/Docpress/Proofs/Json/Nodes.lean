import Docpress.Proofs.Json.Events
import Docpress.Proofs.Yaml.Compose
/-!
The value of a JSON document, as YAML reads it. Every leaf has the type that its text shows, every
collection holds what is written in it, and nothing is merged.
-/

namespace Docpress.Json

open Yaml Yaml.Composer

/-! ### Leaves -/

/-- YAML reads a leaf as a value of some type. -/
structure Leaf.ReadAs (l : Leaf) (type : ValueType) : Prop where
  tag : ValueType.ofTag? (scalarTag l.isPlain { chars := l.chars } .absent) = some type
  flat : type.isCollection = false
  read : ∀ t n, NodeTable.readAs t n type { chars := l.chars } = .ok l.value
  key : l.value.isKey = true

theorem Number.exists_readAs {n : Number} (hn : n.isYaml = true) :
    ∃ type, (Leaf.number n).ReadAs type := by
  cases hfraction : n.fraction with
  | none =>
    cases hexponent : n.exponent with
    | none =>
      have hlength : n.whole.chars.length ≤ longestDecimal := by
        simpa [isYaml, hfraction, hexponent] using hn
      refine ⟨.whole, ?_, rfl, fun t m => ?_, ?_⟩
      · change ValueType.ofTag? (tagOfForm n.text) = _
        rw [n.tagOfForm_whole hfraction hexponent]
        decide
      · change ((wholeValue n.text).map Value.whole).mapError _ = _
        rw [n.wholeValue_text hfraction hexponent hlength]
        rfl
      · simp [Leaf.value, value, hfraction, hexponent, Value.isKey]
    | some e => simp [isYaml, hfraction, hexponent] at hn
  | some d =>
    have hsigned : ∀ e ∈ n.exponent, e.negative.isSome = true := by
      intro e he
      simpa [isYaml, hfraction, Option.mem_def.1 he] using hn
    refine ⟨.real, ?_, rfl, fun t m => ?_, ?_⟩
    · change ValueType.ofTag? (tagOfForm n.text) = _
      rw [n.tagOfForm_real hfraction hsigned]
      decide
    · change ((realValue n.text).map Value.real).mapError _ = _
      rw [n.realValue_text hfraction]
      rfl
    · simp [Leaf.value, value, hfraction, Value.isKey]

theorem Leaf.exists_readAs {l : Leaf} (hl : l.isYaml = true) : ∃ type, l.ReadAs type := by
  cases l with
  | null => exact ⟨.null, by decide, rfl, fun _ _ => rfl, rfl⟩
  | flag b => cases b <;> exact ⟨.flag, by decide, rfl, fun _ _ => rfl, rfl⟩
  | number n => exact n.exists_readAs hl
  | string s => exact ⟨.text, NodeTable.ofTag?_str, rfl, fun _ _ => rfl, rfl⟩

/-! ### Values -/

/-- A value begins with an event, and it ends no list. -/
theorem Written.exists_events (w : Written) :
    ∃ kind kinds, w.events = kind :: kinds ∧ kind ≠ .sequenceEnd := by
  cases w <;> exact ⟨_, _, rfl, by simp⟩

theorem Written.length_events_pos (w : Written) : 0 < w.events.length := by
  obtain ⟨kind, kinds, hevents, -⟩ := w.exists_events
  rw [hevents]
  exact Nat.succ_pos _

/-- An item is composed, and the items after it. -/
theorem Written.composesItems {w : Written} {values : List Value} {fuel : Nat} {c : Composer}
    {kinds more : List EventKind} (h : c.events.map Event.kind = w.events ++ kinds)
    (hitem : Composes (composeNode fuel c) c w.value kinds)
    (hitems : ∀ c', c'.events.map Event.kind = kinds →
      ComposesItems (composeItems fuel c') c' values more) :
    ComposesItems (composeItems (fuel + 1) c) c (w.value :: values) more := by
  obtain ⟨kind, rest, hevents, hkind⟩ := w.exists_events
  rw [hevents] at h
  exact composesItems_cons fuel h hkind hitem hitems

mutual

/-- A value is composed to a node that holds it. -/
theorem Written.composes (w : Written) (hw : w.isYaml = true) {fuel : Nat} {c : Composer}
    {more : List EventKind} (hfuel : w.events.length ≤ fuel)
    (h : c.events.map Event.kind = w.events ++ more) :
    Composes (composeNode fuel c) c w.value more := by
  cases w with
  | leaf l =>
    obtain ⟨fuel, rfl⟩ : ∃ n, fuel = n + 1 := Nat.exists_eq_add_of_le' hfuel
    obtain ⟨type, hread⟩ := l.exists_readAs hw
    exact composes_scalar fuel h hread.tag hread.flat hread.read hread.key
  | emptyArray gap =>
    obtain ⟨fuel, rfl⟩ : ∃ n, fuel = n + 2 := Nat.exists_eq_add_of_le' hfuel
    exact composes_sequence (fuel + 1) h fun c' hc' => composesItems_nil fuel hc'
  | array items =>
    simp only [Written.events, List.length_append, List.length_cons, List.length_nil] at hfuel
    obtain ⟨fuel, rfl⟩ : ∃ n, fuel = n + 1 := ⟨fuel - 1, by omega⟩
    rw [Written.events, List.cons_append, List.cons_append, List.append_assoc] at h
    exact composes_sequence fuel h fun c' hc' => items.composes hw (by omega) hc'
  | emptyObject gap =>
    obtain ⟨fuel, rfl⟩ : ∃ n, fuel = n + 2 := Nat.exists_eq_add_of_le' hfuel
    exact composes_mapping (fuel + 1) h fun c' hc' => composesEntries_nil fuel hc'
  | object members =>
    simp only [Written.events, List.length_append, List.length_cons, List.length_nil] at hfuel
    obtain ⟨fuel, rfl⟩ : ∃ n, fuel = n + 1 := ⟨fuel - 1, by omega⟩
    rw [Written.events, List.cons_append, List.cons_append, List.append_assoc] at h
    exact composes_mapping fuel h fun c' hc' => members.composes hw (by omega) hc'

/-- Items are composed up to the end of their list. -/
theorem Items.composes (items : Items) (hitems : items.isYaml = true) {fuel : Nat} {c : Composer}
    {more : List EventKind} (hfuel : items.events.length < fuel)
    (h : c.events.map Event.kind = items.events ++ .sequenceEnd :: more) :
    ComposesItems (composeItems fuel c) c items.values more := by
  cases items with
  | one before item after =>
    simp only [Items.isYaml, Bool.and_eq_true] at hitems
    simp only [Items.events] at hfuel h
    have hpos := item.length_events_pos
    obtain ⟨fuel, rfl⟩ : ∃ n, fuel = n + 2 := ⟨fuel - 2, by omega⟩
    exact Written.composesItems h (item.composes hitems.1.2 (by omega) h)
      fun c' hc' => composesItems_nil fuel hc'
  | more before item after others =>
    simp only [Items.isYaml, Bool.and_eq_true] at hitems
    simp only [Items.events, List.length_append] at hfuel
    rw [Items.events, List.append_assoc] at h
    have hpos := item.length_events_pos
    obtain ⟨fuel, rfl⟩ : ∃ n, fuel = n + 1 := ⟨fuel - 1, by omega⟩
    exact Written.composesItems h (item.composes hitems.1.1.2 (by omega) h)
      fun c' hc' => others.composes hitems.2 (by omega) hc'

/-- Members are composed up to the end of their mapping. -/
theorem Members.composes (members : Members) (hmembers : members.isYaml = true) {fuel : Nat}
    {c : Composer} {more : List EventKind} (hfuel : members.events.length < fuel)
    (h : c.events.map Event.kind = members.events ++ .mappingEnd :: more) :
    ComposesEntries (composeEntries fuel c) c members.entries more := by
  cases members with
  | one name before value after =>
    simp only [Members.isYaml, Bool.and_eq_true] at hmembers
    simp only [Members.events, List.length_cons] at hfuel
    obtain ⟨fuel, rfl⟩ : ∃ n, fuel = n + 2 := ⟨fuel - 2, by omega⟩
    exact composesEntries_cons fuel h
      (fun c' hc' => value.composes hmembers.1.2 (by omega) hc')
      fun c' hc' => composesEntries_nil fuel hc'
  | more name before value after others =>
    simp only [Members.isYaml, Bool.and_eq_true] at hmembers
    simp only [Members.events, List.length_append, List.length_cons] at hfuel
    rw [Members.events, List.cons_append, List.cons_append, List.append_assoc] at h
    obtain ⟨fuel, rfl⟩ : ∃ n, fuel = n + 2 := ⟨fuel - 2, by omega⟩
    exact composesEntries_cons fuel h
      (fun c' hc' => value.composes hmembers.1.1.2 (by omega) hc')
      fun c' hc' => others.composes hmembers.2 (by omega) hc'

end

/-! ### Documents -/

/-- YAML reads a JSON document as its value, to a depth. -/
theorem Document.load {d : Document} (hd : d.isYaml = true) (depth : Nat) :
    Yaml.load depth (Text.unifyLineEnds d.text) = .ok (d.value.truncate depth) := by
  obtain ⟨tokens, events, htokens, hevents, hkinds⟩ := Document.events hd
  simp only [Document.isYaml, Bool.and_eq_true] at hd
  obtain ⟨t, n, hcompose, hhold⟩ :=
    exists_holds hkinds fun fuel c hfuel hc => d.root.composes hd.1.2 hfuel hc
  rw [Yaml.load, htokens]
  dsimp only
  rw [hevents]
  dsimp only
  rw [hcompose]
  change (t.check n >>= _) = _
  rw [hhold.check]
  exact congrArg Except.ok (hhold.read depth)

end Docpress.Json
