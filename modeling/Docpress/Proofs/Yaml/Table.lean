import Docpress.Yaml.Load
/-!
Tables of nodes that hold values. What a node of a table holds depends only on the nodes that it
leads to; where these have no merge keys and can be read, checking leaves the table as it is.
-/

namespace Docpress

/-- The value to a depth: collections below it are empty. -/
def Value.truncate : Nat → Value → Value
  | 0, .list _ => .list []
  | 0, .mapping _ => .mapping []
  | 0, .set _ => .set []
  | depth + 1, .list items => .list (items.map (truncate depth))
  | depth + 1, .mapping entries =>
    .mapping (entries.map fun (key, value) => (key.truncate depth, value.truncate depth))
  | depth + 1, .set members => .set (members.map (truncate depth))
  | _, v => v

theorem Value.truncate_of_isKey {v : Value} (h : v.isKey = true) (depth : Nat) :
    v.truncate depth = v := by
  cases v <;> first | (cases depth <;> rfl) | cases h

namespace Yaml.NodeTable

variable {t : NodeTable}

/-! ### Nodes by number -/

section Lookup

variable {n : Nat} {tag : Text} {shape : NodeShape} {mark : Mark}

theorem tagOf_eq (h : t[n]? = some ⟨tag, shape, mark⟩) : t.tagOf n = tag := by
  rw [tagOf, h]
  rfl

theorem shapeOf_eq (h : t[n]? = some ⟨tag, shape, mark⟩) : t.shapeOf n = shape := by
  rw [shapeOf, h]
  rfl

theorem entriesOf_eq {entries : List (Nat × Nat)} (h : t[n]? = some ⟨tag, .mapping entries, mark⟩) :
    t.entriesOf n = entries := by
  rw [entriesOf, h]

theorem typeOf_eq (h : t[n]? = some ⟨tag, shape, mark⟩) {type : ValueType}
    (htype : ValueType.ofTag? tag = some type) : t.typeOf n = .ok type := by
  rw [typeOf, tagOf_eq h, htype]

theorem scalarValue_eq {s : ScalarText} (h : t[n]? = some ⟨tag, .scalar s, mark⟩)
    (type : ValueType) : t.scalarValue n type = t.readAs n type s := by
  rw [scalarValue, textOf, shapeOf_eq h]
  rfl

end Lookup

theorem ofTag?_str : ValueType.ofTag? (standardTag "str") = some .text := by
  decide

theorem ofTag?_seq : ValueType.ofTag? (standardTag "seq") = some .sequence := by
  decide

theorem ofTag?_map : ValueType.ofTag? (standardTag "map") = some .mapping := by
  decide

/-! ### What nodes hold -/

/-- A node is a name. -/
def HoldsName (t : NodeTable) (start n : Nat) (name : Text) : Prop :=
  start ≤ n ∧ ∃ mark, t[n]? = some ⟨standardTag "str", .scalar { chars := name }, mark⟩

mutual

/-- A node holds a value, and all nodes that it leads to have numbers from `start` on. -/
inductive Holds (t : NodeTable) (start : Nat) : Nat → Value → Prop where
  | scalar {n : Nat} {tag : Text} {s : ScalarText} {mark : Mark} {type : ValueType} {v : Value}
      (hstart : start ≤ n) (hnode : t[n]? = some ⟨tag, .scalar s, mark⟩)
      (htype : ValueType.ofTag? tag = some type) (hflat : type.isCollection = false)
      (hread : ∀ t n, readAs t n type s = .ok v) (hkey : v.isKey = true) : Holds t start n v
  | list {n : Nat} {items : List Nat} {mark : Mark} {values : List Value} (hstart : start ≤ n)
      (hnode : t[n]? = some ⟨standardTag "seq", .sequence items, mark⟩)
      (hitems : HoldItems t start items values) : Holds t start n (.list values)
  | mapping {n : Nat} {entries : List (Nat × Nat)} {mark : Mark} {values : List (Value × Value)}
      (hstart : start ≤ n) (hnode : t[n]? = some ⟨standardTag "map", .mapping entries, mark⟩)
      (hentries : HoldEntries t start entries values) : Holds t start n (.mapping values)

/-- Nodes hold the items of a list. -/
inductive HoldItems (t : NodeTable) (start : Nat) : List Nat → List Value → Prop where
  | nil : HoldItems t start [] []
  | cons {n : Nat} {v : Value} {items : List Nat} {values : List Value} (hitem : Holds t start n v)
      (hitems : HoldItems t start items values) : HoldItems t start (n :: items) (v :: values)

/-- Nodes hold the entries of a mapping, the keys of which are names. -/
inductive HoldEntries (t : NodeTable) (start : Nat) :
    List (Nat × Nat) → List (Value × Value) → Prop where
  | nil : HoldEntries t start [] []
  | cons {key value : Nat} {name : Text} {v : Value} {entries : List (Nat × Nat)}
      {values : List (Value × Value)} (hname : HoldsName t start key name)
      (hvalue : Holds t start value v) (hentries : HoldEntries t start entries values) :
      HoldEntries t start ((key, value) :: entries) ((.text name, v) :: values)

end

theorem HoldsName.holds {start n : Nat} {name : Text} (h : HoldsName t start n name) :
    Holds t start n (.text name) := by
  obtain ⟨hstart, mark, hnode⟩ := h
  exact .scalar hstart hnode ofTag?_str rfl (fun _ _ => rfl) rfl

/-- A table has the nodes of another from a number on. -/
def AgreesFrom (t t' : NodeTable) (start : Nat) : Prop :=
  ∀ n node, start ≤ n → t[n]? = some node → t'[n]? = some node

section Transport

variable {t' : NodeTable} {start start' : Nat}

theorem AgreesFrom.of_grown (h : t <+: t') (start : Nat) : AgreesFrom t t' start := by
  obtain ⟨more, rfl⟩ := h
  intro n node _ hnode
  rw [List.getElem?_append_left (List.getElem?_eq_some_iff.1 hnode).1, hnode]

theorem AgreesFrom.of_modify {n : Nat} (hn : n < start) (f : Node → Node) :
    AgreesFrom t (t.modify n f) start := by
  intro m node hm hnode
  rw [List.getElem?_modify_ne _ _ (by omega), hnode]

theorem HoldsName.mono (hagree : AgreesFrom t t' start) (hstart : start' ≤ start) {n : Nat}
    {name : Text} (h : HoldsName t start n name) : HoldsName t' start' n name := by
  obtain ⟨hn, mark, hnode⟩ := h
  exact ⟨Nat.le_trans hstart hn, mark, hagree _ _ hn hnode⟩

mutual

/-- What a node holds it holds in every table with the same nodes. -/
theorem Holds.mono (hagree : AgreesFrom t t' start) (hstart : start' ≤ start) {n : Nat} {v : Value}
    (h : Holds t start n v) : Holds t' start' n v := by
  cases h with
  | scalar hn hnode htype hflat hread hkey =>
    exact .scalar (Nat.le_trans hstart hn) (hagree _ _ hn hnode) htype hflat hread hkey
  | list hn hnode hitems =>
    exact .list (Nat.le_trans hstart hn) (hagree _ _ hn hnode) (hitems.mono hagree hstart)
  | mapping hn hnode hentries =>
    exact .mapping (Nat.le_trans hstart hn) (hagree _ _ hn hnode) (hentries.mono hagree hstart)

theorem HoldItems.mono (hagree : AgreesFrom t t' start) (hstart : start' ≤ start)
    {items : List Nat} {values : List Value} (h : HoldItems t start items values) :
    HoldItems t' start' items values := by
  cases h with
  | nil => exact .nil
  | cons hitem hitems => exact .cons (hitem.mono hagree hstart) (hitems.mono hagree hstart)

theorem HoldEntries.mono (hagree : AgreesFrom t t' start) (hstart : start' ≤ start)
    {entries : List (Nat × Nat)} {values : List (Value × Value)}
    (h : HoldEntries t start entries values) : HoldEntries t' start' entries values := by
  cases h with
  | nil => exact .nil
  | cons hname hvalue hentries =>
    exact .cons (hname.mono hagree hstart) (hvalue.mono hagree hstart) (hentries.mono hagree hstart)

end

end Transport

/-! ### Reading -/

mutual

/-- A node is read as the value that it holds. -/
theorem Holds.read {start n : Nat} {v : Value} (h : Holds t start n v) (depth : Nat) :
    t.read depth n = v.truncate depth := by
  cases h with
  | @scalar _ _ _ _ type _ hn hnode htype hflat hread hkey =>
    have hvalue : (t.scalarValue n type).toOption.getD .null = v := by
      rw [scalarValue_eq hnode, hread]
      rfl
    have htag : ValueType.ofTag? (t.tagOf n) = some type := by rw [tagOf_eq hnode, htype]
    rw [Value.truncate_of_isKey hkey]
    cases depth with
    | zero =>
      rw [NodeTable.read, htag]
      cases type <;> first | exact hvalue | cases hflat
    | succ depth =>
      rw [NodeTable.read, htag]
      cases type <;> first | exact hvalue | cases hflat
  | list hn hnode hitems =>
    have htag : ValueType.ofTag? (t.tagOf n) = some .sequence := by
      rw [tagOf_eq hnode, ofTag?_seq]
    cases depth with
    | zero =>
      rw [NodeTable.read, htag]
      rfl
    | succ depth =>
      rw [NodeTable.read, htag, shapeOf_eq hnode, Value.truncate, ← hitems.read depth]
      rfl
  | mapping hn hnode hentries =>
    have htag : ValueType.ofTag? (t.tagOf n) = some .mapping := by
      rw [tagOf_eq hnode, ofTag?_map]
    cases depth with
    | zero =>
      rw [NodeTable.read, htag]
      rfl
    | succ depth =>
      rw [NodeTable.read, htag, entriesOf_eq hnode, Value.truncate, ← hentries.read depth]

theorem HoldItems.read {start : Nat} {items : List Nat} {values : List Value}
    (h : HoldItems t start items values) (depth : Nat) :
    items.map (t.read depth) = values.map (Value.truncate depth) := by
  cases h with
  | nil => rfl
  | cons hitem hitems => rw [List.map_cons, List.map_cons, hitem.read, hitems.read]

theorem HoldEntries.read {start : Nat} {entries : List (Nat × Nat)}
    {values : List (Value × Value)} (h : HoldEntries t start entries values) (depth : Nat) :
    (entries.map fun (key, value) => (t.read depth key, t.read depth value)) =
      values.map fun (key, value) => (key.truncate depth, value.truncate depth) := by
  cases h with
  | nil => rfl
  | cons hname hvalue hentries =>
    rw [List.map_cons, List.map_cons, hentries.read]
    simp only [hname.holds.read, hvalue.read]

end

/-! ### Checking -/

/-- The keys of entries are names. -/
theorem HoldEntries.tagOf {start : Nat} {entries : List (Nat × Nat)}
    {values : List (Value × Value)} (h : HoldEntries t start entries values) :
    ∀ entry ∈ entries, t.tagOf entry.1 = standardTag "str" := by
  cases h with
  | nil => exact List.forall_mem_nil _
  | cons hname hvalue hentries =>
    obtain ⟨-, mark, hnode⟩ := hname
    exact List.forall_mem_cons.2 ⟨tagOf_eq hnode, hentries.tagOf⟩

/-- Without merge keys there is nothing to do. -/
theorem flattenFrom_of_names {n : Nat}
    (h : ∀ entry ∈ t.entriesOf n, t.tagOf entry.1 = standardTag "str") (fuel index : Nat) :
    t.flattenFrom fuel n index [] = .ok t := by
  induction fuel generalizing index with
  | zero => rw [flattenFrom]
  | succ fuel ih =>
    rw [flattenFrom]
    cases hentry : (t.entriesOf n)[index]? with
    | none => rfl
    | some entry =>
      have htag := h entry (List.mem_of_getElem? hentry)
      have hmerge : (standardTag "str" == standardTag "merge") = false := by decide
      have hvalue : (standardTag "str" == standardTag "value") = false := by decide
      simp only [htag, hmerge, hvalue, Bool.false_eq_true, if_false]
      exact ih (index + 1)

/-- A node holds some list or mapping. -/
def HoldsCollection (t : NodeTable) (n : Nat) : Prop :=
  ∃ start v, Holds t start n v ∧ v.isKey = false

/-- Checking goes on with the table as it was, and what is pending are collections. -/
structure Check.Keeps (t : NodeTable) (c : Check) : Prop where
  nodes_eq : c.nodes = t
  pending : ∀ n ∈ c.pending, HoldsCollection t n

/-- A step of checking does not fail, and keeps the table. -/
def Kept (t : NodeTable) (step : Except Fault Check) : Prop :=
  ∃ c, step = .ok c ∧ Check.Keeps t c

theorem Kept.bind {step : Except Fault Check} (h : Kept t step) {f : Check → Except Fault Check}
    (hf : ∀ c, Check.Keeps t c → Kept t (f c)) : Kept t (step >>= f) := by
  obtain ⟨c, rfl, hc⟩ := h
  exact hf c hc

theorem Check.Keeps.meet {c : Check} (hc : Check.Keeps t c) {start n : Nat} {v : Value}
    (h : Holds t start n v) : Kept t (c.meet n) := by
  obtain ⟨nodes, met, pending⟩ := c
  obtain rfl : nodes = t := hc.nodes_eq
  rw [Check.meet]
  split
  · exact ⟨_, rfl, hc⟩
  · have hlater : v.isKey = false → Check.Keeps nodes ⟨nodes, n :: met, pending ++ [n]⟩ := fun hv =>
      ⟨rfl, List.forall_mem_append.2 ⟨hc.pending, List.forall_mem_singleton.2 ⟨start, v, h, hv⟩⟩⟩
    cases h with
    | scalar hn hnode htype hflat hread hkey =>
      rw [typeOf_eq hnode htype]
      change Kept nodes (if _ then _ else _)
      rw [hflat, if_neg (by decide)]
      change Kept nodes (nodes.scalarValue n _ >>= _)
      rw [scalarValue_eq hnode, hread]
      exact ⟨_, rfl, rfl, hc.pending⟩
    | list hn hnode hitems =>
      rw [typeOf_eq hnode ofTag?_seq]
      exact ⟨_, rfl, hlater rfl⟩
    | mapping hn hnode hentries =>
      rw [typeOf_eq hnode ofTag?_map]
      exact ⟨_, rfl, hlater rfl⟩

theorem Check.Keeps.meetAll {c : Check} (hc : Check.Keeps t c) {start : Nat} {items : List Nat}
    {values : List Value} (h : HoldItems t start items values) : Kept t (c.meetAll items) := by
  induction items generalizing c values with
  | nil => exact ⟨c, rfl, hc⟩
  | cons n items ih =>
    cases h with
    | cons hitem hitems => exact (hc.meet hitem).bind fun c hc => ih hc hitems

theorem Check.Keeps.meetEntries {c : Check} (hc : Check.Keeps t c) (n : Nat) {start : Nat}
    {entries : List (Nat × Nat)} {values : List (Value × Value)}
    (h : HoldEntries t start entries values) : Kept t (c.meetEntries n entries) := by
  induction entries generalizing c values with
  | nil => exact ⟨c, rfl, hc⟩
  | cons entry entries ih =>
    cases h with
    | @cons key _ _ _ _ _ hname hvalue hentries =>
      refine (hc.meet hname.holds).bind fun c hc => ?_
      obtain ⟨-, mark, hnode⟩ := hname
      have htype : c.nodes.typeOf key = .ok .text := by
        rw [hc.nodes_eq]
        exact typeOf_eq hnode ofTag?_str
      change Kept t (c.nodes.typeOf key >>= _)
      rw [htype]
      exact (hc.meet hvalue).bind fun c hc => ih hc hentries

theorem Check.Keeps.visit {c : Check} (hc : Check.Keeps t c) {n : Nat} (h : HoldsCollection t n) :
    Kept t (c.nodes.typeOf n >>= c.visit n) := by
  obtain ⟨nodes, met, pending⟩ := c
  obtain rfl : nodes = t := hc.nodes_eq
  obtain ⟨start, v, h, hv⟩ := h
  cases h with
  | scalar hn hnode htype hflat hread hkey =>
    rw [hkey] at hv
    cases hv
  | list hn hnode hitems =>
    rw [typeOf_eq hnode ofTag?_seq]
    change Kept nodes (Check.visit _ n .sequence)
    rw [Check.visit, shapeOf_eq hnode]
    exact hc.meetAll hitems
  | mapping hn hnode hentries =>
    rw [typeOf_eq hnode ofTag?_map]
    change Kept nodes (Check.visit _ n .mapping)
    unfold Check.visit
    rw [shapeOf_eq hnode]
    have hflatten : nodes.flatten n = .ok nodes :=
      flattenFrom_of_names (entriesOf_eq hnode ▸ hentries.tagOf) _ 0
    change Kept nodes (nodes.flatten n >>= _)
    rw [hflatten]
    change Kept nodes (Check.meetEntries _ n (nodes.entriesOf n))
    rw [entriesOf_eq hnode]
    exact hc.meetEntries n hentries

theorem Check.Keeps.run {c : Check} (hc : Check.Keeps t c) (fuel : Nat) :
    Kept t (c.run fuel) := by
  induction fuel generalizing c with
  | zero => exact ⟨c, rfl, hc⟩
  | succ fuel ih =>
    rw [Check.run]
    split
    · exact ⟨c, rfl, hc⟩
    · rename_i n pending hpending
      obtain ⟨hn, hothers⟩ := List.forall_mem_cons.1 (hpending ▸ hc.pending)
      have hrest : Check.Keeps t { c with pending } := ⟨hc.nodes_eq, hothers⟩
      have hvisit := (hrest.visit hn).bind fun c hc => ih hc
      rwa [bind_assoc] at hvisit

/-- Checking leaves the table as it is. -/
theorem Holds.check {start n : Nat} {v : Value} (h : Holds t start n v) : t.check n = .ok t := by
  have hstart : Check.Keeps t { nodes := t } := ⟨rfl, List.forall_mem_nil _⟩
  obtain ⟨c, hc, hkeeps⟩ := (hstart.meet h).bind fun c hc => hc.run (t.length + 1)
  rw [NodeTable.check, ← bind_assoc, hc, ← hkeeps.nodes_eq]
  rfl

end Yaml.NodeTable

end Docpress
