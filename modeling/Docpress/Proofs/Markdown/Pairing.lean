import Docpress.Markdown.Delimiter
/-!
The pairing of delimiters. A closer finds an opener in an earlier run as soon as any delimiter there
fits it, whatever was passed over before; until that happens for the first time nothing is changed.
-/

namespace Docpress.Markdown

/-- By their marks and by what their runs may do, the first opens what the second closes. -/
def Delimiter.fits (opener closer : Delimiter) : Bool :=
  opener.mark == closer.mark && opener.opens && closer.closes && !clash opener closer

/-- What the openers that were looked for in vain are remembered by. -/
def Delimiter.key (closer : Delimiter) : Char × Nat :=
  (closer.mark, (if closer.opens then 3 else 0) + closer.length % 3)

/-- Closers with the same key fit the same openers. -/
theorem Delimiter.fits_congr (opener : Delimiter) {c d : Delimiter} (hkey : c.key = d.key)
    (hcloses : c.closes = d.closes) : opener.fits c = opener.fits d := by
  obtain ⟨hmark, hkind⟩ := Prod.mk.inj hkey
  have hopens : c.opens = d.opens := by
    cases hc : c.opens <;> cases hd : d.opens
    all_goals simp only [hc, hd, Bool.false_eq_true, if_true, if_false] at hkind
    · rfl
    · omega
    · omega
    · rfl
  have hlength : c.length % 3 = d.length % 3 := by
    rw [hopens] at hkind
    omega
  have hsum : (opener.length + c.length) % 3 = (opener.length + d.length) % 3 := by omega
  rw [fits, fits, clash, clash, hmark, hcloses, hopens, hsum, hlength]

variable {ds : Array Delimiter}

/-- The first place of the run that the delimiter at a place belongs to, if all have one mark: a run
    goes on where the pieces do. -/
def runStart (ds : Array Delimiter) : Nat → Nat
  | 0 => 0
  | k + 1 =>
    if ds[k]?.map (·.token + 1) = ds[k + 1]?.map (·.token) then runStart ds k else k + 1

theorem runStart_le (ds : Array Delimiter) (k : Nat) : runStart ds k ≤ k := by
  induction k with
  | zero => exact Nat.le_refl _
  | succ k ih =>
    rw [runStart]
    split
    · omega
    · exact Nat.le_refl _

/-- No delimiter before place `n` fits the closer. -/
def NoneFits (ds : Array Delimiter) (n : Nat) (closer : Delimiter) : Prop :=
  ∀ j < n, ∀ opener, ds[j]? = some opener → opener.fits closer = false

namespace Pairing

variable {p : Pairing} {k : Nat} {closer : Delimiter}

/-! ### Before the first pair -/

/-- The state in which the delimiters before place `k` have been gone through and none of them has
    been paired. -/
structure Idle (ds : Array Delimiter) (k : Nat) (p : Pairing) : Prop where
  delimiters : p.delimiters = ds
  jumps : p.jumps = Array.replicate k 0
  bottoms : ∀ entry ∈ p.bottoms, ∀ closer : Delimiter, closer.closes = true →
    closer.key = entry.1 → NoneFits ds entry.2 closer
  start : k = 0 → p.last = none
  later : ∀ j, k = j + 1 → p.header = runStart ds j ∧ p.last = ds[j]?.map (·.token)

theorem idle_start (ds : Array Delimiter) : Idle ds 0 { delimiters := ds } where
  delimiters := rfl
  jumps := rfl
  bottoms := fun _ h => absurd h List.not_mem_nil
  start := fun _ => rfl
  later := fun _ h => absurd h (Nat.succ_ne_zero _).symm

theorem Idle.jump (h : Idle ds k p) (j : Nat) : p.jumps.getD j 0 = 0 := by
  rw [h.jumps, Array.getD_eq_getD_getElem?, Array.getElem?_replicate]
  split <;> rfl

/-- Without jumps the nearest opener that fits is found, if there is one above the bottom. -/
theorem findOpener_of_jumps (hjumps : ∀ j, p.jumps.getD j 0 = 0)
    (hstops : ∀ d ∈ p.delimiters, d.stop = none) (hcloses : closer.closes = true)
    (bottom : Nat) {fuel i : Nat} (hfuel : i ≤ fuel) (hsize : i ≤ p.delimiters.size) :
    (p.findOpener closer bottom fuel i = none ∧
      ∀ j, bottom ≤ j → j < i → ∀ opener, p.delimiters[j]? = some opener →
        opener.fits closer = false) ∨
    ∃ j opener, j < i ∧ p.findOpener closer bottom fuel i = some j ∧
      p.delimiters[j]? = some opener ∧ opener.fits closer = true := by
  induction fuel generalizing i with
  | zero => exact .inl ⟨rfl, fun j _ hj => by omega⟩
  | succ fuel ih =>
    rw [findOpener]
    by_cases hbottom : i ≤ bottom
    · rw [if_pos hbottom]
      exact .inl ⟨rfl, fun j hlow hj => by omega⟩
    · rw [if_neg hbottom]
      obtain ⟨opener, hopener⟩ : ∃ opener, p.delimiters[i - 1]? = some opener :=
        ⟨_, Array.getElem?_eq_getElem (by omega)⟩
      have hguard : (opener.mark == closer.mark && opener.opens && opener.stop.isNone &&
          !clash opener closer) = opener.fits closer := by
        rw [hstops opener (Array.mem_of_getElem? hopener), Delimiter.fits, hcloses]
        simp
      rw [hopener]
      dsimp only
      rw [hguard, hjumps, Nat.zero_add]
      cases hfits : opener.fits closer with
      | true => exact .inr ⟨i - 1, opener, by omega, rfl, hopener, hfits⟩
      | false =>
        rw [if_neg Bool.false_ne_true]
        rcases ih (i := i - 1) (by omega) (by omega) with ⟨hnone, hall⟩ | ⟨j, d, hj, hfound⟩
        · refine .inl ⟨hnone, fun j hlow hj d hd => ?_⟩
          by_cases hlast : j = i - 1
          · subst hlast
            obtain rfl := Option.some.inj (hopener.symm.trans hd)
            exact hfits
          · exact hall j hlow (by omega) d hd
        · exact .inr ⟨j, d, by omega, hfound⟩

/-- Below the place that is remembered for a closer nothing fits it. -/
theorem Idle.noneFits_bottom (h : Idle ds k p) (hcloses : closer.closes = true) :
    NoneFits ds ((p.bottoms.lookup closer.key).getD 0) closer := by
  cases hlookup : p.bottoms.lookup closer.key with
  | none => exact fun j hj => absurd hj (Nat.not_lt_zero j)
  | some bottom =>
    obtain ⟨before, after, heq, -⟩ := List.lookup_eq_some_iff.1 hlookup
    exact h.bottoms (closer.key, bottom) (by rw [heq]; simp) closer hcloses rfl

/-- The run that a closer belongs to, as the state tells it. -/
theorem Idle.header_eq (h : Idle ds k p) {mark : Char} (hmarks : ∀ d ∈ ds, d.mark = mark)
    (hcloser : ds[k]? = some closer) :
    (if (p.delimiters[p.header]?.map (·.mark)) == some closer.mark &&
        p.last.map (· + 1) == some closer.token then p.header else k) = runStart ds k := by
  have hmark := hmarks closer (Array.mem_of_getElem? hcloser)
  cases k with
  | zero =>
    rw [h.start rfl]
    simp [runStart]
  | succ j =>
    obtain ⟨hheader, hlast⟩ := h.later j rfl
    obtain ⟨hsize, -⟩ := Array.getElem?_eq_some_iff.1 hcloser
    have hle := runStart_le ds j
    obtain ⟨first, hfirst⟩ : ∃ first, ds[runStart ds j]? = some first :=
      ⟨_, Array.getElem?_eq_getElem (by omega)⟩
    have hsame : first.mark = closer.mark :=
      (hmarks first (Array.mem_of_getElem? hfirst)).trans hmark.symm
    rw [h.delimiters, hheader, hlast, hfirst, runStart, hcloser]
    simp only [Option.map_some, Option.map_map, hsame, BEq.rfl, Bool.true_and, beq_iff_eq]
    rfl

/-- The state with the delimiter at place `k` gone through and nothing found for it. -/
def passed (ds : Array Delimiter) (k : Nat) (closer : Delimiter) (p : Pairing) : Pairing :=
  { p with jumps := p.jumps.push 0, header := runStart ds k, last := some closer.token }

theorem Idle.passed (h : Idle ds k p) (hcloser : ds[k]? = some closer)
    {bottoms : List ((Char × Nat) × Nat)}
    (hbottoms : ∀ entry ∈ bottoms, ∀ closer : Delimiter, closer.closes = true →
      closer.key = entry.1 → NoneFits ds entry.2 closer) :
    Idle ds (k + 1) { p.passed ds k closer with bottoms } where
  delimiters := h.delimiters
  jumps := by
    rw [Array.replicate_succ, ← h.jumps]
    rfl
  bottoms := hbottoms
  start := fun hzero => absurd hzero (Nat.succ_ne_zero k)
  later := by
    intro j hj
    obtain rfl := Nat.succ.inj hj
    exact ⟨rfl, by rw [hcloser]; rfl⟩

/-- What a step does in an idle state: an opener is looked for from the closer's run down. -/
theorem Idle.step_eq (h : Idle ds k p) {mark : Char} (hmarks : ∀ d ∈ ds, d.mark = mark)
    (hcloser : ds[k]? = some closer) {found : Option Nat}
    (hfound : (p.passed ds k closer).findOpener closer ((p.bottoms.lookup closer.key).getD 0)
      (runStart ds k) (runStart ds k) = found) :
    p.step k closer = if !closer.closes then p.passed ds k closer else
      found.elim
        { p.passed ds k closer with bottoms := (closer.key, runStart ds k) :: p.bottoms }
        ((p.passed ds k closer).pair · k) := by
  have hjump : (p.jumps.push 0).getD (runStart ds k) 0 = 0 :=
    (h.passed hcloser h.bottoms).jump (runStart ds k)
  unfold Pairing.step
  dsimp only
  rw [h.header_eq hmarks hcloser, hjump, Nat.sub_zero]
  split
  · rfl
  · split
    · rename_i opener hopener
      rw [show found = some opener from hfound.symm.trans hopener]
      rfl
    · rename_i hnone
      rw [show found = none from hfound.symm.trans hnone]
      rfl

/-- One step either finds that nothing in the earlier runs fits the closer, and changes nothing, or
    it makes a first pair. -/
theorem Idle.step (h : Idle ds k p) {mark : Char} (hmarks : ∀ d ∈ ds, d.mark = mark)
    (hstops : ∀ d ∈ ds, d.stop = none) (hcloser : ds[k]? = some closer) :
    (Idle ds (k + 1) (p.step k closer) ∧ NoneFits ds (runStart ds k) closer) ∨
    ∃ (j : Nat) (opener : Delimiter) (q : Pairing), j < runStart ds k ∧ ds[j]? = some opener ∧
      opener.fits closer = true ∧ q.delimiters = ds ∧ p.step k closer = q.pair j k := by
  have hidle := h.passed hcloser h.bottoms
  cases hcloses : closer.closes with
  | false =>
    rw [h.step_eq hmarks hcloser rfl, hcloses]
    refine .inl ⟨hidle, fun j _ opener _ => ?_⟩
    rw [Delimiter.fits, hcloses]
    simp
  | true =>
    obtain ⟨hsize, -⟩ := Array.getElem?_eq_some_iff.1 hcloser
    have hle := runStart_le ds k
    have hsame : (p.passed ds k closer).delimiters = ds := h.delimiters
    rcases (p.passed ds k closer).findOpener_of_jumps hidle.jump (hsame.symm ▸ hstops) hcloses
      ((p.bottoms.lookup closer.key).getD 0) (Nat.le_refl (runStart ds k))
      (by rw [hsame]; omega) with ⟨hnone, habove⟩ | ⟨j, opener, hj, hsome, hopener, hfits⟩
    · have hnoneFits : NoneFits ds (runStart ds k) closer := by
        intro j hj opener hopener
        rcases Nat.lt_or_ge j ((p.bottoms.lookup closer.key).getD 0) with hlow | hhigh
        · exact h.noneFits_bottom hcloses j hlow opener hopener
        · exact habove j hhigh hj opener (hsame.symm ▸ hopener)
      rw [h.step_eq hmarks hcloser hnone, hcloses]
      refine .inl ⟨h.passed hcloser (List.forall_mem_cons.2 ⟨fun other hother hkey j hj d hd => ?_,
        h.bottoms⟩), hnoneFits⟩
      rw [d.fits_congr hkey (hother.trans hcloses.symm)]
      exact hnoneFits j hj d hd
    · rw [h.step_eq hmarks hcloser hsome, hcloses]
      exact .inr ⟨j, opener, _, hj, hsame ▸ hopener, hfits, hsame, rfl⟩

/-! ### After the first pair -/

/-- Some delimiter is closed by another. -/
def IsPaired (ds : Array Delimiter) : Prop :=
  ∃ (i : Nat) (d : Delimiter), ds[i]? = some d ∧ d.stop.isSome = true

theorem IsPaired.modify (h : IsPaired ds) {f : Delimiter → Delimiter}
    (hf : ∀ d, d.stop.isSome = true → (f d).stop.isSome = true) (i : Nat) :
    IsPaired (ds.modify i f) := by
  obtain ⟨j, d, hd, hstop⟩ := h
  refine ⟨j, if i = j then f d else d, ?_, ?_⟩
  · rw [Array.getElem?_modify, hd]
    split <;> rfl
  · split
    · exact hf d hstop
    · exact hstop

theorem delimiters_pair (p : Pairing) (opener closer : Nat) :
    (p.pair opener closer).delimiters =
      (p.delimiters.modify closer fun d => { d with opens := false }).modify opener
        fun d => { d with stop := some closer, closes := false } := rfl

theorem IsPaired.pair (h : IsPaired p.delimiters) (opener closer : Nat) :
    IsPaired (p.pair opener closer).delimiters :=
  (h.modify (f := fun d => { d with opens := false }) (fun _ hd => hd) closer).modify
    (f := fun d => { d with stop := some closer, closes := false }) (fun _ _ => rfl) opener

/-- The opener of a pair has been paired. -/
theorem isPaired_pair {j : Nat} (hj : j < p.delimiters.size) (k : Nat) :
    IsPaired (p.pair j k).delimiters := by
  refine ⟨j, ?_⟩
  rw [delimiters_pair, Array.getElem?_modify, if_pos rfl, Array.getElem?_modify,
    Array.getElem?_eq_getElem hj]
  split <;> exact ⟨_, rfl, rfl⟩

theorem IsPaired.step (h : IsPaired p.delimiters) (k : Nat) (closer : Delimiter) :
    IsPaired (p.step k closer).delimiters := by
  unfold Pairing.step
  dsimp only
  split
  · exact h
  · split
    · exact IsPaired.pair h _ k
    · exact h

theorem IsPaired.run (h : IsPaired p.delimiters) (fuel k : Nat) :
    IsPaired (Pairing.run fuel k p).delimiters := by
  induction fuel generalizing k p with
  | zero => exact h
  | succ fuel ih =>
    rw [Pairing.run]
    split
    · exact ih (h.step k _) _
    · exact h

/-- From an idle state on either nothing is paired, and then nothing fits, or something is, and then
    something fits. -/
theorem Idle.run (h : Idle ds k p) {mark : Char} (hmarks : ∀ d ∈ ds, d.mark = mark)
    (hstops : ∀ d ∈ ds, d.stop = none) {fuel : Nat} (hfuel : ds.size ≤ k + fuel) :
    ((Pairing.run fuel k p).delimiters = ds ∧ ∀ i closer, k ≤ i → ds[i]? = some closer →
      NoneFits ds (runStart ds i) closer) ∨
    (IsPaired (Pairing.run fuel k p).delimiters ∧ ∃ i closer, ds[i]? = some closer ∧
      ¬ NoneFits ds (runStart ds i) closer) := by
  induction fuel generalizing k p with
  | zero =>
    refine .inl ⟨h.delimiters, fun i closer hi hcloser => ?_⟩
    obtain ⟨hsize, -⟩ := Array.getElem?_eq_some_iff.1 hcloser
    omega
  | succ fuel ih =>
    rw [Pairing.run, h.delimiters]
    cases hnext : ds[k]? with
    | none =>
      refine .inl ⟨h.delimiters, fun i closer hi hcloser => ?_⟩
      obtain ⟨hsize, -⟩ := Array.getElem?_eq_some_iff.1 hcloser
      have hend := Array.getElem?_eq_none_iff.1 hnext
      omega
    | some closer =>
      rcases h.step hmarks hstops hnext with ⟨hidle, hnone⟩ | ⟨j, opener, q, hj, hopener, hfits,
        hdelimiters, hpair⟩
      · rcases ih hidle (by omega) with ⟨hsame, hall⟩ | hpaired
        · refine .inl ⟨hsame, fun i c hi hc => ?_⟩
          rcases Nat.eq_or_lt_of_le hi with rfl | hlater
          · obtain rfl := Option.some.inj (hnext.symm.trans hc)
            exact hnone
          · exact hall i c hlater hc
        · exact .inr hpaired
      · obtain ⟨hsize, -⟩ := Array.getElem?_eq_some_iff.1 hopener
        have hpaired : IsPaired (p.step k closer).delimiters := by
          rw [hpair]
          exact isPaired_pair (hdelimiters.symm ▸ hsize) k
        refine .inr ⟨hpaired.run fuel (k + 1), k, closer, hnext, fun hnone => ?_⟩
        exact Bool.false_ne_true ((hnone j hj opener hopener).symm.trans hfits)

/-! ### The pieces of a pair -/

/-- What a pair keeps of a delimiter: its mark and the place of its piece. -/
def place (d : Delimiter) : Char × Nat :=
  (d.mark, d.token)

/-- What the delimiters look like when those before place `k` have been gone through: each that is
    closed is so by a later one. -/
structure Follows (ds : Array Delimiter) (k : Nat) (p : Pairing) : Prop where
  same : ∀ i : Nat, p.delimiters[i]?.map place = ds[i]?.map place
  header : p.header ≤ k
  stops : ∀ (i : Nat) (d : Delimiter) (stop : Nat), p.delimiters[i]? = some d →
    d.stop = some stop → i < stop ∧ stop < k

theorem findOpener_lt {bottom fuel i j : Nat}
    (h : p.findOpener closer bottom fuel i = some j) : j < i := by
  induction fuel generalizing i with
  | zero => cases h
  | succ fuel ih =>
    rw [findOpener] at h
    split at h
    · cases h
    · rename_i hbottom
      split at h
      · cases h
      · split at h
        · obtain rfl := Option.some.inj h
          omega
        · have hlt := ih h
          omega

theorem Follows.pair (h : Follows ds k p) {j : Nat} (hj : j < k) :
    Follows ds (k + 1) (p.pair j k) := by
  refine ⟨fun i => ?_, Nat.le_succ_of_le h.header, fun i d stop hd hstop => ?_⟩
  · rw [← h.same i, delimiters_pair, Array.getElem?_modify, Array.getElem?_modify]
    cases p.delimiters[i]? with
    | none => simp
    | some d => split <;> split <;> rfl
  · rw [delimiters_pair, Array.getElem?_modify, Array.getElem?_modify] at hd
    split at hd
    · rename_i hopener
      obtain ⟨e, -, rfl⟩ := Option.map_eq_some_iff.1 hd
      obtain rfl := Option.some.inj hstop
      exact ⟨hopener ▸ hj, Nat.lt_succ_self k⟩
    · have hkept : ∃ e, p.delimiters[i]? = some e ∧ e.stop = d.stop := by
        split at hd
        · obtain ⟨e, he, rfl⟩ := Option.map_eq_some_iff.1 hd
          exact ⟨e, he, rfl⟩
        · exact ⟨d, hd, rfl⟩
      obtain ⟨e, he, heq⟩ := hkept
      obtain ⟨hafter, hbefore⟩ := h.stops i e stop he (heq.trans hstop)
      exact ⟨hafter, Nat.lt_succ_of_lt hbefore⟩

theorem Follows.step (h : Follows ds k p) (closer : Delimiter) :
    Follows ds (k + 1) (p.step k closer) := by
  have hheader (sameRun : Bool) : (if sameRun = true then p.header else k) ≤ k := by
    split
    · exact h.header
    · exact Nat.le_refl k
  have hstops : ∀ (i : Nat) (d : Delimiter) (stop : Nat), p.delimiters[i]? = some d →
      d.stop = some stop → i < stop ∧ stop < k + 1 := fun i d stop hd hstop =>
    ⟨(h.stops i d stop hd hstop).1, Nat.lt_succ_of_lt (h.stops i d stop hd hstop).2⟩
  unfold Pairing.step
  dsimp only
  split
  · exact ⟨h.same, Nat.le_succ_of_le (hheader _), hstops⟩
  · split
    · rename_i opener hopener
      have hlt := Nat.lt_of_lt_of_le (findOpener_lt hopener) (Nat.sub_le _ _)
      refine Follows.pair ?_ (Nat.lt_of_lt_of_le hlt (hheader _))
      exact ⟨h.same, hheader _, h.stops⟩
    · exact ⟨h.same, Nat.le_succ_of_le (hheader _), hstops⟩

theorem Follows.run (h : Follows ds k p) (hk : k ≤ ds.size) (fuel : Nat) :
    ∃ n ≤ ds.size, Follows ds n (Pairing.run fuel k p) := by
  induction fuel generalizing k p with
  | zero => exact ⟨k, hk, h⟩
  | succ fuel ih =>
    rw [Pairing.run]
    split
    · rename_i closer hcloser
      have hplace := h.same k
      rw [hcloser, Option.map_some, eq_comm, Option.map_eq_some_iff] at hplace
      obtain ⟨d, hd, -⟩ := hplace
      obtain ⟨hsize, -⟩ := Array.getElem?_eq_some_iff.1 hd
      exact ih (h.step closer) hsize
    · exact ⟨k, hk, h⟩

end Pairing

/-! ### The delimiters of a scope -/

variable (ds) {mark : Char} (hmarks : ∀ d ∈ ds, d.mark = mark) (hstops : ∀ d ∈ ds, d.stop = none)

include hmarks hstops

/-- Nothing is paired if no delimiter fits one in a later run, and something is if one does. -/
theorem pairDelimiters_cases :
    (pairDelimiters ds = ds ∧ ∀ i closer, ds[i]? = some closer →
      NoneFits ds (runStart ds i) closer) ∨
    (Pairing.IsPaired (pairDelimiters ds) ∧ ∃ i closer, ds[i]? = some closer ∧
      ¬ NoneFits ds (runStart ds i) closer) := by
  have hfuel : ds.size ≤ 0 + ds.size := Nat.le_add_left _ _
  rcases (Pairing.idle_start ds).run hmarks hstops hfuel with ⟨hsame, hall⟩ | hpaired
  · exact .inl ⟨hsame, fun i closer => hall i closer (Nat.zero_le i)⟩
  · exact .inr hpaired

omit hmarks

/-- Each delimiter stands where it stood, and is closed, if at all, by one after it. -/
theorem pairDelimiters_follows :
    (∀ i : Nat, (pairDelimiters ds)[i]?.map Pairing.place = ds[i]?.map Pairing.place) ∧
    ∀ (i : Nat) (d : Delimiter) (stop : Nat), (pairDelimiters ds)[i]? = some d →
      d.stop = some stop → i < stop ∧ stop < ds.size := by
  have hstart : Pairing.Follows ds 0 { delimiters := ds } := by
    refine ⟨fun _ => rfl, Nat.le_refl 0, fun i d stop hd hstop => ?_⟩
    rw [hstops d (Array.mem_of_getElem? hd)] at hstop
    cases hstop
  obtain ⟨n, hn, hfollows⟩ := hstart.run (Nat.zero_le _) ds.size
  refine ⟨hfollows.same, fun i d stop hd hstop => ?_⟩
  obtain ⟨hafter, hbefore⟩ := hfollows.stops i d stop hd hstop
  exact ⟨hafter, by omega⟩

end Docpress.Markdown
