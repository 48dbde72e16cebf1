import Docpress.Proofs.Text.Growth
/-!
Replacements by rules. Two replacements in a row are one pass with the rules of both, if the rules of
the first one leave those of the second one alone; so replacements that leave each other alone may be
made in either order.
-/

namespace Docpress.Text

/-- A rule: what is replaced, and what is written for it. -/
structure Rule where
  old : Text
  new : Text
  old_ne : old ≠ [] := by decide
  new_ne : new ≠ [] := by decide

/-- The claim of the first rule whose old text the text begins with. -/
def claim (rules : List Rule) (here : Text) : Option (Text × Nat) :=
  rules.findSome? fun rule =>
    if startsWith here rule.old then some (rule.new, rule.old.length - 1) else none

/-- The first rule leaves the second alone: the second one's old text goes on with no character that
    the first rule replaces or writes at its beginning, and begins nowhere in what that rule writes,
    however the text goes on there. -/
structure Rule.LeavesAlone (rule other : Rule) : Prop where
  heads : ∀ c ∈ other.old.tail, some c ≠ rule.old.head? ∧ some c ≠ rule.new.head?
  written : ∀ n < rule.new.length, ¬ rule.new.drop n <+: other.old ∧ ¬ other.old <+: rule.new.drop n

instance (rule other : Rule) : Decidable (rule.LeavesAlone other) :=
  have : Decidable (∀ c ∈ other.old.tail, some c ≠ rule.old.head? ∧ some c ≠ rule.new.head?) :=
    List.decidableBAll _ _
  decidable_of_iff ((∀ c ∈ other.old.tail, some c ≠ rule.old.head? ∧ some c ≠ rule.new.head?) ∧
      ∀ n < rule.new.length, ¬ rule.new.drop n <+: other.old ∧ ¬ other.old <+: rule.new.drop n)
    ⟨fun ⟨hheads, hwritten⟩ => ⟨hheads, hwritten⟩, fun h => ⟨h.heads, h.written⟩⟩

variable {rules others : List Rule} {here s new : Text} {c : Char} {more : Nat}

/-! ### Claims -/

theorem claim_append (rules others : List Rule) (here : Text) :
    claim (rules ++ others) here = (claim rules here).or (claim others here) :=
  List.findSome?_append

theorem claim_eq_none :
    claim rules here = none ↔ ∀ rule ∈ rules, startsWith here rule.old = false := by
  simp [claim, List.findSome?_eq_none_iff]

/-- The rule that makes a claim, and what comes after the place. -/
theorem claim_eq_some (h : claim rules (c :: s) = some (new, more)) :
    ∃ rule ∈ rules, ∃ tail rest, rule.old = c :: tail ∧ rule.new = new ∧ s = tail ++ rest ∧
      more = tail.length := by
  obtain ⟨rule, hrule, h⟩ := List.exists_of_findSome?_eq_some h
  split at h
  · rename_i hstarts
    obtain ⟨rfl, rfl⟩ := Prod.mk.inj (Option.some.inj h)
    obtain ⟨rest, hrest⟩ := startsWith_iff.1 hstarts
    obtain ⟨d, tail, hold⟩ := List.exists_cons_of_ne_nil rule.old_ne
    rw [hold] at hrest ⊢
    obtain ⟨rfl, rfl⟩ := List.cons.inj hrest
    exact ⟨rule, hrule, tail, rest, hold, rfl, rfl, rfl⟩
  · cases h

/-- What no rule begins with stands where it stood, and the replacement goes on after it. -/
theorem dropLead?_substitute {lead : Text}
    (hlead : ∀ c ∈ lead, ∀ rule ∈ rules, some c ≠ rule.old.head? ∧ some c ≠ rule.new.head?)
    (s : Text) : dropLead? lead (substitute (claim rules) s) =
      (dropLead? lead s).map (substitute (claim rules)) := by
  induction lead generalizing s with
  | nil => rfl
  | cons p lead ih =>
    obtain ⟨hp, hlead⟩ := List.forall_mem_cons.1 hlead
    cases s with
    | nil => rfl
    | cons d s =>
      cases hclaim : claim rules (d :: s) with
      | none =>
        rw [substitute_cons_of_none hclaim]
        by_cases hd : p = d
        · simpa [dropLead?, hd] using ih hlead s
        · simp [dropLead?, hd]
      | some found =>
        obtain ⟨new, more⟩ := found
        obtain ⟨rule, hrule, tail, rest, hold, rfl, -, -⟩ := claim_eq_some hclaim
        obtain ⟨e, new, hnew⟩ := List.exists_cons_of_ne_nil rule.new_ne
        obtain ⟨hpold, hpnew⟩ := hp rule hrule
        rw [hold, List.head?_cons, ne_eq, Option.some.injEq] at hpold
        rw [hnew, List.head?_cons, ne_eq, Option.some.injEq] at hpnew
        rw [substitute_cons_of_some hclaim, hnew]
        simp [dropLead?, hpold, hpnew]

/-- One of the parts occurs in the text. -/
def HasOneOf (parts : List Text) (s : Text) : Prop :=
  ∃ part ∈ parts, part <:+: s

/-- Something is claimed in a text if the old text of a rule occurs in it. -/
theorem finds_claim : finds (claim rules) s = true ↔ HasOneOf (rules.map Rule.old) s := by
  simp only [HasOneOf, List.mem_map, exists_exists_and_eq_and]
  induction s with
  | nil =>
    refine ⟨fun h => absurd h Bool.false_ne_true, ?_⟩
    rintro ⟨rule, -, hold⟩
    exact absurd (List.infix_nil.1 hold) rule.old_ne
  | cons c s ih =>
    have hclaim : (claim rules (c :: s)).isSome = true ↔ ∃ rule ∈ rules, rule.old <+: c :: s := by
      rw [Option.isSome_iff_ne_none, ne_eq, claim_eq_none]
      simp only [not_forall, Bool.not_eq_false, startsWith_iff_isPrefix, exists_prop]
    rw [finds, Bool.or_eq_true, hclaim, ih]
    simp only [List.infix_cons_iff, and_or_left, exists_or]

theorem replaceAll_eq_substitute (rule : Rule) :
    replaceAll rule.old rule.new = substitute (claim [rule]) := by
  refine congrArg substitute (funext fun here => ?_)
  simp [claim]

/-! ### Two replacements in a row -/

/-- From no place in what a rule writes do the rules that it leaves alone claim anything. -/
theorem Rule.claim_suffix_append {rule : Rule} (h : ∀ other ∈ others, rule.LeavesAlone other)
    {last : Text} (hlast : last <:+ rule.new) (hne : last ≠ []) (t : Text) :
    claim others (last ++ t) = none := by
  refine claim_eq_none.2 fun other hother => Bool.eq_false_iff.2 fun hstarts => ?_
  have hlt : rule.new.length - last.length < rule.new.length := by
    have hpos := List.length_pos_iff.2 hne
    have hle := hlast.length_le
    omega
  obtain ⟨hbegins, hcovers⟩ := (h other hother).written _ hlt
  rw [← List.suffix_iff_eq_drop.1 hlast] at hbegins hcovers
  obtain ⟨rest, hrest⟩ := startsWith_iff.1 hstarts
  rcases List.prefix_or_prefix_of_prefix ⟨rest, hrest.symm⟩ (List.prefix_append last t) with
    hprefix | hprefix
  · exact hcovers hprefix
  · exact hbegins hprefix

/-- What a rule writes is passed over by the rules that it leaves alone. -/
theorem Rule.substitute_new_append {rule : Rule} (h : ∀ other ∈ others, rule.LeavesAlone other)
    (t : Text) :
    substitute (claim others) (rule.new ++ t) = rule.new ++ substitute (claim others) t :=
  substitute_append_of_none fun _ hlast hne => Rule.claim_suffix_append h hlast hne t

/-- Where the first rules claim nothing, the others claim the same before and after the first
    replacement has gone on, and leave the same behind. -/
theorem claim_cons_substitute (h : ∀ rule ∈ rules, ∀ other ∈ others, ∀ c ∈ other.old.tail,
      some c ≠ rule.old.head? ∧ some c ≠ rule.new.head?) (c : Char) (s : Text) :
    claim others (c :: substitute (claim rules) s) = claim others (c :: s) ∧
      ∀ new more, claim others (c :: s) = some (new, more) →
        (substitute (claim rules) s).drop more = substitute (claim rules) (s.drop more) := by
  have htail : ∀ other ∈ others, ∀ p tail, other.old = p :: tail →
      dropLead? tail (substitute (claim rules) s) =
        (dropLead? tail s).map (substitute (claim rules)) := by
    intro other hother p tail hold
    refine dropLead?_substitute (fun d hd rule hrule => h rule hrule other hother d ?_) s
    rwa [hold]
  constructor
  · refine findSome?_congr fun other hother => ?_
    obtain ⟨p, tail, hold⟩ := List.exists_cons_of_ne_nil other.old_ne
    have hstarts : startsWith (c :: substitute (claim rules) s) other.old =
        startsWith (c :: s) other.old := by
      rw [hold]
      by_cases hp : p = c
      · simp [startsWith, dropLead?, hp, htail other hother p tail hold]
      · simp [startsWith, dropLead?, hp]
    rw [hstarts]
  · intro new more hclaim
    obtain ⟨other, hother, tail, rest, hold, -, rfl, rfl⟩ := claim_eq_some hclaim
    have hdrop := htail other hother c tail hold
    rw [dropLead?_eq_some.2 rfl, Option.map_some, dropLead?_eq_some] at hdrop
    rw [hdrop, List.drop_left, List.drop_left]

/-- Two replacements in a row are one pass with the rules of both. -/
theorem substitute_substitute (h : ∀ rule ∈ rules, ∀ other ∈ others, rule.LeavesAlone other)
    (s : Text) : substitute (claim others) (substitute (claim rules) s) =
      substitute (claim (rules ++ others)) s := by
  induction s using drop_induction with
  | nil => rfl
  | cons c s ih =>
    cases hclaim : claim rules (c :: s) with
    | some found =>
      obtain ⟨new, more⟩ := found
      obtain ⟨rule, hrule, -, -, -, rfl, -, -⟩ := claim_eq_some hclaim
      have hboth : claim (rules ++ others) (c :: s) = some (rule.new, more) := by
        rw [claim_append, hclaim, Option.some_or]
      rw [substitute_cons_of_some hclaim, substitute_cons_of_some hboth,
        Rule.substitute_new_append (h rule hrule), ih more]
    | none =>
      obtain ⟨hsame, hrest⟩ := claim_cons_substitute
        (fun rule hrule other hother => (h rule hrule other hother).heads) c s
      have hboth : claim (rules ++ others) (c :: s) = claim others (c :: s) := by
        rw [claim_append, hclaim, Option.none_or]
      rw [substitute_cons_of_none hclaim]
      cases hother : claim others (c :: s) with
      | none =>
        rw [substitute_cons_of_none (hsame.trans hother),
          substitute_cons_of_none (hboth.trans hother)]
        exact congrArg (c :: ·) (ih 0)
      | some found =>
        obtain ⟨new, more⟩ := found
        rw [substitute_cons_of_some (hsame.trans hother),
          substitute_cons_of_some (hboth.trans hother), hrest new more hother, ih more]

/-- Replacements one after another are one pass with all rules, if each rule leaves those after it
    alone. -/
theorem foldl_replaceAll (h : rules.Pairwise Rule.LeavesAlone) (s : Text) :
    rules.foldl (fun s rule => replaceAll rule.old rule.new s) s = substitute (claim rules) s := by
  have hfrom : ∀ done : List Rule, (∀ rule ∈ done, ∀ other ∈ rules, rule.LeavesAlone other) →
      rules.foldl (fun s rule => replaceAll rule.old rule.new s) (substitute (claim done) s) =
        substitute (claim (done ++ rules)) s := by
    induction rules with
    | nil =>
      intro done _
      rw [List.append_nil]
      rfl
    | cons rule rules ih =>
      intro done hdone
      obtain ⟨hrule, hrules⟩ := List.pairwise_cons.1 h
      have hfirst : ∀ before ∈ done, ∀ other ∈ [rule], before.LeavesAlone other := by
        intro before hbefore other hother
        rw [List.mem_singleton.1 hother]
        exact hdone before hbefore rule List.mem_cons_self
      have hmore : ∀ before ∈ done ++ [rule], ∀ other ∈ rules, before.LeavesAlone other :=
        List.forall_mem_append.2 ⟨fun before hbefore other hother =>
          hdone before hbefore other (List.mem_cons_of_mem rule hother),
          List.forall_mem_singleton.2 hrule⟩
      rw [List.foldl_cons, replaceAll_eq_substitute, substitute_substitute hfirst, ih hrules _ hmore,
        ← List.append_cons]
  have hnone : substitute (claim []) s = s := substitute_of_not_finds <| by
    rw [Bool.eq_false_iff, ne_eq, finds_claim]
    rintro ⟨part, hpart, -⟩
    cases hpart
  have hall := hfrom [] (List.forall_mem_nil _)
  rwa [hnone] at hall

/-- Two lists of rules keep out of each other's way: they leave each other alone, and no place can
    be claimed by both. -/
def Apart (rules others : List Rule) : Prop :=
  ∀ rule ∈ rules, ∀ other ∈ others, rule.LeavesAlone other ∧ other.LeavesAlone rule ∧
    ¬ rule.old <+: other.old ∧ ¬ other.old <+: rule.old

instance (rules others : List Rule) : Decidable (Apart rules others) :=
  inferInstanceAs (Decidable (∀ rule ∈ rules, ∀ other ∈ others, _))

/-- Replacements that keep out of each other's way may be made in either order. -/
theorem Apart.comm (h : Apart rules others) (s : Text) :
    substitute (claim others) (substitute (claim rules) s) =
      substitute (claim rules) (substitute (claim others) s) := by
  rw [substitute_substitute fun rule hrule other hother => (h rule hrule other hother).1,
    substitute_substitute fun other hother rule hrule => (h rule hrule other hother).2.1]
  refine congrArg (substitute · s) (funext fun here => ?_)
  rw [claim_append, claim_append]
  cases hclaim : claim rules here with
  | none => rw [Option.none_or, Option.or_none]
  | some found =>
    have hnone : claim others here = none := by
      refine claim_eq_none.2 fun other hother => Bool.eq_false_iff.2 fun hstarts => ?_
      obtain ⟨rule, hrule, hsome⟩ := List.exists_of_findSome?_eq_some hclaim
      obtain ⟨-, -, hrule', hother'⟩ := h rule hrule other hother
      have hbegins : startsWith here rule.old = true := by
        by_contra hnot
        rw [if_neg hnot] at hsome
        cases hsome
      obtain ⟨rest, hrest⟩ := startsWith_iff.1 hbegins
      obtain ⟨rest', hrest'⟩ := startsWith_iff.1 hstarts
      rcases List.prefix_or_prefix_of_prefix ⟨rest, hrest.symm⟩ ⟨rest', hrest'.symm⟩ with hpre | hpre
      · exact hrule' hpre
      · exact hother' hpre
    rw [hnone, Option.some_or, Option.none_or]

/-! ### Replacements that settle -/

/-- Nothing that the rules write is replaced by any of them, however the text goes on. -/
def Settled (rules : List Rule) : Prop :=
  ∀ rule ∈ rules, ∀ other ∈ rules, rule.LeavesAlone other

instance (rules : List Rule) : Decidable (Settled rules) :=
  inferInstanceAs (Decidable (∀ rule ∈ rules, ∀ other ∈ rules, _))

namespace Settled

/-- Nothing is left to be replaced. -/
theorem not_finds (h : Settled rules) (s : Text) :
    finds (claim rules) (substitute (claim rules) s) = false := by
  refine substitute_induction (motive := fun _ t => finds (claim rules) t = false) rfl
    (fun c s hclaim ih => ?_) (fun c s new more hclaim ih => ?_) s
  · have hnone := (claim_cons_substitute
      (fun rule hrule other hother => (h rule hrule other hother).heads) c s).1
    rw [finds, hnone.trans hclaim]
    exact ih
  · obtain ⟨rule, hrule, -, -, -, rfl, -, -⟩ := claim_eq_some hclaim
    rw [finds_append_of_none, ih]
    exact fun last hlast hne => Rule.claim_suffix_append (h rule hrule) hlast hne _

theorem not_hasOneOf (h : Settled rules) (s : Text) :
    ¬ HasOneOf (rules.map Rule.old) (substitute (claim rules) s) := fun hold =>
  Bool.eq_false_iff.1 (h.not_finds s) (finds_claim.2 hold)

/-- A second pass changes nothing. -/
theorem idempotent (h : Settled rules) (s : Text) :
    substitute (claim rules) (substitute (claim rules) s) = substitute (claim rules) s :=
  substitute_of_not_finds (h.not_finds s)

/-- The texts that stay as they are are those without anything to replace. -/
theorem substitute_eq_self_iff (h : Settled rules) :
    substitute (claim rules) s = s ↔ ¬ HasOneOf (rules.map Rule.old) s := by
  constructor
  · intro hself
    rw [← hself]
    exact h.not_hasOneOf s
  · intro hnone
    exact substitute_of_not_finds (Bool.eq_false_iff.2 fun hfinds => hnone (finds_claim.1 hfinds))

end Settled

/-! ### Rules turned round -/

/-- The rule that writes what this one replaces. -/
def Rule.flip (rule : Rule) : Rule where
  old := rule.new
  new := rule.old
  old_ne := rule.new_ne
  new_ne := rule.old_ne

/-- Of two rules neither's old text begins with the other's. -/
def PrefixFree (rules : List Rule) : Prop :=
  rules.Pairwise fun rule other => ¬ rule.old <+: other.old ∧ ¬ other.old <+: rule.old

instance (rules : List Rule) : Decidable (PrefixFree rules) :=
  inferInstanceAs (Decidable (rules.Pairwise _))

/-- Then it is the rule itself that claims its old text. -/
theorem PrefixFree.claim_old_append (h : PrefixFree rules) {rule : Rule} (hrule : rule ∈ rules)
    (t : Text) : claim rules (rule.old ++ t) = some (rule.new, rule.old.length - 1) := by
  induction rules with
  | nil => cases hrule
  | cons first rules ih =>
    obtain ⟨hfirst, hrules⟩ := List.pairwise_cons.1 h
    rw [claim, List.findSome?_cons]
    rcases List.mem_cons.1 hrule with rfl | hrule
    · rw [if_pos (startsWith_iff.2 ⟨t, rfl⟩)]
    · have hnot : ¬ startsWith (rule.old ++ t) first.old = true := by
        rw [startsWith_iff_isPrefix]
        intro hprefix
        obtain ⟨hbegins, hcovers⟩ := hfirst rule hrule
        rcases List.prefix_or_prefix_of_prefix hprefix (List.prefix_append rule.old t) with
          hprefix | hprefix
        · exact hbegins hprefix
        · exact hcovers hprefix
      rw [if_neg hnot]
      exact ih hrules hrule

theorem PrefixFree.substitute_old_append (h : PrefixFree rules) {rule : Rule} (hrule : rule ∈ rules)
    (t : Text) :
    substitute (claim rules) (rule.old ++ t) = rule.new ++ substitute (claim rules) t := by
  have hclaim := h.claim_old_append hrule t
  obtain ⟨c, tail, hold⟩ := List.exists_cons_of_ne_nil rule.old_ne
  rw [hold, List.cons_append, List.length_cons, Nat.add_sub_cancel] at hclaim
  rw [hold, List.cons_append, substitute_cons_of_some hclaim, List.drop_left]

/-- Rules for single characters are a map over the characters. -/
theorem PrefixFree.substitute_eq_flatMap (h : PrefixFree rules) {write : Char → Text}
    (hwritten : ∀ rule ∈ rules, rule.old.length = 1 ∧ rule.old.flatMap write = rule.new)
    (hkept : ∀ c, write c = [c] ∨ ∃ rule ∈ rules, rule.old = [c]) (s : Text) :
    substitute (claim rules) s = s.flatMap write := by
  induction s with
  | nil => rfl
  | cons c s ih =>
    by_cases hreplaced : ∃ rule ∈ rules, rule.old = [c]
    · obtain ⟨rule, hrule, hold⟩ := hreplaced
      obtain ⟨-, hnew⟩ := hwritten rule hrule
      have hclaim := h.substitute_old_append hrule s
      rw [hold, List.flatMap_singleton] at hnew
      rw [hold, List.singleton_append] at hclaim
      rw [hclaim, ih, ← hnew, List.flatMap_cons]
    · have hnone : claim rules (c :: s) = none := by
        refine claim_eq_none.2 fun rule hrule => ?_
        obtain ⟨d, hold⟩ := List.length_eq_one_iff.1 (hwritten rule hrule).1
        rw [hold]
        refine startsWith_cons_of_ne (fun heq => hreplaced ⟨rule, hrule, ?_⟩) [] s
        rw [hold, heq]
      rw [substitute_cons_of_none hnone, ih, List.flatMap_cons, (hkept c).resolve_right hreplaced]
      rfl

/-- A replacement that settles takes back what its own rules, turned round, have written. -/
theorem Settled.substitute_flip (h : Settled others) (hfree : PrefixFree others)
    (hflip : ∀ rule ∈ rules, rule.flip ∈ others) (s : Text) :
    substitute (claim others) (substitute (claim rules) s) = substitute (claim others) s := by
  have hheads : ∀ rule ∈ rules, ∀ other ∈ others, ∀ c ∈ other.old.tail,
      some c ≠ rule.old.head? ∧ some c ≠ rule.new.head? := fun rule hrule other hother c hc =>
    ((h rule.flip (hflip rule hrule) other hother).heads c hc).symm
  induction s using drop_induction with
  | nil => rfl
  | cons c s ih =>
    cases hclaim : claim rules (c :: s) with
    | some found =>
      obtain ⟨new, more⟩ := found
      obtain ⟨rule, hrule, tail, rest, hold, rfl, rfl, rfl⟩ := claim_eq_some hclaim
      -- The old text that comes back is what the rules write, so they would have passed over it.
      have hback := hfree.substitute_old_append (hflip rule hrule)
      have hpass := Rule.substitute_new_append (h rule.flip (hflip rule hrule))
      have hrest := ih tail.length
      rw [List.drop_left] at hrest
      calc substitute (claim others) (substitute (claim rules) (c :: (tail ++ rest)))
          = substitute (claim others) (rule.new ++ substitute (claim rules) rest) := by
            rw [substitute_cons_of_some hclaim, List.drop_left]
        _ = rule.old ++ substitute (claim others) (substitute (claim rules) rest) := hback _
        _ = rule.old ++ substitute (claim others) rest := by rw [hrest]
        _ = substitute (claim others) (rule.old ++ rest) := (hpass rest).symm
        _ = substitute (claim others) (c :: (tail ++ rest)) := by rw [hold, List.cons_append]
    | none =>
      obtain ⟨hsame, hmore⟩ := claim_cons_substitute hheads c s
      rw [substitute_cons_of_none hclaim]
      cases hother : claim others (c :: s) with
      | none =>
        rw [substitute_cons_of_none (hsame.trans hother), substitute_cons_of_none hother]
        exact congrArg (c :: ·) (ih 0)
      | some found =>
        obtain ⟨new, more⟩ := found
        rw [substitute_cons_of_some (hsame.trans hother), substitute_cons_of_some hother,
          hmore new more hother, ih more]

end Docpress.Text
