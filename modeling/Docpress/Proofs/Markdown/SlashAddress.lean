import Docpress.Proofs.Markdown.BareLink
import Docpress.Proofs.Markdown.Passes
import Docpress.Proofs.Text.Growth
import Docpress.Proofs.Url.Hostless
/-!
Addresses in ASCII text without colons and at signs. Such an address begins with two slashes, and it
is always made a link, but for one that stands right behind a literal character.
-/

namespace Docpress.Markdown

namespace BareLink

open Text

/-- The text holds nothing that an address needs but slashes. -/
structure IsSlashed (s : Text) : Prop where
  ascii : ∀ c ∈ s, c.toNat < 128
  noColon : ':' ∉ s
  noAt : '@' ∉ s

theorem IsSlashed.tail {c : Char} {s : Text} (h : IsSlashed (c :: s)) : IsSlashed s :=
  ⟨fun d hd => h.ascii d (List.mem_cons_of_mem c hd),
    fun hmem => h.noColon (List.mem_cons_of_mem c hmem),
    fun hmem => h.noAt (List.mem_cons_of_mem c hmem)⟩

theorem dropLeadFolded?_eq_some {lead s rest : Text} (h : dropLeadFolded? lead s = some rest) :
    s.map foldChar = lead ++ rest.map foldChar := by
  induction lead generalizing s with
  | nil =>
    obtain rfl := Option.some.inj h
    rfl
  | cons p lead ih =>
    cases s with
    | nil => cases h
    | cons c s =>
      rw [dropLeadFolded?] at h
      split at h
      · rename_i hc
        rw [List.map_cons, ih h, eq_of_beq hc, List.cons_append]
      · cases h

/-- The only scheme that begins in such a text is the two slashes. -/
theorem IsSlashed.scheme?_eq_some {s : Text} (h : IsSlashed s) {k : Scheme}
    (hk : scheme? s = some k) : k = .slashes ∧ ∃ rest, s = '/' :: '/' :: rest := by
  have hfound := List.find?_some hk
  obtain ⟨rest, hrest⟩ := Option.isSome_iff_exists.1 hfound
  have hfold := dropLeadFolded?_eq_some hrest
  have hslash : ∀ c ∈ s, foldChar c = '/' → c = '/' := fun c hc heq =>
    by_contra fun hne => foldChar_ne (by simp) (h.ascii c hc) hne heq
  have hcolon : ':' ∉ k.text := by
    intro hmem
    have hmem : ':' ∈ s.map foldChar := hfold ▸ List.mem_append_left _ hmem
    obtain ⟨c, hc, heq⟩ := List.mem_map.1 hmem
    refine foldChar_ne (d := ':') (by simp) (h.ascii c hc) (fun hsame => ?_) heq
    exact h.noColon (hsame ▸ hc)
  cases k with
  | slashes =>
    refine ⟨rfl, ?_⟩
    obtain ⟨c, s, rfl, hfirst, hmore⟩ := List.map_eq_cons_iff.1 hfold
    obtain ⟨d, s, rfl, hsecond, -⟩ := List.map_eq_cons_iff.1 hmore
    exact ⟨s, by rw [hslash c (by simp) hfirst, hslash d (by simp) hsecond]⟩
  | _ => exact absurd (by decide) hcolon

theorem afterMail?_eq_none {s : Text} (hs : '@' ∉ s) : afterMail? s = none := by
  rw [afterMail?, afterMailbox?_eq_none (atSignsBraced_of_notMem hs)]
  rfl

/-- An address of two slashes stands at a place in the text. -/
def Found.IsSlashedAt (s : Text) (i : Nat) (f : Found) : Prop :=
  i ≤ f.start ∧ f.scheme = .slashes ∧ ∃ rest, s.drop (f.start - i) = '/' :: '/' :: rest

theorem Found.IsSlashedAt.cons {c : Char} {s : Text} {i : Nat} {f : Found}
    (h : f.IsSlashedAt s (i + 1)) : f.IsSlashedAt (c :: s) i := by
  obtain ⟨hstart, hscheme, hslashes⟩ := h
  refine ⟨by omega, hscheme, ?_⟩
  rw [show f.start - i = f.start - (i + 1) + 1 by omega, List.drop_succ_cons]
  exact hslashes

theorem longer?_none (a : Option Found) : longer? a none = a := by
  cases a <;> rfl

/-- The candidates are in the order of their places, and each is one of two slashes. -/
theorem IsSlashed.candidates {s : Text} (h : IsSlashed s) (before : Option Char)
    (inScheme inMail i : Nat) :
    (candidates before inScheme inMail i s).Pairwise (·.start < ·.start) ∧
      ∀ f ∈ candidates before inScheme inMail i s, f.IsSlashedAt s i := by
  induction s generalizing before inScheme inMail i with
  | nil => exact ⟨.nil, List.forall_mem_nil _⟩
  | cons c s ih =>
    have hmail : afterMail? (c :: s) = none := afterMail?_eq_none h.noAt
    unfold BareLink.candidates
    dsimp only
    rw [hmail, Option.map_none, ite_self]
    split
    · rename_i f hfound
      obtain ⟨horder, hall⟩ := ih h.tail (some c) _ _ (i + 1)
      have hhere : f.start = i ∧ f.IsSlashedAt (c :: s) i := by
        have hschemed := (longer?_none _).symm.trans hfound
        obtain ⟨k, hk, hfound⟩ := Option.bind_eq_some_iff.1 hschemed
        obtain ⟨after, -, rfl⟩ := Option.map_eq_some_iff.1 hfound
        rw [Option.ite_none_right_eq_some] at hk
        obtain ⟨rfl, hslashes⟩ := h.scheme?_eq_some hk.2
        exact ⟨rfl, Nat.le_refl i, rfl, by rw [Nat.sub_self]; exact hslashes⟩
      exact ⟨List.pairwise_cons.2 ⟨fun g hg => by have := (hall g hg).1; omega, horder⟩,
        List.forall_mem_cons.2 ⟨hhere.2, fun g hg => (hall g hg).cons⟩⟩
    · obtain ⟨horder, hall⟩ := ih h.tail (some c) _ _ (i + 1)
      exact ⟨horder, fun g hg => (hall g hg).cons⟩

theorem apart_sublist (done : Nat) (found : List Found) : (apart done found).Sublist found := by
  induction found generalizing done with
  | nil => exact .slnil
  | cons f rest ih =>
    rw [apart]
    split
    · exact (ih done).cons f
    · exact (ih f.stop).cons_cons f

/-- The addresses in the text are in the order of their places, and each is one of two slashes. -/
theorem IsSlashed.findAll {s : Text} (h : IsSlashed s) :
    (findAll s).Pairwise (·.start < ·.start) ∧ ∀ f ∈ findAll s, f.IsSlashedAt s 0 := by
  obtain ⟨horder, hall⟩ := h.candidates none 0 0 0
  have hsub := apart_sublist 0 (BareLink.candidates none 0 0 0 s)
  exact ⟨horder.sublist hsub, fun f hf => hall f (hsub.subset hf)⟩

/-- Without two slashes in a row there is no address. -/
theorem IsSlashed.findAll_eq_nil {s : Text} (h : IsSlashed s)
    (hslashes : hasPart ['/', '/'] s = false) : BareLink.findAll s = [] := by
  refine List.eq_nil_iff_forall_not_mem.2 fun f hf => ?_
  obtain ⟨-, -, rest, hrest⟩ := h.findAll.2 f hf
  refine Bool.false_ne_true (hslashes.symm.trans ((hasPart_iff (List.cons_ne_nil _ _)).2 ?_))
  refine ⟨s.take (f.start - 0), rest, ?_⟩
  rw [List.append_assoc]
  exact (List.take_append_drop _ s).symm.trans (congrArg _ hrest)

end BareLink

/-! ### Their links -/

/-- What is written with a slash at its start is made a link. -/
theorem exists_addressLink? {written : Text} (h : written = [] ∨ written.head? = some '/') :
    ∃ target shown, addressLink? .slashes written =
      some [.openLink target, .text shown, .closeLink] := by
  have hallowed : Url.isAllowed (Url.target written) = true := by
    rcases h with rfl | hhead
    · decide +kernel
    · obtain ⟨rest, rfl⟩ : ∃ rest, written = '/' :: rest := by
        cases written with
        | nil => cases hhead
        | cons c rest => exact ⟨rest, by rw [Option.some.inj hhead]⟩
      exact Url.isAllowed_target_slash rest
  have himplied : (BareLink.Scheme.slashes == .mailto) = false := rfl
  unfold addressLink?
  dsimp only
  simp only [himplied, Bool.false_and, Bool.false_eq_true, if_false, hallowed, if_true]
  exact ⟨_, _, rfl⟩

/-- The first address is a link. -/
theorem exists_mem_splitAddresses {s : Text} {f : BareLink.Found} (hf : f.IsSlashedAt s 0)
    (done : Nat) (rest : List BareLink.Found) :
    ∃ target, Span.openLink target ∈ splitAddresses done s (f :: rest) := by
  obtain ⟨-, hscheme, behind, hslashes⟩ := hf
  have hwritten : (s.take f.stop).drop f.start = [] ∨
      ((s.take f.stop).drop f.start).head? = some '/' := by
    rw [List.drop_take, List.head?_take]
    split
    · rename_i hzero
      exact .inl (by rw [hzero, List.take_zero])
    · exact .inr (congrArg List.head? hslashes)
  obtain ⟨target, shown, hlink⟩ := exists_addressLink? hwritten
  refine ⟨target, ?_⟩
  unfold splitAddresses
  rw [hscheme, hlink]
  simp

/-- Behind a literal character a text stays as it is if no address stands in it but at its start. -/
theorem linkAddresses_literal {s : Text} (h : BareLink.IsSlashed s) (hs : s ≠ [])
    (hstart : ∀ f ∈ BareLink.findAll s, f.start = 0) (literal : Text) :
    linkAddresses (some (.literal literal)) s = [.text s] := by
  obtain ⟨horder, -⟩ := h.findAll
  rw [linkAddresses]
  cases hfound : BareLink.findAll s with
  | nil => rfl
  | cons f rest =>
    rw [hfound] at hstart horder
    obtain ⟨hfirst, hrest⟩ := List.forall_mem_cons.1 hstart
    have hsingle : rest = [] := by
      refine List.eq_nil_iff_forall_not_mem.2 fun g hg => ?_
      have hlater := (List.pairwise_cons.1 horder).1 g hg
      rw [hrest g hg] at hlater
      exact Nat.not_lt_zero _ hlater
    have hlength : 0 < s.length := List.length_pos_iff.2 hs
    dsimp only
    rw [hfirst, if_pos (beq_self_eq_true _), hsingle]
    unfold splitAddresses
    rw [if_pos hlength, List.drop_zero]

/-- Any other address is a link. -/
theorem exists_mem_linkAddresses {s : Text} (h : BareLink.IsSlashed s)
    (hstart : ∃ f ∈ BareLink.findAll s, f.start ≠ 0) (before : Option Span) :
    ∃ target, Span.openLink target ∈ linkAddresses before s := by
  obtain ⟨-, hall⟩ := h.findAll
  obtain ⟨g, hg, hne⟩ := hstart
  rw [linkAddresses]
  cases hfound : BareLink.findAll s with
  | nil =>
    rw [hfound] at hg
    cases hg
  | cons f rest =>
    rw [hfound] at hg hall
    obtain ⟨hfirst, hrest⟩ := List.forall_mem_cons.1 hall
    have hlinks (guarded : Bool) (hguarded : guarded = true → f.start = 0) :
        ∃ target, Span.openLink target ∈
          splitAddresses 0 s (if guarded then rest else f :: rest) := by
      cases guarded with
      | false => exact exists_mem_splitAddresses hfirst 0 rest
      | true =>
        have hlater : g ∈ rest := by
          rcases List.mem_cons.1 hg with rfl | hlater
          · exact absurd (hguarded rfl) hne
          · exact hlater
        obtain ⟨next, more, heq⟩ := List.exists_cons_of_ne_nil (List.ne_nil_of_mem hlater)
        rw [heq] at hrest ⊢
        exact exists_mem_splitAddresses (hrest next (by simp)) 0 more
    refine hlinks _ fun hguarded => ?_
    split at hguarded
    · exact eq_of_beq hguarded
    · cases hguarded

end Docpress.Markdown
