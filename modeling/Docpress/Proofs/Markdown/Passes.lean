import Docpress.Markdown.Document
import Docpress.Proofs.Slug.Normal
import Docpress.Proofs.Slug.Numbered
import Docpress.Proofs.Text.Alphanum
import Docpress.Proofs.Text.Within
/-!
The passes over the pieces of running text and over the events of a document. What holds of all that
a pass is given, and of the little that it makes of its own, holds of all that it gives.
-/

namespace Docpress.Markdown

open Text

/-! ### Pieces -/

section Spans

variable {P : Span → Prop}

theorem joinTexts_forall (happend : ∀ {s t : Text}, P (.text s) → P (.text t) → P (.text (s ++ t)))
    {spans : List Span} (h : ∀ s ∈ spans, P s) : ∀ s ∈ joinTexts spans, P s := by
  induction spans using joinTexts.induct with
  | case1 => exact h
  | case2 s rest t rest' heq ih =>
    obtain ⟨hs, hrest⟩ := List.forall_mem_cons.1 h
    have ih := ih hrest
    rw [heq] at ih
    obtain ⟨ht, hmore⟩ := List.forall_mem_cons.1 ih
    rw [joinTexts, heq]
    exact List.forall_mem_cons.2 ⟨happend hs ht, hmore⟩
  | case3 s rest hjoin ih =>
    obtain ⟨hs, hrest⟩ := List.forall_mem_cons.1 h
    rw [joinTexts]
    split
    · rename_i t rest' heq
      exact absurd heq (hjoin t rest')
    · exact List.forall_mem_cons.2 ⟨hs, ih hrest⟩
  | case4 s rest hs ih =>
    obtain ⟨hspan, hrest⟩ := List.forall_mem_cons.1 h
    rw [joinTexts]
    · exact List.forall_mem_cons.2 ⟨hspan, ih hrest⟩
    · exact hs

/-- The link of an address is made of its normal form, and shows another one; both are over any
    alphabet that the address is over, if the scheme is and the shown form is. -/
theorem addressLink?_eq_some {p : Char → Prop} (hmailto : Within p "mailto:".toList)
    (hdisplay : ∀ {s : Text}, Within p s → Within p (Url.display s)) {scheme : BareLink.Scheme}
    {written : Text} (hwritten : Within p written) {link : List Span}
    (h : addressLink? scheme written = some link) :
    ∃ url shown, link = [.openLink ⟨Url.target url, [], Url.isBroken url⟩, .text shown, .closeLink] ∧
      Within p url ∧ Within p shown := by
  have hdrop {s : Text} (hs : Within p s) :
      Within p ((dropLead? "mailto:".toList s).getD s) := by
    cases hrest : dropLead? "mailto:".toList s with
    | none => exact hs
    | some rest =>
      rw [dropLead?_eq_some.1 hrest] at hs
      exact hs.of_subset (List.subset_append_right _ _)
  have hurl (implied : Bool) :
      Within p (if implied then "mailto:".toList ++ written else written) := by
    split
    · exact hmailto.append hwritten
    · exact hwritten
  unfold addressLink? at h
  dsimp only at h
  rw [Option.ite_none_right_eq_some] at h
  refine ⟨_, _, (Option.some.inj h.2).symm, hurl _, ?_⟩
  split
  · exact hdrop (hdisplay (hmailto.append hwritten))
  · exact hdisplay hwritten

/-- The addresses of a text are links, and the text around them is parts of it. -/
theorem splitAddresses_forall {s : Text} (htext : ∀ n m, P (.text ((s.take n).drop m)))
    (hlink : ∀ {scheme n m link}, addressLink? scheme ((s.take n).drop m) = some link →
      ∀ span ∈ link, P span) (done : Nat) (found : List BareLink.Found) :
    ∀ span ∈ splitAddresses done s found, P span := by
  have hpart (q : Prop) [Decidable q] (n m : Nat) :
      ∀ span ∈ (if q then [.text ((s.take n).drop m)] else [] : List Span), P span := by
    split
    · exact List.forall_mem_singleton.2 (htext n m)
    · exact List.forall_mem_nil _
  induction found generalizing done with
  | nil =>
    have hlast := hpart (done < s.length) s.length done
    rwa [List.take_length] at hlast
  | cons f rest ih =>
    unfold splitAddresses
    split
    · rename_i link hfound
      exact List.forall_mem_append.2
        ⟨List.forall_mem_append.2 ⟨hpart _ _ _, hlink hfound⟩, ih _⟩
    · exact ih _

theorem linkAddresses_forall {s : Text} (htext : ∀ n m, P (.text ((s.take n).drop m)))
    (hlink : ∀ {scheme n m link}, addressLink? scheme ((s.take n).drop m) = some link →
      ∀ span ∈ link, P span) (before : Option Span) :
    ∀ span ∈ linkAddresses before s, P span := by
  unfold linkAddresses
  split
  · have hall := htext s.length 0
    rw [List.take_length, List.drop_zero] at hall
    exact List.forall_mem_singleton.2 hall
  · exact splitAddresses_forall htext hlink _ _

/-- What going through the pieces makes of the first one. -/
theorem linkSpans_cons (before : Option Span) (span : Span) (rest : List Span) :
    (linkSpans before (span :: rest)).1 = span :: (linkSpans (some span) rest).1 ∨
      ∃ s, span = .text s ∧ (linkSpans before (span :: rest)).1 =
        linkAddresses before s ++ (linkSpans (some span) rest).1 := by
  rw [linkSpans]
  dsimp only
  split
  · split <;> exact .inl rfl
  · split
    · exact .inl rfl
    · exact .inl rfl
    · dsimp only
      split
      · exact .inr ⟨_, rfl, rfl⟩
      · exact .inl rfl
    · exact .inl rfl

theorem withAddresses_forall
    (haddresses : ∀ {s : Text}, P (.text s) → ∀ before, ∀ span ∈ linkAddresses before s, P span)
    (source : Text) {spans : List Span} (h : ∀ s ∈ spans, P s) :
    ∀ s ∈ withAddresses source spans, P s := by
  have hlinks (before : Option Span) : ∀ s ∈ (linkSpans before spans).1, P s := by
    induction spans generalizing before with
    | nil => exact h
    | cons span rest ih =>
      obtain ⟨hspan, hrest⟩ := List.forall_mem_cons.1 h
      rcases linkSpans_cons before span rest with heq | ⟨s, rfl, heq⟩
      · rw [heq]
        exact List.forall_mem_cons.2 ⟨hspan, ih hrest _⟩
      · rw [heq]
        exact List.forall_mem_append.2 ⟨haddresses hspan _, ih hrest _⟩
  unfold withAddresses
  split
  · exact hlinks none
  · exact h

end Spans

/-! ### Events -/

section Events

/-- The one event that reading running text makes of its own is the start of a task. -/
theorem readTexts_forall {refs : References} {given : Event Text → Prop}
    {P : Event (List Span) → Prop} (hitem : P (.start (.item true)))
    (hmap : ∀ {e}, given e → P (e.map (readText refs)))
    (htask : ∀ {source}, isTask source = true → given (.inline source) →
      P (.inline (readTask refs source)))
    {events : List (Event Text)} (h : ∀ e ∈ events, given e) :
    ∀ e ∈ readTexts refs events, P e := by
  induction events using readTexts.induct with
  | case1 => exact List.forall_mem_nil _
  | case2 task tight source rest hbox ih =>
    simp only [List.forall_mem_cons] at h
    obtain ⟨-, hparagraph, hsource, hrest⟩ := h
    rw [readTexts, if_pos hbox]
    simp only [List.forall_mem_cons]
    exact ⟨hitem, hmap hparagraph, htask hbox hsource, ih hrest⟩
  | case3 task tight source rest hbox ih =>
    simp only [List.forall_mem_cons] at h
    obtain ⟨hstart, hparagraph, hsource, hrest⟩ := h
    rw [readTexts, if_neg hbox]
    simp only [List.forall_mem_cons]
    exact ⟨hmap hstart, hmap hparagraph, hmap hsource, ih hrest⟩
  | case4 event rest hother ih =>
    obtain ⟨hevent, hrest⟩ := List.forall_mem_cons.1 h
    rw [readTexts]
    · exact List.forall_mem_cons.2 ⟨hmap hevent, ih hrest⟩
    · exact hother

theorem markTaskLists_forall {α : Type} {P : Event α → Prop}
    (hlist : ∀ first tasks, P (.start (.list first tasks))) {events : List (Event α)}
    (h : ∀ e ∈ events, P e) : ∀ e ∈ (markTaskLists events).1, P e := by
  induction events with
  | nil => exact h
  | cons event rest ih =>
    obtain ⟨hevent, hrest⟩ := List.forall_mem_cons.1 h
    have hout := ih hrest
    rw [markTaskLists]
    dsimp only
    split
    · exact List.forall_mem_cons.2 ⟨hevent, hout⟩
    · exact List.forall_mem_cons.2 ⟨hlist _ _, hout⟩
    · exact List.forall_mem_cons.2 ⟨hevent, hout⟩
    · exact List.forall_mem_cons.2 ⟨hevent, hout⟩

end Events

/-! ### Identifiers -/

/-- A name is made of word characters and hyphens. -/
def IsNameChar (c : Char) : Prop :=
  isWord c = true ∨ c = '-'

theorem hyphenate_isName (inRun : Bool) (s : Text) :
    Within IsNameChar (Slug.hyphenate inRun s) :=
  Slug.hyphenate_within (.inr rfl) fun _ _ => .inl

theorem numbered_isName {slug : Text} (h : Within IsNameChar slug) (n : Nat) :
    Within IsNameChar (Slug.numbered slug n) := by
  cases n with
  | zero => exact h
  | succ n =>
    have hdigits : Within IsNameChar (Text.ofNat (n + 1)) := fun c hc => by
      have halphanum := isWord_ofNat (n + 1) c hc
      have hascii : c.toNat < 128 :=
        Nat.lt_of_le_of_lt (toNat_of_isAlphanum halphanum).2 (by decide)
      exact .inl (by rw [isWord, if_pos hascii, halphanum]; rfl)
    exact h.append (within_cons.2 ⟨.inr rfl, hdigits⟩)

theorem isName_of_isFirstFree {taken : List Text} {slug id : Text} (h : Within IsNameChar slug)
    (hfree : Slug.IsFirstFree taken slug id) : Within IsNameChar id := by
  obtain ⟨n, rfl, -, -⟩ := hfree
  exact numbered_isName h n

theorem firstFree_isName {taken : List Text} {slug : Text} (h : Within IsNameChar slug) :
    Within IsNameChar (Slug.firstFree taken slug) :=
  isName_of_isFirstFree h (Slug.firstFree_isFirstFree taken slug)

/-- The identifiers of headings are names. -/
theorem identifyHeadings_forall {P : Event (List Span) → Prop}
    (hheading : ∀ level {name}, Within IsNameChar name → P (.start (.heading level (some name))))
    {taken : List Text} {events : List (Event (List Span))} (h : ∀ e ∈ events, P e) :
    ∀ e ∈ identifyHeadings taken events, P e := by
  induction taken, events using identifyHeadings.induct with
  | case1 => exact h
  | case2 taken level id spans rest slug ih =>
    obtain ⟨-, h⟩ := List.forall_mem_cons.1 h
    obtain ⟨hspans, hrest⟩ := List.forall_mem_cons.1 h
    have hslug : Within IsNameChar slug := firstFree_isName (hyphenate_isName _ _)
    rw [identifyHeadings]
    exact List.forall_mem_cons.2
      ⟨hheading level hslug, List.forall_mem_cons.2 ⟨hspans, ih hrest⟩⟩
  | case3 taken event rest hother ih =>
    obtain ⟨hevent, hrest⟩ := List.forall_mem_cons.1 h
    rw [identifyHeadings]
    · exact List.forall_mem_cons.2 ⟨hevent, ih hrest⟩
    · exact hother

end Docpress.Markdown
