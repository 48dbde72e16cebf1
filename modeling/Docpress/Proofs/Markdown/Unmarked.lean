import Docpress.Proofs.Markdown.Composed
import Docpress.Proofs.Markdown.Running
import Docpress.Proofs.Markdown.Task
/-!
The events of a guarded document. Bare addresses become links, tasks get their boxes and headings
their identifiers, and no marker is added by any of it.
-/

namespace Docpress.Markdown

open Text Url

/-! ### Bare addresses -/

theorem addressLink?_masked {scheme : BareLink.Scheme} {written : Text} (hwritten : IsClear written)
    {link : List Span} (h : addressLink? scheme written = some link) : MaskedSpans link := by
  have hmailto : IsClear "mailto:".toList := by decide
  obtain ⟨url, shown, rfl, hurl, hshown⟩ :=
    addressLink?_eq_some hmailto display_clear hwritten h
  exact .address (target_masked hurl) (IsClear.masked hshown) .nil

theorem splitAddresses_masked {done : Nat} {s : Text} (hs : IsClear s)
    (found : List BareLink.Found) : MaskedSpans (splitAddresses done s found) := by
  have htext {t : Text} (ht : t ⊆ s) (q : Prop) [Decidable q] :
      MaskedSpans (if q then [.text t] else []) := by
    split
    · exact .piece (hs.of_subset ht) .nil
    · exact .nil
  induction found generalizing done with
  | nil => exact htext (List.drop_subset _ _) _
  | cons f rest ih =>
    unfold splitAddresses
    split
    · rename_i link hlink
      have hlink := addressLink?_masked ((hs.take _).drop _) hlink
      refine ((htext ?_ _).append hlink).append ih
      exact List.Subset.trans (List.drop_subset _ _) (List.take_subset _ _)
    · exact ih

theorem linkAddresses_masked (before : Option Span) {s : Text} (hs : IsClear s) :
    MaskedSpans (linkAddresses before s) := by
  unfold linkAddresses
  split
  · exact .piece hs .nil
  · exact splitAddresses_masked hs _

/-- Before the end of a link addresses are not looked for. -/
theorem linkSpans_close (before : Option Span) (rest : List Span) :
    (linkSpans before (.closeLink :: rest)).1 =
        .closeLink :: (linkSpans (some .closeLink) rest).1 ∧
      (linkSpans before (.closeLink :: rest)).2.inLink = true := by
  rw [linkSpans]
  dsimp only
  split
  · rename_i hlink
    exact ⟨rfl, hlink⟩
  · exact ⟨rfl, rfl⟩

theorem linkSpans_text (before : Option Span) (s : Text) {rest : List Span}
    (h : (linkSpans (some (.text s)) rest).2.inLink = true) :
    linkSpans before (.text s :: rest) =
      (.text s :: (linkSpans (some (.text s)) rest).1, (linkSpans (some (.text s)) rest).2) := by
  rw [linkSpans]
  dsimp only
  rw [if_pos h]

theorem linkSpans_address (before : Option Span) (target : LinkTarget) (shown : Text)
    (rest : List Span) :
    (linkSpans before (.openLink target :: .text shown :: .closeLink :: rest)).1 =
      .openLink target :: .text shown :: .closeLink :: (linkSpans (some .closeLink) rest).1 := by
  obtain ⟨hclose, hlink⟩ := linkSpans_close (some (.text shown)) rest
  have htext := linkSpans_text (some (.openLink target)) shown hlink
  rw [linkSpans]
  dsimp only
  rw [htext]
  dsimp only
  rw [if_pos hlink, hclose]

theorem MaskedSpans.linkSpans {spans : List Span} (h : MaskedSpans spans) (before : Option Span) :
    MaskedSpans (Markdown.linkSpans before spans).1 := by
  induction h generalizing before with
  | nil => exact .nil
  | @piece span rest hs _ ih =>
    rcases linkSpans_cons before span rest with heq | ⟨s, rfl, heq⟩
    · rw [heq]
      exact .piece hs (ih _)
    · rw [heq]
      exact (linkAddresses_masked before hs).append (ih _)
  | address hurl hshown _ ih =>
    rw [linkSpans_address]
    exact .address hurl hshown (ih _)

theorem MaskedSpans.withAddresses {spans : List Span} (h : MaskedSpans spans) (source : Text) :
    MaskedSpans (Markdown.withAddresses source spans) := by
  unfold Markdown.withAddresses
  split
  · exact h.linkSpans none
  · exact h

/-! ### Tasks -/

theorem joinTexts_first {spans : List Span}
    (h : ∀ s, spans.head? = some s → ¬ s.IsCopied) :
    ∀ s, (joinTexts spans).head? = some s → ¬ s.IsCopied := by
  cases spans with
  | nil => exact h
  | cons span rest =>
    cases span with
    | text t =>
      rw [joinTexts]
      split <;>
      · intro s hs
        obtain rfl := Option.some.inj hs
        exact id
    | _ => exact h

/-- Emphasis in place of a mark is no copy. -/
theorem Reader.finish_first {r : Reader} (h : r.IsMasked) (hbegun : r.Begun) :
    ∀ s, r.finish.head? = some s → ¬ s.IsCopied := by
  have hflush := h.flush
  have hsame : SameButMarks r.flush.spans.reverse.toArray r.finish.toArray :=
    resolveEmphasis_same fun d hd => hflush.delimiters d (List.mem_reverse.1 hd)
  intro s hs
  cases hspans : r.flush.spans.reverse with
  | nil =>
    rw [hspans] at hsame
    rw [SameButMarks.eq_nil hsame] at hs
    cases hs
  | cons t rest =>
    have hfirst : ¬ t.IsCopied := by
      refine flush_first hbegun.first t ?_
      rw [← List.head?_reverse, hspans]
      rfl
    rw [hspans] at hsame
    obtain ⟨u, more, hfinish, hu, -⟩ := hsame.exists_cons
    rw [hfinish] at hs
    obtain rfl := Option.some.inj hs
    rcases hu with rfl | ⟨-, hmark⟩
    · exact hfirst
    · intro hcopied
      cases u with
      | code => exact hmark
      | html => exact hmark
      | _ => exact hcopied

/-- What begins with a bracket is read as text or a link first. -/
theorem inlineSpans_first {refs : References} (hrefs : ∀ ref ∈ refs, ref.2.IsMasked) {s : Text}
    (hs : Guarded ('[' :: s)) (hclean : ∀ copy ∈ inlineCopies refs ('[' :: s), copy.IsClean) :
    ∀ span, (inlineSpans refs ('[' :: s)).head? = some span → ¬ span.IsCopied := by
  refine joinTexts_first (Reader.finish_first ((Reader.IsMasked.start hs).read hrefs hclean) ?_)
  have hstart : FirstIsRead (Reader.spans { place := .start ('[' :: s) }) := nofun
  rw [maxNesting, List.length_cons, Reader.read_cons rfl]
  refine Reader.Begun.read ?_ _ _ _
  have hnext : (Reader.next refs (s.length + 1) 19 { place := .start ('[' :: s) } '[' s) =
      Reader.readLink refs (s.length + 1) 19 { place := .start ('[' :: s) } := rfl
  rw [hnext]
  unfold Reader.readLink
  dsimp only
  split
  · exact Reader.Begun.leave hstart _ _
  · exact ⟨hstart, fun _ => List.cons_ne_nil _ _⟩

theorem isClear_taskBox (source : Text) : IsClear (taskBox source) := by
  unfold taskBox
  split
  · split <;> decide
  · exact .nil

theorem Span.IsMasked.drop {s : Span} (h : s.IsMasked) (hread : ¬ s.IsCopied) (n : Nat) :
    (s.drop n).IsMasked := by
  cases s with
  | text => exact Within.drop h n
  | literal => exact Within.drop h n
  | code => exact absurd trivial hread
  | html => exact absurd trivial hread
  | _ => exact h

theorem MaskedSpans.taskSpans {spans : List Span} (h : MaskedSpans spans)
    (hfirst : ∀ s, spans.head? = some s → ¬ s.IsCopied) (source : Text) :
    MaskedSpans (Markdown.taskSpans source spans) := by
  have hbox : Span.IsMasked (.html (taskBox source)) := (isClear_taskBox source).masked
  cases h with
  | nil => exact .piece hbox .nil
  | piece hs hrest => exact .piece hbox (.piece (hs.drop (hfirst _ rfl) 3) hrest)
  | address hurl hshown hrest => exact .piece hbox (.address hurl hshown hrest)

/-! ### Events -/

theorem holdsOfMarkup_masked : HoldsOfMarkup Masked where
  nil := .nil
  append := Masked.append
  markup h := .char ⟨h.ne (by decide), h.ne (by decide)⟩ .nil

/-- The event has no markers but those that are shown again. -/
def Event.IsMasked : Event (List Span) → Prop
  | .start e => Masked e.attributes
  | .inline spans => MaskedSpans spans
  | .code content => Masked content
  | .fence info content => IsClear (fenceLanguage info) ∧ Masked content
  | .html content => Masked content
  | _ => True

theorem masked_verbatim {s : Text} (h : Guarded s)
    (hclean : ∀ copy ∈ [Copy.verbatim s], copy.IsClean) : Masked s :=
  (hclean _ (List.mem_singleton_self _)).masked h.notMem.1

section

variable {refs : References} (hrefs : ∀ ref ∈ refs, ref.2.IsMasked)

include hrefs

theorem readText_masked {source : Text} (h : Guarded source)
    (hclean : ∀ copy ∈ inlineCopies refs source, copy.IsClean) :
    MaskedSpans (readText refs source) :=
  (inlineSpans_masked hrefs h hclean).withAddresses source

theorem readTask_masked {source : Text} (htask : isTask source = true) (h : Guarded source)
    (hclean : ∀ copy ∈ inlineCopies refs source, copy.IsClean) :
    MaskedSpans (readTask refs source) := by
  have hspans := inlineSpans_masked hrefs h hclean
  unfold isTask at htask
  split at htask
  · exact (hspans.taskSpans (inlineSpans_first hrefs h hclean) _).withAddresses _
  · cases htask

theorem map_masked {e : Event Text} (h : e.Holds Guarded)
    (hclean : ∀ copy ∈ e.copies refs, copy.IsClean) :
    Event.IsMasked (e.map (readText refs)) := by
  cases e with
  | start e => exact Element.IsUnnamed.attributes holdsOfMarkup_masked h
  | inline source => exact readText_masked hrefs h hclean
  | code content => exact masked_verbatim h hclean
  | fence info content =>
    exact ⟨fenceLanguage_within h.1.isClear_unescape, masked_verbatim h.2 hclean⟩
  | html content => exact masked_verbatim h.2 hclean
  | _ => trivial

theorem readTexts_masked {events : List (Event Text)} (h : ∀ e ∈ events, e.Holds Guarded)
    (hclean : ∀ e ∈ events, ∀ copy ∈ e.copies refs, copy.IsClean) :
    ∀ e ∈ readTexts refs events, e.IsMasked := by
  have hitem : Event.IsMasked (.start (.item true)) :=
    Element.IsUnnamed.attributes holdsOfMarkup_masked trivial
  have hgiven : ∀ e ∈ events, e.Holds Guarded ∧ ∀ copy ∈ e.copies refs, copy.IsClean :=
    fun e he => ⟨h e he, hclean e he⟩
  exact readTexts_forall hitem (fun he => map_masked hrefs he.1 he.2)
    (fun htask hsource => readTask_masked hrefs htask hsource.1 hsource.2) hgiven

end

theorem heading_masked (level : Nat) {name : Text} (h : Within IsNameChar name) :
    Event.IsMasked (.start (.heading level (some name))) :=
  heading_attributes holdsOfMarkup_masked level h

/-- In the document of a guarded text there are no markers but those that are shown again, if
    nothing is copied but what is clean. -/
theorem document_masked {source : Text} (h : Guarded source)
    (hclean : ∀ copy ∈ copies source, copy.IsClean) : ∀ e ∈ document source, e.IsMasked := by
  have hlist (first : Option Nat) (tasks : Bool) : Event.IsMasked (.start (.list first tasks)) :=
    Element.IsUnnamed.attributes holdsOfMarkup_masked trivial
  refine markTaskLists_forall hlist (readTexts_masked (references_isMasked h)
    (blocksOf_holds Guarded.kept h.normalize).events fun e he copy hcopy => ?_)
  exact hclean copy (List.mem_flatMap.2 ⟨e, he, hcopy⟩)

/-! ### Writing -/

theorem Span.IsMasked.isMadeOf {s : Span} (h : s.IsMasked) : s.IsMadeOf Masked := by
  cases s with
  | text => exact (IsClear.masked h).escape
  | literal => exact (IsClear.masked h).escape
  | code => exact Masked.escape h
  | html => exact h
  | openLink target => exact ⟨h.url.escape, h.title.masked.escape⟩
  | image target alt innerAlt =>
    obtain ⟨htarget, halt, -⟩ := h
    exact ⟨htarget.url.escape, htarget.title.masked.escape, halt.escape⟩
  | _ => trivial

theorem MaskedSpans.write {spans : List Span} (h : MaskedSpans spans) (breaks : Bool) :
    Masked (spans.flatMap (Span.write breaks)) :=
  h.flatMap (fun hs => hs.isMadeOf.write holdsOfMarkup_masked breaks) fun hs => hs.escape

theorem Event.IsMasked.isMadeOf {e : Event (List Span)} (h : e.IsMasked) (breaks : Bool) :
    e.IsMadeOf Masked breaks := by
  cases e with
  | start => exact h
  | inline => exact MaskedSpans.write h breaks
  | code => exact Masked.escape h
  | fence => exact ⟨h.1.masked.escape, h.2.escape⟩
  | html => exact h
  | _ => trivial

/-- Events without markers but those that are shown again are written as such HTML. -/
theorem writeEvents_masked (breaks hidden : Bool) {events : List (Event (List Span))}
    (h : ∀ e ∈ events, e.IsMasked) : Masked (writeEvents breaks hidden [] events) :=
  writeEvents_composed holdsOfMarkup_masked breaks hidden fun e he => (h e he).isMadeOf breaks

end Docpress.Markdown
