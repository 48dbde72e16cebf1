import Docpress.Markdown.Document
import Docpress.Proofs.Html.Markup
import Docpress.Proofs.Markdown.Block
import Docpress.Proofs.Markdown.Passes
import Docpress.Proofs.Markdown.Reading
/-!
The events of a document without a `<`: the only raw HTML in them are the boxes of tasks.
-/

namespace Docpress.Markdown

open Html

/-! ### Raw HTML -/

/-- The piece is no raw HTML. -/
def Span.NotRaw : Span → Prop
  | .html _ => False
  | _ => True

theorem holdsOfPieces_notRaw (refs : References) :
    HoldsOfPieces (· ≠ '<') refs Span.NotRaw where
  opens _ := trivial
  closes _ := trivial
  empty := trivial
  space := by decide
  text _ := trivial
  join _ _ := trivial
  escape _ _ := ⟨trivial, trivial⟩
  reference _ _ := trivial
  softBreak := trivial
  hardBreak := trivial
  code _ := trivial
  html hmark := absurd rfl hmark
  address _ _ := trivial
  mailbox _ _ := trivial
  display _ := trivial
  openLink _ _ _ := trivial
  closeLink := trivial
  image _ _ _ _ _ := trivial

/-- Running text without a `<` has no raw HTML. -/
theorem inlineSpans_notRaw (refs : References) {s : Text} (hs : '<' ∉ s) :
    ∀ span ∈ inlineSpans refs s, span.NotRaw :=
  inlineSpans_forall (holdsOfPieces_notRaw refs) (Text.within_ne_iff.2 hs)

/-- Raw HTML, if the piece is some, is well formed. -/
def Span.IsSound : Span → Prop
  | .html s => IsMarkup s
  | _ => True

/-- The raw HTML of an event, if there is any, is well formed. -/
def Event.IsSound : Event (List Span) → Prop
  | .inline spans => ∀ s ∈ spans, s.IsSound
  | .html content => IsMarkup content
  | _ => True

theorem Span.NotRaw.isSound {span : Span} (h : span.NotRaw) : span.IsSound := by
  cases span with
  | html s => exact h.elim
  | _ => trivial

/-! ### Bare addresses -/

theorem addressLink?_isSound {scheme : BareLink.Scheme} {written : Text} {link : List Span}
    (h : addressLink? scheme written = some link) : ∀ s ∈ link, s.IsSound := by
  have hany (s : Text) : Text.Within (fun _ => True) s := fun _ _ => trivial
  obtain ⟨url, shown, rfl, -, -⟩ := addressLink?_eq_some (hany _) (fun _ => hany _) (hany _) h
  simp only [List.forall_mem_cons]
  exact ⟨trivial, trivial, trivial, List.forall_mem_nil _⟩

theorem withAddresses_isSound (source : Text) {spans : List Span} (h : ∀ s ∈ spans, s.IsSound) :
    ∀ s ∈ withAddresses source spans, s.IsSound :=
  withAddresses_forall
    (fun _ => linkAddresses_forall (fun _ _ => trivial) addressLink?_isSound) source h

/-! ### Running text -/

theorem taskBox_isMarkup (source : Text) : IsMarkup (taskBox source) := by
  unfold taskBox
  split
  · split
    · decide +kernel
    · decide +kernel
  · rfl

theorem taskSpans_isSound (source : Text) {spans : List Span} (h : ∀ s ∈ spans, s.NotRaw) :
    ∀ s ∈ taskSpans source spans, s.IsSound := by
  have hbox : Span.IsSound (.html (taskBox source)) := taskBox_isMarkup source
  cases spans with
  | nil => exact List.forall_mem_cons.2 ⟨hbox, fun s hs => by cases hs⟩
  | cons span rest =>
    obtain ⟨hspan, hrest⟩ := List.forall_mem_cons.1 h
    refine List.forall_mem_cons.2 ⟨hbox, List.forall_mem_cons.2 ⟨?_, ?_⟩⟩
    · cases span with
      | html s => exact hspan.elim
      | _ => trivial
    · exact fun s hs => (hrest s hs).isSound

theorem readText_isSound (refs : References) {source : Text} (h : '<' ∉ source) :
    ∀ s ∈ readText refs source, s.IsSound :=
  withAddresses_isSound source fun s hs => (inlineSpans_notRaw refs h s hs).isSound

theorem readTask_isSound (refs : References) {source : Text} (h : '<' ∉ source) :
    ∀ s ∈ readTask refs source, s.IsSound :=
  withAddresses_isSound _ (taskSpans_isSound source (inlineSpans_notRaw refs h))

theorem readTexts_isSound (refs : References) {events : List (Event Text)}
    (h : ∀ e ∈ events, e.Within (· ≠ '<')) : ∀ e ∈ readTexts refs events, e.IsSound := by
  refine readTexts_forall trivial (fun {e} he => ?_) (fun _ hsource => ?_) h
  · cases e with
    | inline s => exact readText_isSound refs (Text.within_ne_iff.1 he)
    | html s => exact absurd rfl he.1
    | _ => trivial
  · exact readTask_isSound refs (Text.within_ne_iff.1 hsource)

/-- In a document without a `<` all raw HTML is well formed. -/
theorem document_isSound {source : Text} (h : '<' ∉ source) :
    ∀ e ∈ document source, e.IsSound := by
  have hown : HoldsOfOwn (· ≠ '<') := ⟨by decide, by decide, by decide, by decide⟩
  have hevents := blocksOf_within hown (Text.within_ne_iff.2 h)
  exact markTaskLists_forall (fun _ _ => trivial) (readTexts_isSound _ hevents)

end Docpress.Markdown
