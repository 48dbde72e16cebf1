import Docpress.Proofs.Markdown.Alphabet
/-!
The HTML of a document over an alphabet. It is made of the document's characters and of Markdown's
own tags, so whatever holds of those pieces and of all that is put together of them holds of the
HTML.
-/

namespace Docpress.Markdown

open Text

variable {p : Char → Prop} {Q : Text → Prop}

/-! ### Running text -/

/-- The texts of the piece are over the alphabet, and its target is that of such a text. -/
def Span.IsOver (p : Char → Prop) (Q : Text → Prop) : Span → Prop
  | .text s => Within p s
  | .literal s => Within p s
  | .code s => Within p s
  | .html s => Within p s
  | .openLink target => target.IsOver p Q
  | .image target alt innerAlt => target.IsOver p Q ∧ Within p alt ∧ Within p innerAlt
  | _ => True

theorem Span.IsOver.alt (hp : IsAlphabet p) {s : Span} (h : s.IsOver p Q) : Within p s.alt := by
  have hbreak : Within p ['\n'] := within_cons.2 ⟨hp.own.lineEnd, .nil⟩
  cases s with
  | text => exact h
  | literal => exact h
  | code => exact h
  | html => exact h
  | softBreak => exact hbreak
  | hardBreak => exact hbreak
  | image => exact h.2.2
  | _ => exact .nil

theorem Span.IsOver.innerAlt (hp : IsAlphabet p) {s : Span} (h : s.IsOver p Q) :
    Within p s.innerAlt := by
  unfold Span.innerAlt
  split
  · exact .nil
  · exact h.alt hp

theorem within_flatMap {α : Type} {f : α → Text} {l : List α} (h : ∀ a ∈ l, Within p (f a)) :
    Within p (l.flatMap f) := by
  intro c hc
  obtain ⟨a, ha, hmem⟩ := List.mem_flatMap.1 hc
  exact h a ha c hmem

/-- All that is read from text over an alphabet, and all that is copied of it as it stands, is over
    the alphabet again. -/
theorem holdsOfPieces_isOver (hQ : Transcribes p Q) {refs : References}
    (hrefs : ∀ ref ∈ refs, ref.2.IsOver p Q) : HoldsOfPieces p refs (Span.IsOver p Q) where
  opens _ := trivial
  closes _ := trivial
  empty := Within.nil
  space := hQ.own.space
  text := id
  join := Within.append
  escape hslash hc :=
    ⟨within_cons.2 ⟨hc, .nil⟩, within_cons.2 ⟨hslash, within_cons.2 ⟨hc, .nil⟩⟩⟩
  reference hmark := absurd hmark hQ.noReference
  softBreak := trivial
  hardBreak := trivial
  code := id
  html _ := id
  address hs _ := ⟨hQ.target hs, .nil⟩
  mailbox hs _ := ⟨hQ.target (hQ.mailto.append hs), .nil⟩
  display hs := hQ.display hs
  openLink hs _ hhit := hhit.isOver hQ hrefs hs
  closeLink := trivial
  image hs _ hhit _ hdescription :=
    ⟨⟨(hhit.isOver hQ hrefs hs).url, (hhit.isOver hQ hrefs hs).title⟩,
      within_flatMap fun s hs => (hdescription s hs).alt hQ.toIsAlphabet,
      within_flatMap fun s hs => (hdescription s hs).innerAlt hQ.toIsAlphabet⟩

theorem inlineSpans_isOver (hQ : Transcribes p Q) {refs : References}
    (hrefs : ∀ ref ∈ refs, ref.2.IsOver p Q) {s : Text} (hs : Within p s) :
    ∀ span ∈ inlineSpans refs s, span.IsOver p Q :=
  inlineSpans_forall (holdsOfPieces_isOver hQ hrefs) hs

/-- The piece is over the alphabet, or it is HTML of which `Q` holds. -/
def Span.IsTranscribed (p : Char → Prop) (Q : Text → Prop) : Span → Prop
  | .html s => Q s
  | span => span.IsOver p Q

theorem Span.IsOver.isTranscribed (hQ : Transcribes p Q) {s : Span} (h : s.IsOver p Q) :
    s.IsTranscribed p Q := by
  cases s with
  | html s => exact hQ.verbatimText h
  | _ => exact h

theorem addressLink?_isTranscribed (hQ : Transcribes p Q) {scheme : BareLink.Scheme}
    {written : Text} (hwritten : Within p written) {link : List Span}
    (h : addressLink? scheme written = some link) : ∀ s ∈ link, s.IsTranscribed p Q := by
  obtain ⟨url, shown, rfl, hurl, hshown⟩ :=
    addressLink?_eq_some hQ.mailto hQ.display hwritten h
  have hopen : Span.IsTranscribed p Q (.openLink ⟨Url.target url, [], Url.isBroken url⟩) :=
    ⟨hQ.target hurl, .nil⟩
  have hclose : Span.IsTranscribed p Q .closeLink := trivial
  exact List.forall_mem_cons.2 ⟨hopen, List.forall_mem_cons.2
    ⟨hshown, List.forall_mem_singleton.2 hclose⟩⟩

theorem withAddresses_isTranscribed (hQ : Transcribes p Q) (source : Text) {spans : List Span}
    (h : ∀ s ∈ spans, s.IsTranscribed p Q) :
    ∀ s ∈ withAddresses source spans, s.IsTranscribed p Q := by
  refine withAddresses_forall (fun {s} hs => linkAddresses_forall (fun n m => ?_) ?_) source h
  · exact (Within.take hs n).drop m
  · exact fun hlink => addressLink?_isTranscribed hQ ((Within.take hs _).drop _) hlink

theorem taskBox_within (source : Text) : Within IsMarkupChar (taskBox source) := by
  unfold taskBox
  split
  · split <;> decide +kernel
  · exact .nil

theorem Span.IsOver.drop {s : Span} (h : s.IsOver p Q) (n : Nat) : (s.drop n).IsOver p Q := by
  cases s with
  | text => exact Within.drop h n
  | literal => exact Within.drop h n
  | code => exact Within.drop h n
  | html => exact Within.drop h n
  | _ => exact h

theorem taskSpans_isTranscribed (hQ : Transcribes p Q) (source : Text) {spans : List Span}
    (h : ∀ s ∈ spans, s.IsOver p Q) : ∀ s ∈ taskSpans source spans, s.IsTranscribed p Q := by
  have hbox : Span.IsTranscribed p Q (.html (taskBox source)) :=
    hQ.markupText (taskBox_within source)
  cases spans with
  | nil => exact List.forall_mem_singleton.2 hbox
  | cons span rest =>
    obtain ⟨hspan, hrest⟩ := List.forall_mem_cons.1 h
    refine List.forall_mem_cons.2 ⟨hbox, List.forall_mem_cons.2 ⟨?_, ?_⟩⟩
    · exact (hspan.drop 3).isTranscribed hQ
    · exact fun s hs => (hrest s hs).isTranscribed hQ

theorem readText_isTranscribed (hQ : Transcribes p Q) {refs : References}
    (hrefs : ∀ ref ∈ refs, ref.2.IsOver p Q) {source : Text} (hs : Within p source) :
    ∀ s ∈ readText refs source, s.IsTranscribed p Q :=
  withAddresses_isTranscribed hQ source fun s hs' =>
    (inlineSpans_isOver hQ hrefs hs s hs').isTranscribed hQ

theorem readTask_isTranscribed (hQ : Transcribes p Q) {refs : References}
    (hrefs : ∀ ref ∈ refs, ref.2.IsOver p Q) {source : Text} (hs : Within p source) :
    ∀ s ∈ readTask refs source, s.IsTranscribed p Q :=
  withAddresses_isTranscribed hQ _
    (taskSpans_isTranscribed hQ source (inlineSpans_isOver hQ hrefs hs))

theorem Span.IsTranscribed.isMadeOf (hQ : Transcribes p Q) {s : Span}
    (h : s.IsTranscribed p Q) : s.IsMadeOf Q := by
  cases s with
  | text => exact hQ.escapedText h
  | literal => exact hQ.escapedText h
  | code => exact hQ.escapedText h
  | html => exact h
  | openLink target => exact ⟨h.url, hQ.escapedText h.title⟩
  | image target alt innerAlt =>
    obtain ⟨htarget, halt, -⟩ := h
    exact ⟨htarget.url, hQ.escapedText htarget.title, hQ.escapedText halt⟩
  | _ => trivial

/-! ### Events -/

theorem inline_isMadeOf (hQ : Transcribes p Q) (breaks : Bool) {spans : List Span}
    (h : ∀ s ∈ spans, s.IsTranscribed p Q) : Event.IsMadeOf Q breaks (.inline spans) :=
  hQ.flatMap fun s hs => ((h s hs).isMadeOf hQ).write hQ.toHoldsOfMarkup breaks

theorem readTexts_isMadeOf (hQ : Transcribes p Q) {refs : References}
    (hrefs : ∀ ref ∈ refs, ref.2.IsOver p Q) (breaks : Bool) {events : List (Event Text)}
    (h : ∀ e ∈ events, e.Holds (Within p)) :
    ∀ e ∈ readTexts refs events, e.IsMadeOf Q breaks := by
  have hitem : Event.IsMadeOf Q breaks (.start (.item true)) :=
    Element.IsUnnamed.attributes hQ.toHoldsOfMarkup trivial
  refine readTexts_forall hitem (fun {e} he => ?_) (fun _ hsource => ?_) h
  · cases e with
    | start e => exact Element.IsUnnamed.attributes hQ.toHoldsOfMarkup he
    | inline source => exact inline_isMadeOf hQ breaks (readText_isTranscribed hQ hrefs he)
    | code content => exact hQ.escapedText he
    | fence info content =>
      have hlanguage := fenceLanguage_within (unescape_within hQ.toIsAlphabet he.1)
      exact ⟨hQ.escapedText hlanguage, hQ.escapedText he.2⟩
    | html content => exact hQ.verbatimText he.2
    | _ => trivial
  · exact inline_isMadeOf hQ breaks (readTask_isTranscribed hQ hrefs hsource)

/-- A document over an alphabet is made of texts of which `Q` holds. -/
theorem document_isMadeOf (hQ : Transcribes p Q) (breaks : Bool) {source : Text}
    (hs : Within p source) : ∀ e ∈ document source, e.IsMadeOf Q breaks := by
  have hlist (first : Option Nat) (tasks : Bool) :
      Event.IsMadeOf Q breaks (.start (.list first tasks)) :=
    Element.IsUnnamed.attributes hQ.toHoldsOfMarkup trivial
  exact markTaskLists_forall hlist (readTexts_isMadeOf hQ (references_isOver hQ hs) breaks
    (blocksOf_holds hQ.own.kept (normalize_within hQ.own hs)).events)

end Docpress.Markdown
