import Docpress.Proofs.Markdown.Composed
/-!
Texts over an alphabet. Reading a document never leaves the alphabet of its text, unless something
in it stands for a character by a name or a number; so titles, destinations and the labels of links
are over the alphabet as well.
-/

namespace Docpress.Markdown

open Text

/-- An alphabet that reading a document does not leave: it has the characters that reading writes of
    its own, and none that a reference or an escape begins with, for those stand for any
    character. -/
structure IsAlphabet (p : Char → Prop) : Prop where
  own : HoldsOfOwn p
  url : HoldsOfUrl p
  noReference : ¬ p '&'
  noEscape : ¬ p '%'

/-- `Q` holds of the HTML that is made of texts over the alphabet `p`, of targets of links over it,
    and of Markdown's own tags. -/
structure Transcribes (p : Char → Prop) (Q : Text → Prop) : Prop
    extends IsAlphabet p, HoldsOfMarkup Q where
  verbatim {c : Char} : p c → Q [c]
  escaped {c : Char} : p c → Q (Html.escapeChar c)
  target {url : Text} : Within p url → Q (Html.escape (Url.target url))

namespace Transcribes

variable {p : Char → Prop} {Q : Text → Prop} {s : Text}

theorem verbatimText (h : Transcribes p Q) (hs : Within p s) : Q s :=
  h.of_forall fun c hc => h.verbatim (hs c hc)

theorem escapedText (h : Transcribes p Q) (hs : Within p s) : Q (Html.escape s) :=
  h.flatMap fun c hc => h.escaped (hs c hc)

end Transcribes

namespace IsAlphabet

variable {p : Char → Prop}

theorem display (hp : IsAlphabet p) {url : Text} (h : Within p url) :
    Within p (Url.display url) := by
  refine Url.display_within hp.url (fun c hc => ?_) h
  rintro rfl
  exact hp.noEscape hc

/-- The scheme of an address that has none. -/
theorem mailto (hp : IsAlphabet p) : Within p "mailto:".toList := by
  have hletters : "mailto:".toList = "mailto".toList ++ [':'] := by decide
  have hword : IsWord "mailto".toList := by decide
  rw [hletters]
  exact Within.append (fun c hc => hp.url.alphanum (hword c hc))
    (within_cons.2 ⟨hp.url.colon, .nil⟩)

end IsAlphabet

/-! ### Targets -/

variable {p : Char → Prop} {Q : Text → Prop} {s : Text} {refs : References}

theorem unescape_within (hp : IsAlphabet p) (hs : Within p s) : Within p (unescape s) := by
  refine hs.substitute fun s new more hs hfind => ?_
  unfold unescapeLead? at hfind
  split at hfind
  · rw [Option.ite_none_right_eq_some] at hfind
    obtain ⟨rfl, -⟩ := Prod.mk.inj (Option.some.inj hfind.2)
    exact within_cons.2 ⟨(within_cons.1 (within_cons.1 hs).2).1, .nil⟩
  · exact absurd (within_cons.1 hs).1 hp.noReference
  · cases hfind

/-- The target is that of a text over the alphabet, and so is its title. -/
structure LinkTarget.IsOver (p : Char → Prop) (Q : Text → Prop) (target : LinkTarget) : Prop where
  url : Q (Html.escape target.url)
  title : Within p target.title

theorem LinkTarget.IsWritten.isOver (hQ : Transcribes p Q) {target : LinkTarget}
    (h : target.IsWritten (Within p)) : target.IsOver p Q := by
  obtain ⟨⟨d, hd, hurl⟩, ⟨t, ht, htitle⟩⟩ := h
  refine ⟨?_, ?_⟩
  · rw [hurl]
    exact hQ.target (unescape_within hQ.toIsAlphabet hd)
  · rw [htitle]
    exact unescape_within hQ.toIsAlphabet ht

/-- The references of a document over the alphabet lead to targets of texts over it. -/
theorem references_isOver (hQ : Transcribes p Q) {source : Text} (hs : Within p source) :
    ∀ ref ∈ (blocksOf source).references, ref.2.IsOver p Q :=
  fun ref href => (hQ.own.kept.references (normalize_within hQ.own hs) ref href).isOver hQ

/-- The target of a link or an image whose label begins a text over the alphabet. -/
theorem LinkHit.IsIn.isOver (hQ : Transcribes p Q) (hrefs : ∀ ref ∈ refs, ref.2.IsOver p Q)
    (hs : Within p s) {hit : LinkHit} (h : hit.IsIn refs s) : hit.target.IsOver p Q := by
  rcases h.isWritten hQ.own.kept hs with hwritten | ⟨ref, href, heq⟩
  · exact hwritten.isOver hQ
  · exact heq ▸ hrefs ref href

end Docpress.Markdown
