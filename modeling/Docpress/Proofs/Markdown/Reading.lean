import Docpress.Proofs.Markdown.Copy
import Docpress.Proofs.Markdown.Delimiter
import Docpress.Proofs.Markdown.Label
import Docpress.Proofs.Markdown.Passes
/-!
Reading running text. What holds of each kind of piece that can be read from a text over some
characters holds of all its pieces.
-/

namespace Docpress.Markdown

open Text

variable {p : Char → Prop} {refs : References} {P : Span → Prop}

/-- The predicate holds of every piece that is read from text over `p`: of texts and copies of it,
    of the targets of its addresses, and of links and images whose labels begin such a text. -/
structure HoldsOfPieces (p : Char → Prop) (refs : References) (P : Span → Prop) : Prop
    extends HoldsOfEmphasis P where
  space : p ' '
  text {s : Text} (hs : Within p s) : P (.text s)
  join {s t : Text} (hs : P (.text s)) (ht : P (.text t)) : P (.text (s ++ t))
  escape {c : Char} (hslash : p '\\') (hc : p c) : P (.literal [c]) ∧ P (.literal ['\\', c])
  reference (hmark : p '&') (t : Text) : P (.literal t)
  softBreak : P .softBreak
  hardBreak : P .hardBreak
  code {s : Text} (hs : Within p s) : P (.code s)
  html {s : Text} (hmark : p '<') (hs : Within p s) : P (.html s)
  address {s : Text} (hs : Within p s) (broken : Bool) : P (.openLink ⟨Url.target s, [], broken⟩)
  mailbox {s : Text} (hs : Within p s) (broken : Bool) :
    P (.openLink ⟨Url.target ("mailto:".toList ++ s), [], broken⟩)
  display {s : Text} (hs : Within p s) : P (.text (Url.display s))
  openLink {s : Text} (hs : Within p s) {hit : LinkHit} (hhit : hit.IsIn refs s) :
    P (.openLink hit.target)
  closeLink : P .closeLink
  image {s : Text} (hs : Within p s) {hit : LinkHit} (hhit : hit.IsIn refs s)
    {description : List Span} (hdescription : ∀ span ∈ description, P span) :
    P (.ofImage hit.target description)

/-- `P` holds of what has been read, and what is left to read is over `p`. -/
structure Reader.Reads (p : Char → Prop) (P : Span → Prop) (r : Reader) : Prop where
  rest : Within p r.place.rest
  back : Within p r.place.back
  beyond : Within p r.place.beyond
  pending : Within p r.pending
  spans : ∀ s ∈ r.spans, P s

namespace Reader.Reads

variable {r : Reader}

theorem start {s : Text} (hs : Within p s) : Reader.Reads p P { place := .start s } :=
  ⟨hs, .nil, .nil, .nil, List.forall_mem_nil _⟩

theorem around (h : r.Reads p P) : Within p (r.place.rest ++ r.place.beyond) :=
  h.rest.append h.beyond

theorem memo (h : r.Reads p P) (memo : Memo) : Reader.Reads p P { r with memo } :=
  ⟨h.rest, h.back, h.beyond, h.pending, h.spans⟩

theorem links (h : r.Reads p P) (links : Int) : Reader.Reads p P { r with links } :=
  ⟨h.rest, h.back, h.beyond, h.pending, h.spans⟩

theorem setPending (h : r.Reads p P) {pending : Text} (hpending : Within p pending) :
    Reader.Reads p P { r with pending } :=
  ⟨h.rest, h.back, h.beyond, hpending, h.spans⟩

theorem advance (h : r.Reads p P) (n : Nat) : (r.advance n).Reads p P := by
  have htaken : Within p (r.place.rest.take n).reverse :=
    fun c hc => h.rest.take n c (List.mem_reverse.1 hc)
  exact ⟨h.rest.drop n, htaken.append h.back, h.beyond, h.pending, h.spans⟩

theorem take (h : r.Reads p P) (n : Nat) : (r.take n).Reads p P := by
  have htaken : Within p (r.place.rest.take n).reverse :=
    fun c hc => h.rest.take n c (List.mem_reverse.1 hc)
  exact (h.setPending (htaken.append h.pending)).advance n

section

variable (hP : HoldsOfPieces p refs P)

include hP

theorem flush (h : r.Reads p P) : r.flush.Reads p P := by
  unfold Reader.flush
  split
  · exact h
  · have htext : P (.text r.pending.reverse) :=
      hP.text fun c hc => h.pending c (List.mem_reverse.1 hc)
    exact ⟨h.rest, h.back, h.beyond, .nil, List.forall_mem_cons.2 ⟨htext, h.spans⟩⟩

theorem push (h : r.Reads p P) {span : Span} (hspan : P span) : (r.push span).Reads p P := by
  have hflush := h.flush hP
  exact ⟨hflush.rest, hflush.back, hflush.beyond, hflush.pending,
    List.forall_mem_cons.2 ⟨hspan, hflush.spans⟩⟩

theorem finish (h : r.Reads p P) : ∀ s ∈ r.finish, P s := by
  refine resolveEmphasis_forall hP.toHoldsOfEmphasis fun s hs => ?_
  exact (h.flush hP).spans s (List.mem_reverse.1 hs)

/-! ### One step -/

theorem pushMarks (h : r.Reads p P) {written : Text} (hwritten : Within p written) (mark : Char)
    (length : Nat) (flanks : Bool × Bool) (n : Nat) :
    (Reader.pushMarks written mark length flanks n r).Reads p P := by
  induction n generalizing r with
  | zero => exact h
  | succ n ih =>
    have hpush : (r.push (.text written)).Reads p P := h.push hP (hP.text hwritten)
    exact ih ⟨hpush.rest, hpush.back, hpush.beyond, hpush.pending, hpush.spans⟩

theorem readMarks (h : r.Reads p P) {mark : Char} (hmark : p mark) :
    (r.readMarks mark).Reads p P := by
  have hone : Within p [mark] := within_cons.2 ⟨hmark, .nil⟩
  unfold Reader.readMarks
  dsimp only
  split
  · split
    · exact h.take 1
    · refine (pushMarks hP ?_ (within_cons.2 ⟨hmark, hone⟩) _ _ _ _).advance _
      split
      · exact h.push hP (hP.text hone)
      · exact h
  · exact (h.pushMarks hP hone _ _ _ _).advance _

theorem readLineEnd (h : r.Reads p P) (rest : Text) : (r.readLineEnd rest).Reads p P := by
  have hpending := h.pending
  unfold Reader.readLineEnd
  refine advance ?_ _
  split
  · rename_i pending heq
    have hdropped : Within p (pending.dropWhile (· == ' ')) := by
      rw [heq] at hpending
      exact Url.within_dropWhile (within_cons.1 (within_cons.1 hpending).2).2 _
    exact (h.setPending hdropped).push hP hP.hardBreak
  · rename_i pending _ heq
    rw [heq] at hpending
    exact (h.setPending (within_cons.1 hpending).2).push hP hP.softBreak
  · exact h.push hP hP.softBreak

theorem readEscape (h : r.Reads p P) {rest : Text} (hrest : r.place.rest = '\\' :: rest) :
    (r.readEscape rest).Reads p P := by
  have hs := h.rest
  rw [hrest] at hs
  obtain ⟨hslash, hs⟩ := within_cons.1 hs
  unfold Reader.readEscape
  split
  · exact h.take 1
  · exact (h.push hP hP.hardBreak).advance _
  · obtain ⟨hplain, hboth⟩ := hP.escape hslash (within_cons.1 hs).1
    refine (h.push hP ?_).advance _
    split
    · exact hplain
    · exact hboth

theorem pushPlainLink (h : r.Reads p P) {url written : Text}
    (hurl : P (.openLink ⟨url, [], Url.isBroken written⟩)) (hwritten : Within p written) :
    (r.pushPlainLink url written).Reads p P :=
  ((h.push hP hurl).push hP (hP.display hwritten)).push hP hP.closeLink

theorem readCode (h : r.Reads p P) : r.readCode.Reads p P := by
  unfold Reader.readCode
  dsimp only
  split
  · rename_i code hcode
    exact ((h.memo _).push hP (hP.code (codeAt_within hP.space h.around hcode))).advance _
  · exact (h.memo _).take _

theorem readAngle (h : r.Reads p P) (hmark : p '<') : r.readAngle.Reads p P := by
  unfold Reader.readAngle
  split
  · rename_i url inner hangle
    obtain ⟨hinner, hfull⟩ := angleLinkAt?_within h.rest hangle
    have hurl : P (.openLink ⟨url, [], Url.isBroken inner⟩) := by
      rcases hfull with rfl | rfl
      · exact hP.address hinner _
      · exact hP.mailbox hinner _
    exact (h.pushPlainLink hP hurl hinner).advance _
  · rename_i tag _ htag
    have hspan : P (.html tag) := hP.html hmark (rawTagAt?_within h.around htag)
    have hpushed := (h.push hP hspan).advance tag.length
    dsimp only
    split
    · exact hpushed.links _
    · split
      · exact hpushed.links _
      · exact hpushed
  · exact h.take 1

theorem readReference (h : r.Reads p P) (hmark : p '&') : r.readReference.Reads p P := by
  unfold Reader.readReference
  split
  · exact (h.push hP (hP.reference hmark _)).advance _
  · exact h.take 1

theorem readColon (h : r.Reads p P) : r.readColon.Reads p P := by
  unfold Reader.readColon
  split
  · exact h.take 1
  · split
    · rename_i name url hbare
      have hurl := bareUrlAt?_within h.back h.around hbare
      have hpending := h.setPending (h.pending.drop name.length)
      exact (hpending.pushPlainLink hP (hP.address hurl _) hurl).advance _
    · exact h.take 1

/-! ### Links and images -/

omit hP in
theorem enter (h : r.Reads p P) (label : Text) : (r.enter label).Reads p P := by
  have hnext := h.advance 1
  exact ⟨hnext.rest.take _, hnext.back, (hnext.rest.drop _).append h.beyond, .nil,
    List.forall_mem_nil _⟩

theorem leave (h : r.Reads p P) {hit : LinkHit} (hhit : P (.openLink hit.target)) {inner : Reader}
    (hinner : inner.Reads p P) : (r.leave hit inner).Reads p P := by
  have hopen : (r.push (.openLink hit.target)).Reads p P := h.push hP hhit
  have hcontent : ∀ s ∈ inner.finish.reverse ++ (r.push (.openLink hit.target)).spans, P s := by
    intro s hs
    obtain hs | hs := List.mem_append.1 hs
    · exact hinner.finish hP s (List.mem_reverse.1 hs)
    · exact hopen.spans s hs
  unfold Reader.leave
  refine advance (push hP ?_ hP.closeLink) _
  exact ⟨hopen.rest, hopen.back, hopen.beyond, hopen.pending, hcontent⟩

theorem readLink (h : r.Reads p P) {fuel room : Nat}
    (hinner : ∀ {inner : Reader}, inner.Reads p P → (Reader.read refs fuel room inner).Reads p P) :
    (r.readLink refs fuel room).Reads p P := by
  unfold Reader.readLink
  dsimp only
  split
  · rename_i hit hfound
    have hopen := hP.openLink (h.rest.drop 1) (linkAt?_isIn hfound)
    exact (h.memo _).leave hP hopen (hinner ((h.memo _).enter _))
  · exact (h.memo _).take 1

theorem readImage (h : r.Reads p P) {fuel room : Nat}
    (hinner : ∀ {inner : Reader}, inner.Reads p P → (Reader.read refs fuel 20 inner).Reads p P) :
    (r.readImage refs fuel room).Reads p P := by
  unfold Reader.readImage
  dsimp only
  split
  · rename_i hit hfound
    have hhit := imageAt?_isIn hfound
    have henter : (enterImage hit).Reads p P := start (hhit.within (h.rest.drop 2))
    have hdescription := joinTexts_forall hP.join ((hinner henter).finish hP)
    exact ((h.memo _).push hP (hP.image (h.rest.drop 2) hhit hdescription)).advance _
  · exact (h.memo _).take 1

/-- One step keeps to pieces of which `P` holds, if reading labels does. -/
theorem next (h : r.Reads p P) {fuel room : Nat}
    (hinner : ∀ {inner : Reader} (room : Nat), inner.Reads p P →
      (Reader.read refs fuel room inner).Reads p P) {c : Char} {rest : Text}
    (hrest : r.place.rest = c :: rest) : (r.next refs fuel room c rest).Reads p P := by
  have hc : p c := h.rest c (hrest ▸ List.mem_cons_self)
  apply next_cases
  case lineEnd => exact h.readLineEnd hP rest
  case escape =>
    rintro rfl
    exact h.readEscape hP hrest
  case code => exact fun _ => h.readCode hP
  case marks => exact fun _ => h.readMarks hP hc
  case link => exact fun _ => h.readLink hP (hinner room)
  case image => exact fun _ => h.readImage hP (hinner 20)
  case angle =>
    rintro rfl
    exact h.readAngle hP hc
  case reference =>
    rintro rfl
    exact h.readReference hP hc
  case colon => exact fun _ => h.readColon hP
  case other => exact fun _ => h.take 1

/-- Reading on keeps to pieces of which `P` holds. -/
theorem read (h : r.Reads p P) (fuel room : Nat) : (Reader.read refs fuel room r).Reads p P := by
  induction fuel generalizing room r with
  | zero => exact h
  | succ fuel ih =>
    cases room with
    | zero => exact h.take _
    | succ room =>
      cases hrest : r.place.rest with
      | nil =>
        rw [Reader.read, hrest]
        exact h
      | cons c rest =>
        rw [read_cons hrest]
        exact ih (h.next hP (fun room hinner => ih hinner room) hrest) (room + 1)

end

end Reader.Reads

/-- What holds of every piece that can be read from text over `p` holds of those of such a text. -/
theorem inlineSpans_forall (hP : HoldsOfPieces p refs P) {s : Text} (hs : Within p s) :
    ∀ span ∈ inlineSpans refs s, P span :=
  joinTexts_forall hP.join (((Reader.Reads.start hs).read hP _ _).finish hP)

end Docpress.Markdown
