import Docpress.Proofs.Markdown.Copy
import Docpress.Proofs.Markdown.Label
import Docpress.Proofs.Markdown.Piece
/-!
Reading guarded running text. The characters that stand for themselves and the pieces that are made
of them have no markers; what is copied has none but those that are shown again.
-/

namespace Docpress.Markdown

open Text Url

/-- What has been read has no markers but those that are shown again, what is left is guarded, and
    the delimiters stand at marks. -/
structure Reader.IsMasked (r : Reader) : Prop where
  rest : Guarded r.place.rest
  around : '%' ∉ r.place.back ∧ '%' ∉ r.place.beyond
  pending : IsClear r.pending
  spans : MaskedSpans r.spans.reverse
  count : r.count = r.spans.length
  delimiters : ∀ d ∈ r.delimiters, IsMarkAt r.spans.reverse.toArray d.token

/-- More pieces after those that are there leave the marks in place. -/
theorem IsMarkAt.append {spans : List Span} {i : Nat} (h : IsMarkAt spans.toArray i)
    (more : List Span) : IsMarkAt (spans ++ more).toArray i := by
  obtain ⟨s, hs, hmark⟩ := h
  rw [List.getElem?_toArray] at hs
  refine ⟨s, ?_, hmark⟩
  rw [List.getElem?_toArray, List.getElem?_append_left (List.getElem?_eq_some_iff.1 hs).1, hs]

/-- A clean copy of a text without percent signs is masked. -/
theorem Copy.IsClean.masked {s : Text} (hclean : (Copy.verbatim s).IsClean) (hs : '%' ∉ s) :
    Masked s :=
  (escaped_of_notMem hs).masked hclean

/-- The target of a URL without percent signs, as it is copied. -/
theorem Copy.IsClean.masked_target {url : Text}
    (hclean : (Copy.verbatim (Url.target url)).IsClean) (hurl : '%' ∉ url) :
    Masked (Url.target url) :=
  (target_escaped hurl).masked hclean

namespace Reader.IsMasked

variable {r : Reader}

theorem start {s : Text} (h : Guarded s) : Reader.IsMasked { place := .start s } :=
  ⟨h, ⟨List.not_mem_nil, List.not_mem_nil⟩, .nil, .nil, rfl, List.forall_mem_nil _⟩

theorem notMem (h : r.IsMasked) : '%' ∉ r.place.rest ++ r.place.beyond := by
  rw [List.mem_append, not_or]
  exact ⟨h.rest.notMem.1, h.around.2⟩

theorem memo (h : r.IsMasked) (memo : Memo) : Reader.IsMasked { r with memo } :=
  ⟨h.rest, h.around, h.pending, h.spans, h.count, h.delimiters⟩

theorem links (h : r.IsMasked) (links : Int) : Reader.IsMasked { r with links } :=
  ⟨h.rest, h.around, h.pending, h.spans, h.count, h.delimiters⟩

theorem setPending (h : r.IsMasked) {pending : Text} (hpending : IsClear pending) :
    Reader.IsMasked { r with pending } :=
  ⟨h.rest, h.around, hpending, h.spans, h.count, h.delimiters⟩

theorem advance (h : r.IsMasked) (n : Nat) : (r.advance n).IsMasked := by
  refine ⟨Guarded.kept.drop h.rest n, ⟨?_, h.around.2⟩, h.pending, h.spans, h.count, h.delimiters⟩
  intro hmem
  rcases List.mem_append.1 hmem with htaken | hback
  · exact h.rest.notMem.1 (List.take_subset _ _ (List.mem_reverse.1 htaken))
  · exact h.around.1 hback

/-- Let clear characters stand for themselves. -/
theorem take (h : r.IsMasked) {n : Nat} (hn : IsClear (r.place.rest.take n)) :
    (r.take n).IsMasked := by
  have hreverse : IsClear (r.place.rest.take n).reverse := fun c hc => hn c (List.mem_reverse.1 hc)
  exact (h.setPending (hreverse.append h.pending)).advance n

theorem takeOne (h : r.IsMasked) {c : Char} {rest : Text} (hrest : r.place.rest = c :: rest)
    (hc : c ≠ '\\') : (r.take 1).IsMasked := by
  refine h.take ?_
  have hpercent : c ≠ '%' := by
    rintro rfl
    exact h.rest.notMem.1 (hrest ▸ List.mem_cons_self)
  rw [hrest]
  exact within_cons.2 ⟨⟨hc, hpercent⟩, .nil⟩

/-- Add pieces to those that are there. -/
theorem add (h : r.IsMasked) (more : List Span) (hmore : MaskedSpans more.reverse) :
    Reader.IsMasked { r with spans := more ++ r.spans, count := r.count + more.length } := by
  refine ⟨h.rest, h.around, h.pending, ?_, ?_, ?_⟩
  · dsimp only
    rw [List.reverse_append]
    exact h.spans.append hmore
  · dsimp only
    rw [h.count, List.length_append, Nat.add_comm]
  · dsimp only
    rw [List.reverse_append]
    exact fun d hd => (h.delimiters d hd).append _

theorem flush (h : r.IsMasked) : r.flush.IsMasked := by
  unfold Reader.flush
  split
  · exact h
  · have htext : Span.IsMasked (.text r.pending.reverse) :=
      fun c hc => h.pending c (List.mem_reverse.1 hc)
    exact (h.setPending .nil).add [.text r.pending.reverse] (.piece htext .nil)

theorem push (h : r.IsMasked) {span : Span} (hspan : span.IsMasked) : (r.push span).IsMasked :=
  h.flush.add [span] (.piece hspan .nil)

theorem finish (h : r.IsMasked) : MaskedSpans r.finish := by
  have hflush := h.flush
  refine hflush.spans.of_sameButMarks (resolveEmphasis_same fun d hd => ?_)
  exact hflush.delimiters d (List.mem_reverse.1 hd)

/-! ### One step -/

theorem pushMark (h : r.IsMasked) {written : Text} (hwritten : IsClear written) (mark : Char)
    (length : Nat) (flanks : Bool × Bool) :
    (r.pushMark written mark length flanks).IsMasked := by
  have hpush : (r.push (.text written)).IsMasked := h.push hwritten
  refine { hpush with delimiters := List.forall_mem_cons.2 ⟨?_, hpush.delimiters⟩ }
  refine ⟨.text written, ?_, hwritten⟩
  have hspans : (r.push (.text written)).spans = .text written :: r.flush.spans := rfl
  have hlast : (r.push (.text written)).spans.reverse.toArray[(r.push (.text written)).count - 1]? =
      some (.text written) := by
    rw [hpush.count, List.getElem?_toArray, hspans, List.reverse_cons, List.length_cons,
      Nat.add_sub_cancel, List.getElem?_append_right (Nat.le_of_eq List.length_reverse),
      List.length_reverse, Nat.sub_self]
    rfl
  exact hlast

theorem pushMarks (h : r.IsMasked) {written : Text} (hwritten : IsClear written) (mark : Char)
    (length : Nat) (flanks : Bool × Bool) (n : Nat) :
    (Reader.pushMarks written mark length flanks n r).IsMasked := by
  induction n generalizing r with
  | zero => exact h
  | succ n ih => exact ih (h.pushMark hwritten mark length flanks)

theorem readMarks (h : r.IsMasked) {mark : Char} {rest : Text} (hrest : r.place.rest = mark :: rest)
    (hmark : mark ≠ '\\' ∧ mark ≠ '%') : (r.readMarks mark).IsMasked := by
  have hone : IsClear [mark] := within_cons.2 ⟨hmark, .nil⟩
  unfold Reader.readMarks
  dsimp only
  split
  · split
    · refine h.take ?_
      rw [hrest]
      exact hone
    · refine (pushMarks ?_ (within_cons.2 ⟨hmark, hone⟩) _ _ _ _).advance _
      split
      · exact h.push hone
      · exact h
  · exact (h.pushMarks hone _ _ _ _).advance _

theorem readLineEnd (h : r.IsMasked) (rest : Text) : (r.readLineEnd rest).IsMasked := by
  unfold Reader.readLineEnd
  refine advance ?_ _
  have hpending := h.pending
  split
  · rename_i pending heq
    rw [heq] at hpending
    have hdropped : IsClear (pending.dropWhile (· == ' ')) := fun c hc =>
      hpending c (List.mem_cons_of_mem _ (List.mem_cons_of_mem _
        ((List.dropWhile_suffix _).subset hc)))
    exact (h.setPending hdropped).push (by trivial)
  · rename_i pending _ heq
    rw [heq] at hpending
    exact (h.setPending (within_cons.1 hpending).2).push (by trivial)
  · exact h.push (by trivial)

theorem readEscape (h : r.IsMasked) {rest : Text} (hrest : r.place.rest = '\\' :: rest) :
    (r.readEscape rest).IsMasked := by
  have hguarded := h.rest
  rw [hrest] at hguarded
  cases hguarded with
  | char hc => exact absurd rfl hc.1
  | @guard c rest hc hs =>
    have hpunctuation : isAsciiPunctuation c = true := by rcases hc with rfl | rfl <;> rfl
    have hne : c ≠ '\n' := by rcases hc with rfl | rfl <;> decide
    have hclear : IsClear [c] :=
      within_cons.2 ⟨⟨(Guarded.ne_of_guarded hc).1, (Guarded.ne_of_guarded hc).2.1⟩, .nil⟩
    unfold Reader.readEscape
    split
    · rename_i heq
      cases heq
    · rename_i heq
      exact absurd (List.cons.inj heq).1 hne
    · rename_i heq
      obtain ⟨rfl, -⟩ := List.cons.inj heq
      rw [if_pos hpunctuation]
      have hliteral : Span.IsMasked (.literal [c]) := hclear
      exact (h.push hliteral).advance _

theorem flush_push (r : Reader) (span : Span) : (r.push span).flush = r.push span := by
  have hpending : r.flush.pending.isEmpty = true := by
    unfold Reader.flush
    split
    · assumption
    · rfl
  rw [Reader.flush]
  exact if_pos hpending

theorem push_of_flush {r : Reader} (hr : r.flush = r) (span : Span) :
    r.push span = { r with spans := span :: r.spans, count := r.count + 1 } := by
  rw [Reader.push, hr]

theorem pushPlainLink (h : r.IsMasked) {url written : Text} (hurl : Masked url)
    (hshown : Masked (Url.display written)) : (r.pushPlainLink url written).IsMasked := by
  have hspans : MaskedSpans
      [.openLink ⟨url, [], Url.isBroken written⟩, .text (Url.display written), .closeLink] :=
    .address hurl hshown .nil
  rw [Reader.pushPlainLink, push_of_flush (flush_push _ _), push_of_flush (flush_push _ _)]
  exact h.flush.add
    [.closeLink, .text (Url.display written), .openLink ⟨url, [], Url.isBroken written⟩] hspans

/-! ### Copies -/

theorem readCode (h : r.IsMasked)
    (hclean : ∀ s ∈ (codeAt r.memo r.place).1.1.toList, (Copy.verbatim s).IsClean) :
    r.readCode.IsMasked := by
  have hplace := within_ne_iff.2 h.notMem
  unfold Reader.readCode
  dsimp only
  split
  · rename_i code hcode
    rw [hcode] at hclean
    have hnone : '%' ∉ code := within_ne_iff.1 (codeAt_within (by decide) hplace hcode)
    have hmasked : Span.IsMasked (.code code) :=
      Copy.IsClean.masked (hclean code (by simp)) hnone
    exact ((h.memo _).push hmasked).advance _
  · rename_i hcode
    refine (h.memo _).take ?_
    rw [codeAt_none hcode, runLength,
      ← List.prefix_iff_eq_take.1 (List.takeWhile_prefix (· == '\x60'))]
    intro c hc
    have hmark : (c == '\x60') = true := List.all_eq_true.1 List.all_takeWhile c hc
    rw [eq_of_beq hmark]
    decide

theorem readAngle (h : r.IsMasked) {rest : Text} (hrest : r.place.rest = '<' :: rest)
    (hclean : ∀ s ∈ r.angleCopies, (Copy.verbatim s).IsClean) : r.readAngle.IsMasked := by
  have hplace := within_ne_iff.2 h.notMem
  unfold Reader.angleCopies at hclean
  unfold Reader.readAngle
  split
  · rename_i _ url inner hangle
    rw [hangle] at hclean
    obtain ⟨hurl, hshown⟩ := List.forall_mem_cons.1 hclean
    obtain ⟨hinner, hfull⟩ :=
      angleLinkAt?_within (p := (· ≠ '%')) (within_ne_iff.2 h.rest.notMem.1) hangle
    have hinner := within_ne_iff.1 hinner
    have hurl : Masked url := by
      rcases hfull with heq | heq
      · rw [heq] at hurl ⊢
        exact Copy.IsClean.masked_target hurl hinner
      · rw [heq] at hurl ⊢
        refine Copy.IsClean.masked_target hurl fun hmem => ?_
        exact (List.mem_append.1 hmem).elim (by decide) hinner
    have hshown : Masked (Url.display inner) :=
      Copy.IsClean.masked (hshown _ (List.mem_singleton_self _)) (display_notMem hinner)
    exact (h.pushPlainLink hurl hshown).advance _
  · rename_i tag hangle htag
    rw [hangle, htag] at hclean
    have hnone : '%' ∉ tag := within_ne_iff.1 (rawTagAt?_within hplace htag)
    have hmasked : Span.IsMasked (.html tag) :=
      Copy.IsClean.masked (hclean tag (List.mem_singleton_self tag)) hnone
    have hpushed := (h.push hmasked).advance tag.length
    dsimp only
    split
    · exact hpushed.links _
    · split
      · exact hpushed.links _
      · exact hpushed
  · exact h.takeOne hrest (by decide)

theorem readColon (h : r.IsMasked) {rest : Text} (hrest : r.place.rest = ':' :: rest)
    (hclean : ∀ s ∈ r.colonCopies, (Copy.verbatim s).IsClean) : r.readColon.IsMasked := by
  unfold Reader.colonCopies at hclean
  unfold Reader.readColon
  split
  · exact h.takeOne hrest (by decide)
  · rename_i hlinks
    rw [if_neg hlinks] at hclean
    split
    · rename_i name url hbare
      rw [hbare] at hclean
      obtain ⟨hurl, hshown⟩ := List.forall_mem_cons.1 hclean
      have hnone : '%' ∉ url := within_ne_iff.1 (bareUrlAt?_within
        (within_ne_iff.2 h.around.1) (within_ne_iff.2 h.notMem) hbare)
      have hpending := h.setPending (h.pending.drop name.length)
      have hshown : Masked (Url.display url) :=
        Copy.IsClean.masked (hshown _ (List.mem_singleton_self _)) (display_notMem hnone)
      have hurl : Masked (Url.target url) := Copy.IsClean.masked_target hurl hnone
      exact (hpending.pushPlainLink hurl hshown).advance _
    · exact h.takeOne hrest (by decide)

/-- The label of a link is read as a text of its own. -/
theorem enter (h : r.IsMasked) {hit : LinkHit} (hhit : hit.IsMasked (r.place.advance 1)) :
    (r.enter hit.label).IsMasked := by
  have hadvance := h.advance 1
  have hlabel : (r.enter hit.label).place.rest = hit.label :=
    (List.prefix_iff_eq_take.1 hhit.lead).symm
  refine ⟨?_, ⟨hadvance.around.1, ?_⟩, .nil, .nil, rfl, List.forall_mem_nil _⟩
  · rw [hlabel]
    exact hhit.label
  · intro hmem
    rcases List.mem_append.1 hmem with hrest | hbeyond
    · exact hadvance.rest.notMem.1 (List.drop_subset _ _ hrest)
    · exact h.around.2 hbeyond

theorem leave (h : r.IsMasked) {first : Place} {hit : LinkHit} (hhit : hit.IsMasked first)
    {inner : Reader} (hinner : inner.IsMasked) : (r.leave hit inner).IsMasked := by
  have hopen : (r.push (.openLink hit.target)).IsMasked := h.push hhit.target
  have hcontent : MaskedSpans inner.finish.reverse.reverse :=
    (List.reverse_reverse _).symm ▸ hinner.finish
  have hadded := hopen.add _ hcontent
  rw [List.length_reverse] at hadded
  have hclose : Span.IsMasked .closeLink := trivial
  exact (((hadded.links (inner.links - 1)).memo inner.memo).push hclose).advance hit.size

theorem pushImage (h : r.IsMasked) {first : Place} {hit : LinkHit} (hhit : hit.IsMasked first)
    {description : List Span} (hdescription : MaskedSpans description) :
    (r.pushImage hit description).IsMasked := by
  have himage : Span.IsMasked (.ofImage hit.target description) :=
    ⟨⟨hhit.target.url, hhit.target.title⟩, hdescription.alt, hdescription.innerAlt⟩
  exact (h.push himage).advance hit.size

end Reader.IsMasked

namespace Reader

variable {refs : References} {fuel room : Nat} {r : Reader}

/-- The copies of the text in the label of the link at the place. -/
theorem IsMasked.readLink (hrefs : ∀ ref ∈ refs, ref.2.IsMasked) (h : r.IsMasked) {rest : Text}
    (hrest : r.place.rest = '[' :: rest)
    (hinner : ∀ hit, (r.linkHit refs room).1 = some hit → (r.enterLink refs room hit).IsMasked →
      (Reader.read refs fuel room (r.enterLink refs room hit)).IsMasked) :
    (r.readLink refs fuel room).IsMasked := by
  unfold Reader.readLink
  dsimp only
  split
  · rename_i hit hfound
    have hhit : hit.IsMasked (r.place.advance 1) :=
      (linkAt?_isIn hfound).isMasked hrefs (Guarded.kept.drop h.rest 1)
    have henter : (r.enterLink refs room hit).IsMasked := (h.memo _).enter hhit
    exact (h.memo _).leave hhit (hinner hit hfound henter)
  · exact (h.memo _).takeOne hrest (by decide)

theorem IsMasked.readImage (hrefs : ∀ ref ∈ refs, ref.2.IsMasked) (h : r.IsMasked) {rest : Text}
    (hrest : r.place.rest = '!' :: rest)
    (hinner : ∀ hit, (r.imageHit refs room).1 = some hit → (enterImage hit).IsMasked →
      (Reader.read refs fuel 20 (enterImage hit)).IsMasked) :
    (r.readImage refs fuel room).IsMasked := by
  unfold Reader.readImage
  dsimp only
  split
  · rename_i hit hfound
    have hhit : hit.IsMasked (r.place.advance 2) :=
      (imageAt?_isIn hfound).isMasked hrefs (Guarded.kept.drop h.rest 2)
    exact (h.memo _).pushImage hhit (hinner hit hfound (.start hhit.label)).finish.joinTexts
  · exact (h.memo _).takeOne hrest (by decide)

/-- A step that copies nothing but what is clean, and reads labels without markers, adds no marker. -/
theorem IsMasked.next (hrefs : ∀ ref ∈ refs, ref.2.IsMasked) (h : r.IsMasked) {c : Char}
    {rest : Text} (hrest : r.place.rest = c :: rest)
    (hcopied : ∀ s ∈ r.copied c, (Copy.verbatim s).IsClean)
    (hlink : c = '[' → ∀ hit, (r.linkHit refs room).1 = some hit →
      (r.enterLink refs room hit).IsMasked →
      (Reader.read refs fuel room (r.enterLink refs room hit)).IsMasked)
    (himage : c = '!' → ∀ hit, (r.imageHit refs room).1 = some hit → (enterImage hit).IsMasked →
      (Reader.read refs fuel 20 (enterImage hit)).IsMasked) :
    (r.next refs fuel room c rest).IsMasked := by
  have hplain : c ≠ '%' ∧ c ≠ '&' := by
    have hnone := h.rest.notMem
    rw [hrest] at hnone
    exact ⟨fun heq => hnone.1 (heq ▸ List.mem_cons_self),
      fun heq => hnone.2 (heq ▸ List.mem_cons_self)⟩
  apply next_cases
  case lineEnd => exact h.readLineEnd rest
  case escape =>
    rintro rfl
    exact h.readEscape hrest
  case code =>
    rintro rfl
    exact h.readCode hcopied
  case marks => exact fun hslash => h.readMarks hrest ⟨hslash, hplain.1⟩
  case link =>
    rintro rfl
    exact h.readLink hrefs hrest (hlink rfl)
  case image =>
    rintro rfl
    exact h.readImage hrefs hrest (himage rfl)
  case angle =>
    rintro rfl
    exact h.readAngle hrest hcopied
  case reference => exact fun heq => absurd heq hplain.2
  case colon =>
    rintro rfl
    exact h.readColon hrest hcopied
  case other => exact fun hslash => h.takeOne hrest hslash

/-- Reading on adds no marker, if nothing is copied but what is clean. -/
theorem IsMasked.read (hrefs : ∀ ref ∈ refs, ref.2.IsMasked) (h : r.IsMasked)
    (hclean : ∀ copy ∈ Reader.copies refs fuel room r, copy.IsClean) :
    (Reader.read refs fuel room r).IsMasked := by
  induction fuel generalizing room r with
  | zero => exact h
  | succ fuel ih =>
    cases room with
    | zero =>
      have hunread : '\\' ∉ r.place.rest := hclean _ (List.mem_singleton_self _)
      refine h.take fun c hc => ⟨?_, ?_⟩
      · rintro rfl
        exact hunread (List.take_subset _ _ hc)
      · rintro rfl
        exact h.rest.notMem.1 (List.take_subset _ _ hc)
    | succ room =>
      cases hrest : r.place.rest with
      | nil =>
        rw [Reader.read, hrest]
        exact h
      | cons c rest =>
        rw [copies, hrest] at hclean
        rw [read_cons hrest]
        dsimp only at hclean
        rw [List.forall_mem_append, List.forall_mem_append, List.forall_mem_map] at hclean
        obtain ⟨⟨hcopied, hinner⟩, hmore⟩ := hclean
        refine ih (h.next hrefs hrest hcopied ?_ ?_) hmore
        · rintro rfl hit hfound henter
          rw [if_pos (by decide), hfound] at hinner
          exact ih henter hinner
        · rintro rfl hit hfound henter
          rw [if_neg (by decide), if_pos (by decide), hfound] at hinner
          exact ih henter hinner

end Reader

/-- The pieces of guarded running text have no markers but those that are shown again, if nothing is
    copied but what is clean. -/
theorem inlineSpans_masked {refs : References} (hrefs : ∀ ref ∈ refs, ref.2.IsMasked) {s : Text}
    (hs : Guarded s) (hclean : ∀ copy ∈ inlineCopies refs s, copy.IsClean) :
    MaskedSpans (inlineSpans refs s) :=
  ((Reader.IsMasked.start hs).read hrefs hclean).finish.joinTexts

end Docpress.Markdown
