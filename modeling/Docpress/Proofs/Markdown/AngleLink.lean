import Docpress.Proofs.Markdown.Paragraph
import Docpress.Proofs.Url.Hostless
/-!
A document that is a URL in angle brackets, with its slashes hidden. To Markdown it is no block of
HTML and no tag, but a link to a path.
-/

namespace Docpress.Markdown

open Text Url

/-- What follows a tag's name is no attribute if no blank comes before it. -/
theorem Html.afterAttributes?_eq_none {c : Char} (hblank : isBlank c = false) (hclose : c ≠ '>')
    (hslash : c ≠ '/') (fuel : Nat) (s : Text) : Html.afterAttributes? fuel (c :: s) = none := by
  cases fuel with
  | zero => rfl
  | succ fuel =>
    have hstop : (c :: s).dropWhile isBlank = c :: s :=
      List.dropWhile_cons_of_neg (by simp [hblank])
    rw [Html.afterAttributes?, hstop]
    split
    · rename_i heq
      cases heq
    · rename_i heq
      exact absurd (List.cons.inj heq).1 hclose
    · rename_i heq
      exact absurd (List.cons.inj heq).1 hslash
    · simp

/-- A line is no block of HTML if it begins neither with a tag nor with the name of an element that
    begins such a block. -/
theorem Html.blockStart?_eq_none {c : Char} {s : Text} (hc : c ∉ ['/', '!', '?'])
    (hverbatim : Html.afterName? Html.verbatimElements Html.endsName (c :: s) = none)
    (hblock : Html.afterName? Html.blockElements Html.endsBlockName (c :: s) = none)
    (hopen : Html.afterOpenTag? ('<' :: c :: s) = none) :
    Html.blockStart? ('<' :: c :: s) = none := by
  simp only [List.mem_cons, List.not_mem_nil, or_false, not_or] at hc
  obtain ⟨hslash, hbang, hquestion⟩ := hc
  have hclose : Html.afterCloseTag? ('<' :: c :: s) = none := by
    unfold Html.afterCloseTag?
    split
    · rename_i heq
      exact absurd (List.cons.inj (List.cons.inj heq).2).1 hslash
    · rfl
  have hstarts {d : Char} (hd : c ≠ d) (lead : Text) :
      startsWith ('<' :: c :: s) ('<' :: d :: lead) = false := by
    simp [startsWith, dropLead?, Ne.symm hd]
  have hcomment : startsWith ('<' :: c :: s) "<!--".toList = false := hstarts hbang _
  have hprocessing : startsWith ('<' :: c :: s) "<?".toList = false := hstarts hquestion _
  have hdeclaration : startsWith ('<' :: c :: s) "<!".toList = false := hstarts hbang _
  have hdata : startsWith ('<' :: c :: s) "<![CDATA[".toList = false := hstarts hbang _
  rw [Html.blockStart?]
  simp only [List.head?_cons, List.drop_succ_cons, List.drop_zero, hverbatim, hcomment, hprocessing,
    hdeclaration, hdata, hopen, hclose]
  simp [hslash, hblock]

/-- A URL in angle brackets, with its slashes hidden. -/
def angled (scheme u : Text) : Text :=
  '<' :: (scheme ++ hiddenSlashes ++ u) ++ ['>']

section

variable {scheme : Text} (hscheme : scheme ∈ hiddenSchemes) {u : Text}

include hscheme

/-! ### The line -/

/-- No block of HTML begins like a URL. -/
theorem blockStart?_angled : Html.blockStart? (angled scheme u) = none := by
  have hrest (fuel : Nat) (s : Text) : Html.afterAttributes? fuel (':' :: s) = none :=
    Html.afterAttributes?_eq_none (by decide) (by decide) (by decide) fuel s
  rcases mem_hiddenSchemes.1 hscheme with rfl | rfl
  · exact Html.blockStart?_eq_none (by decide) rfl rfl (hrest _ _)
  · exact Html.blockStart?_eq_none (by decide) rfl rfl (hrest _ _)

theorem isLoneLine_angled (hu : IsSafe u) : IsLoneLine (angled scheme u) := by
  have hnone : ∀ c ∈ ['\r', '\n', Char.ofNat 0], c ∉ angled scheme u := by
    have hlead : ∀ c ∈ ['\r', '\n', Char.ofNat 0], c ≠ '<' ∧ c ≠ '>' ∧ isUrlSafe c = false ∧
        ∀ scheme ∈ hiddenSchemes, c ∉ scheme ++ hiddenSlashes :=
      List.all_iff_forall_prop.1 (by decide)
    intro c hc hmem
    obtain ⟨hopen, hclose, hsafe, hschemes⟩ := hlead c hc
    simp only [angled, List.cons_append, List.mem_cons, List.mem_append, List.not_mem_nil,
      or_false] at hmem
    rcases hmem with heq | (hmem | hmem) | heq
    · exact hopen heq
    · exact hschemes scheme hscheme (List.mem_append.2 hmem)
    · exact Bool.false_ne_true (hsafe.symm.trans (hu c hmem).2)
    · exact hclose heq
  have hmarker : marker? (angled scheme u) = none := by
    refine marker?_eq_none (by decide) fun d hd => ?_
    obtain rfl : '<' = d := by simpa using hd
    decide
  have hmark : ∀ d ∈ lineMarks, '<' ≠ d := List.all_iff_forall_prop.1 (by decide)
  refine ⟨⟨'<', _, rfl, by decide, hmark⟩, ⟨_, '>', rfl, by decide⟩, hmarker,
    blockStart?_angled hscheme, fun c hc => ⟨?_, ?_⟩, hnone _ (by simp)⟩
  · rintro rfl
    exact hnone _ (by simp) hc
  · rintro rfl
    exact hnone _ (by simp) hc

/-! ### The link -/

theorem angleLinkAt?_angled (hu : IsSafe u) :
    angleLinkAt? (angled scheme u) =
      some (scheme ++ ":%5C/%5C/".toList ++ u, scheme ++ hiddenSlashes ++ u) := by
  have hplain : ∀ c ∈ scheme ++ hiddenSlashes ++ u, (c != '<' && c != '>') = true := by
    have hlead : ∀ scheme ∈ hiddenSchemes,
        (scheme ++ hiddenSlashes).all (fun c => c != '<' && c != '>') = true := by decide
    refine List.forall_mem_append.2 ⟨List.all_eq_true.1 (hlead scheme hscheme), fun c hc => ?_⟩
    rw [Bool.and_eq_true, bne_iff_ne, bne_iff_ne]
    refine ⟨?_, ?_⟩ <;> rintro rfl <;> exact absurd (hu _ hc).2 (by decide)
  have hscheme? : isSchemeUrl (scheme ++ hiddenSlashes ++ u) = true := by
    have hpath : ∀ c ∈ "\\/\\/".toList ++ u, (32 < c.toNat && c != '<' && c != '>') = true := by
      refine List.forall_mem_append.2 ⟨List.all_eq_true.1 (by decide), fun c hc => ?_⟩
      have hwide : 32 < c.toNat := hu.forall (p := fun c => 32 < c.toNat)
        (fun c h => by have := (toNat_of_isAlphanum h).1; omega)
        (List.all_iff_forall_prop.1 (by decide)) c hc
      rw [Bool.and_assoc, hplain c (List.mem_append_right _ hc), Bool.and_true]
      exact decide_eq_true hwide
    have hpath := List.all_eq_true.2 hpath
    rcases mem_hiddenSchemes.1 hscheme with rfl | rfl <;> exact hpath
  have hallowed : isAllowed (scheme ++ ":%5C/%5C/".toList ++ u) = true := by
    rw [exists_cons_of_mem_hiddenSchemes scheme hscheme]
    exact isAllowed_cons (by decide) (by decide) (by decide) _
  have htake : (scheme ++ hiddenSlashes ++ u ++ ['>']).takeWhile (fun c => c != '<' && c != '>') =
      scheme ++ hiddenSlashes ++ u := by
    rw [List.takeWhile_append_of_pos hplain]
    exact List.append_nil _
  rw [angled, List.cons_append, angleLinkAt?, htake]
  dsimp only
  rw [List.drop_left, hscheme?, if_neg (by decide), if_pos rfl]
  dsimp only
  rw [target_hidden hscheme hu, if_pos hallowed]

end

/-- A text that is a link in angle brackets is read as the link. -/
theorem readText_of_angleLink (refs : References) {url inner : Text}
    (h : angleLinkAt? ('<' :: inner ++ ['>']) = some (url, inner)) :
    readText refs ('<' :: inner ++ ['>']) =
      [.openLink ⟨url, [], Url.isBroken inner⟩, .text (display inner), .closeLink] := by
  have hread : inlineSpans refs ('<' :: inner ++ ['>']) =
      [.openLink ⟨url, [], Url.isBroken inner⟩, .text (display inner), .closeLink] := by
    let start : Reader := { place := .start ('<' :: inner ++ ['>']) }
    have hangle : start.readAngle =
        (start.pushPlainLink url inner).advance (inner.length + 2) := by
      have hstart : angleLinkAt? start.place.rest = some (url, inner) := h
      unfold Reader.readAngle
      rw [hstart]
    have hnext : start.readAngle.place.rest = [] := by
      have hlength : ('<' :: inner ++ ['>']).length = inner.length + 2 := by simp
      rw [hangle]
      exact List.drop_eq_nil_of_le (Nat.le_of_eq hlength)
    have hstep : ∀ fuel, Reader.read refs (fuel + 1) maxNesting start =
        Reader.read refs fuel maxNesting start.readAngle := fun _ => rfl
    have hdone : Reader.read refs ('<' :: inner ++ ['>']).length maxNesting start.readAngle =
        start.readAngle := by
      rw [List.cons_append, List.length_cons, maxNesting, Reader.read, hnext]
    rw [inlineSpans, hstep, hdone, hangle]
    rfl
  rw [readText, withAddresses, hread]
  split <;> rfl

/-- The events of the document. -/
theorem document_angled {scheme u : Text} (hscheme : scheme ∈ hiddenSchemes) (hu : IsSafe u) :
    document (angled scheme u) = Event.leaf (.paragraph false)
      [.openLink ⟨scheme ++ ":%5C/%5C/".toList ++ u, [],
          Url.isBroken (scheme ++ hiddenSlashes ++ u)⟩,
        .text (scheme ++ hiddenSlashes ++ u), .closeLink] := by
  have hlink := readText_of_angleLink (blocksOf (angled scheme u)).references
    (angleLinkAt?_angled hscheme hu)
  rw [display_hidden hscheme hu] at hlink
  rw [(isLoneLine_angled hscheme hu).document_eq]
  exact congrArg (Event.leaf (.paragraph false)) hlink

end Docpress.Markdown
