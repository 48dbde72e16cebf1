import Docpress.Proofs.Markdown.Quiet
/-!
A document that is one line of running text: every other way to begin a block fails on it, and it
is a paragraph.
-/

namespace Docpress.Markdown

open Text

/-- A line is no item of a list if no point or parenthesis follows the digits at its start. -/
theorem marker?_eq_none {c : Char} {s : Text} (hc : c ∉ ['*', '-', '+'])
    (hdigits : ∀ d ∈ ((c :: s).dropWhile Char.isDigit).head?, d ∉ ['.', ')']) :
    marker? (c :: s) = none := by
  simp only [List.mem_cons, List.not_mem_nil, or_false, not_or] at hc
  rw [marker?]
  dsimp only
  rw [if_neg (by simpa [and_assoc] using hc), drop_length_takeWhile]
  split
  · rename_i mark rest heq
    have hmark := hdigits mark (by rw [heq]; rfl)
    simp only [List.mem_cons, List.not_mem_nil, or_false, not_or] at hmark
    rw [if_neg]
    simp [hmark]
  · rfl

/-- What has a meaning at the start of a line, but for the bracket of a block of HTML. -/
def lineMarks : Text :=
  [' ', '\t', '\x60', '~', '>', '*', '-', '_', '[', '#']

/-- A line that is a paragraph if nothing else stands in the document: no other block begins like
    it, and no space is trimmed from it. -/
structure IsLoneLine (s : Text) : Prop where
  first : ∃ c rest, s = c :: rest ∧ isSpaceSeparator c = false ∧ ∀ d ∈ lineMarks, c ≠ d
  last : ∃ front c, s = front ++ [c] ∧ isSpaceSeparator c = false
  noMarker : marker? s = none
  noHtml : Html.blockStart? s = none
  normal : IsNormal s
  single : '\n' ∉ s

theorem isSpaceSeparator_of_isAlphanum {c : Char} (h : c.isAlphanum = true) :
    isSpaceSeparator c = false := by
  obtain ⟨hlow, hhigh⟩ := toNat_of_isAlphanum h
  simp only [isSpaceSeparator, Bool.or_eq_false_iff, Bool.and_eq_false_iff,
    decide_eq_false_iff_not, beq_eq_false_iff_ne]
  omega

theorem isPunctuationOrSymbol_of_isAlphanum {c : Char} (h : c.isAlphanum = true) :
    isPunctuationOrSymbol c = false := by
  have hall : ∀ n < 128, (Char.ofNat n).isAlphanum = true →
      isPunctuationOrSymbol (Char.ofNat n) = false := by
    decide +kernel
  have hc := hall c.toNat (by have := toNat_of_isAlphanum h; omega)
  rw [Char.ofNat_toNat] at hc
  exact hc h

namespace IsLoneLine

variable {s : Text}

theorem trimSpace_eq (h : IsLoneLine s) : trimSpace s = s := by
  obtain ⟨c, rest, rfl, hfirst, -⟩ := h.first
  obtain ⟨front, d, heq, hlast⟩ := h.last
  rw [trimSpace, Text.trim, trimStart, List.dropWhile_cons_of_neg (by simp [hfirst]), heq,
    trimEnd_append_cons hlast (by simp)]

/-- The line begins with no mark that has a meaning at the start of a line. -/
theorem exists_first (h : IsLoneLine s) : ∃ c rest, s = c :: rest ∧ ∀ d ∈ lineMarks, c ≠ d := by
  obtain ⟨c, rest, rfl, -, hc⟩ := h.first
  exact ⟨c, rest, rfl, hc⟩

/-- The line has no indentation. -/
theorem takeWhile_isIndent (h : IsLoneLine s) : s.takeWhile isIndent = [] := by
  obtain ⟨c, rest, rfl, hc⟩ := h.exists_first
  rw [List.takeWhile_cons, if_neg]
  simp [isIndent, hc ' ' (by decide), hc '\t' (by decide)]

theorem content_ofText (h : IsLoneLine s) (ended : Bool) : (Line.ofText s ended).content = s := by
  rw [Line.content, Line.ofText, h.takeWhile_isIndent]
  rfl

theorem isCode_ofText (h : IsLoneLine s) (ended : Bool) :
    (Line.ofText s ended).isCode {} = false := by
  have hcolumn : (Line.ofText s ended).column = 0 := by
    rw [Line.ofText, indentColumn, h.takeWhile_isIndent]
    rfl
  rw [Line.isCode, hcolumn]
  rfl

/-- The line is the only one of its document. -/
theorem linesOf_eq (h : IsLoneLine s) : linesOf s = [Line.ofText s false] := by
  have hlines := linesOf_lines (List.forall_mem_nil _) ⟨h.normal, h.single⟩
  have hblank : s.all isIndent = false := by
    obtain ⟨c, rest, rfl, hc⟩ := h.exists_first
    simp [isIndent, hc ' ' (by decide), hc '\t' (by decide)]
  rw [List.flatMap_nil, List.nil_append] at hlines
  rw [hlines, linesOfPieces, hblank]
  rfl

/-- No other block begins like the line. -/
theorem readBlock_eq (h : IsLoneLine s) (quoted listed : ReadBlocks) :
    readBlock quoted listed {} (Line.ofText s false) [] =
      readParagraph {} (Line.ofText s false) [] := by
  have hcode := h.isCode_ofText false
  have hcontent := h.content_ofText false
  have hmarker := h.noMarker
  have hblock := h.noHtml
  obtain ⟨c, rest, rfl, hc⟩ := h.exists_first
  rw [lineMarks] at hc
  have hfence : fence? {} (Line.ofText (c :: rest) false) = none := by
    rw [fence?, hcode, hcontent]
    simp [hc]
  have hquote : startsQuote {} (Line.ofText (c :: rest) false) = false := by
    rw [startsQuote, hcontent]
    simp [hc]
  have hrule : isRule {} (Line.ofText (c :: rest) false) = false := by
    rw [isRule, hcontent]
    simp [hc]
  have hlist : listStart? {} false (Line.ofText (c :: rest) false) = none := by
    rw [listStart?, hcode, hcontent, hmarker]
    rfl
  have hdefinition : definitionStart? {} [Line.ofText (c :: rest) false] = none := by
    rw [definitionStart?, hcontent]
    split
    · rename_i heq
      exact absurd (List.cons.inj heq).1 (hc '[' (by decide))
    · rfl
  have hhtml : htmlStart? {} (Line.ofText (c :: rest) false) = none := by
    rw [htmlStart?, hcode, hcontent, hblock]
    rfl
  have hheading : heading? {} (Line.ofText (c :: rest) false) = none := by
    rw [heading?, hcode, hcontent]
    simp [hc]
  rw [readBlock, tableStart?, hcode, hfence, hquote, hrule, hlist, hdefinition, hhtml, hheading]
  · rfl
  · rintro _ _ _ ⟨⟩

theorem paragraphText_eq (h : IsLoneLine s) :
    paragraphText {} [Line.ofText s false] = s := by
  have hdedent : dedentAll 0 [Line.ofText s false] = s := by
    rw [dedentAll, List.flatMap_cons, List.flatMap_nil, List.append_nil, Line.dedent_zero]
    exact List.append_nil s
  have hlast : s.getLast? ≠ some '\n' := fun hend => h.single (List.mem_of_getLast? hend)
  rw [paragraphText, hdedent, dropLastEnd, if_neg (by simpa using hlast), h.trimSpace_eq]

/-- The line is a paragraph, and all of its document. -/
theorem events_blocksOf (h : IsLoneLine s) :
    (blocksOf s).events = Event.leaf (.paragraph false) s := by
  have hempty : (Line.ofText s false).isEmpty = false := by
    obtain ⟨c, rest, heq, -⟩ := h.exists_first
    rw [Line.isEmpty, Line.ofText, h.takeWhile_isIndent, heq]
    rfl
  have hblock : ∀ quoted listed, readBlock quoted listed {} (Line.ofText s false) [] =
      { events := Event.leaf (.paragraph false) s, used := 1 } := by
    intro quoted listed
    rw [h.readBlock_eq, readParagraph, continuation, h.paragraphText_eq]
    rfl
  exact (blocksOf_of_all h.linesOf_eq hempty (Line.isOutdented_ofText _ _) hblock le_rfl).1

/-- The document of the line is its running text in a paragraph. -/
theorem document_eq (h : IsLoneLine s) :
    document s = Event.leaf (.paragraph false) (readText (blocksOf s).references s) := by
  rw [document, h.events_blocksOf]
  rfl

end IsLoneLine

/-- A line that begins with a letter, a digit or an opening brace, and not like an item of a list,
    and that ends with a letter, a digit or a closing brace. -/
structure IsPlainLine (s : Text) : Prop where
  first : ∃ c rest, s = c :: rest ∧ (c.isAlphanum = true ∨ c = '{')
  last : ∃ front c, s = front ++ [c] ∧ (c.isAlphanum = true ∨ c = '}')
  noMarker : marker? s = none
  normal : IsNormal s
  single : '\n' ∉ s

theorem IsPlainLine.isLoneLine {s : Text} (h : IsPlainLine s) : IsLoneLine s := by
  obtain ⟨c, rest, rfl, hc⟩ := h.first
  obtain ⟨front, e, heq, he⟩ := h.last
  have hmark : ∀ d ∈ '<' :: lineMarks, ¬ (Char.isAlphanum d = true ∨ d = '{') :=
    List.all_iff_forall_prop.1 (by decide)
  have hne : ∀ d ∈ '<' :: lineMarks, c ≠ d := by
    rintro d hd rfl
    exact hmark c hd hc
  have hfirst : isSpaceSeparator c = false := by
    rcases hc with hc | rfl
    · exact isSpaceSeparator_of_isAlphanum hc
    · decide
  have hlast : isSpaceSeparator e = false := by
    rcases he with he | rfl
    · exact isSpaceSeparator_of_isAlphanum he
    · decide
  have hblock : Html.blockStart? (c :: rest) = none := by
    rw [Html.blockStart?]
    simp [hne '<' (by simp)]
  exact ⟨⟨c, rest, rfl, hfirst, fun d hd => hne d (List.mem_cons_of_mem _ hd)⟩,
    ⟨front, e, heq, hlast⟩, h.noMarker, hblock, h.normal, h.single⟩

/-- The document of a plain line that says something quietly. -/
theorem document_of_reads {s t : Text} (hplain : IsPlainLine s) (h : Reads s t)
    (haddress : BareLink.IsAddressless s) :
    document s = Event.leaf (.paragraph false) (quietSpans [] s) := by
  rw [hplain.isLoneLine.document_eq, readText_of_reads _ h haddress]

/-- What it is written as: the text that is stood for, escaped, in a paragraph. -/
theorem writeDocument_of_reads (breaks : Bool) {s t : Text} (h : Reads s t) :
    writeDocument breaks [] (Event.leaf (.paragraph false) (quietSpans [] s)) =
      "<p>".toList ++ Html.escape t ++ "</p>\n".toList := by
  have hwrite : ∀ spans, writeDocument breaks [] (Event.leaf (.paragraph false) spans) =
      "<p>".toList ++ (spans.flatMap (Span.write breaks) ++ "</p>\n".toList) := fun _ => rfl
  rw [hwrite, flatMap_write_quietSpans breaks h, List.reverse_nil, List.nil_append,
    List.append_assoc]

end Docpress.Markdown
