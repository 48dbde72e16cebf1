import Docpress.Proofs.Markdown.Ending
import Docpress.Proofs.Markdown.Paragraph
import Docpress.Proofs.Markdown.Passes
/-!
Documents of white space. To Markdown a line is empty if it has only spaces and tabs. Other white
space is content, and no block but a paragraph or indented code begins with it.
-/

namespace Docpress.Markdown

open Text

/-! ### Empty lines -/

/-- White space that is no content of a line: spaces, tabs and what ends a line. -/
def isLineSpace (c : Char) : Bool :=
  isIndent c || c == '\n' || c == '\r'

theorem Line.isEmpty_ofText (s : Text) (ended : Bool) :
    (Line.ofText s ended).isEmpty = s.all isIndent := by
  have hlead : (Line.ofText s ended).lead = (s.takeWhile isIndent).length := rfl
  have htext : (Line.ofText s ended).text = s := rfl
  rw [Bool.eq_iff_iff, Line.isEmpty, hlead, htext, decide_eq_true_iff, List.all_eq_true]
  constructor
  · intro hlength
    have hwhole := (List.takeWhile_prefix isIndent).eq_of_length_le hlength
    rw [← hwhole]
    exact List.all_eq_true.1 List.all_takeWhile
  · intro hall
    rw [List.takeWhile_eq_self_iff.2 hall]

theorem forall_isEmpty_linesOfPieces_iff {pieces : List Text} :
    (∀ l ∈ linesOfPieces pieces, l.isEmpty = true) ↔ ∀ s ∈ pieces, s.all isIndent = true := by
  induction pieces using linesOfPieces.induct with
  | case1 => exact iff_of_true (List.forall_mem_nil _) (List.forall_mem_nil _)
  | case2 s hindent =>
    rw [linesOfPieces, if_pos hindent, List.forall_mem_singleton]
    exact iff_of_true (List.forall_mem_nil _) hindent
  | case3 s hindent =>
    rw [linesOfPieces, if_neg hindent, List.forall_mem_singleton, List.forall_mem_singleton,
      Line.isEmpty_ofText]
  | case4 s rest hrest ih =>
    rw [linesOfPieces, List.forall_mem_cons, List.forall_mem_cons, Line.isEmpty_ofText, ih]
    exact hrest

/-- The pieces between line ends are indentation if everything else is a line end. -/
theorem forall_splitBy_iff {s : Text} :
    (∀ piece ∈ splitBy (· == '\n') s, piece.all isIndent = true) ↔
      s.all (fun c => isIndent c || c == '\n') = true := by
  induction s with
  | nil => exact iff_of_true (by decide) rfl
  | cons c s ih =>
    rw [List.all_cons]
    cases hend : c == '\n' with
    | true =>
      rw [splitBy_cons_of_pos (p := (· == '\n')) hend, List.forall_mem_cons, ih, Bool.or_true, Bool.true_and]
      exact and_iff_right rfl
    | false =>
      obtain ⟨piece, pieces, hsplit, hcons⟩ := splitBy_cons_of_not (p := (· == '\n')) hend s
      rw [hcons, Bool.or_false, Bool.and_eq_true, ← ih, hsplit, List.forall_mem_cons,
        List.forall_mem_cons, List.all_cons, Bool.and_eq_true, and_assoc]

theorem all_normalize {s : Text} :
    (normalize s).all (fun c => isIndent c || c == '\n') = s.all isLineSpace := by
  induction s using normalize.induct with
  | case1 => rfl
  | case2 s ih =>
    have hends : isLineSpace '\r' = true ∧ isLineSpace '\n' = true := by decide
    rw [normalize, List.all_cons, List.all_cons, List.all_cons, ih, hends.1, hends.2]
    rfl
  | case3 c s hcrlf ih =>
    rw [normalize, List.all_cons, List.all_cons, ih]
    · congr 1
      by_cases hreturn : c = '\r'
      · rw [hreturn]
        decide
      · by_cases hzero : c = Char.ofNat 0
        · rw [hzero]
          decide
        · simp [hreturn, hzero, isLineSpace]
    · exact hcrlf

/-- All lines of a document are empty if it has only white space that is no content. -/
theorem forall_isEmpty_linesOf_iff (source : Text) :
    (∀ l ∈ linesOf source, l.isEmpty = true) ↔ source.all isLineSpace = true := by
  rw [linesOf, forall_isEmpty_linesOfPieces_iff, forall_splitBy_iff, all_normalize]

/-! ### Blank lines -/

/-- All characters of the line are white space. -/
def Line.IsBlank (l : Line) : Prop :=
  Within (isBlank · = true) l.text

variable {scope : Scope} {l : Line} {rest : List Line}

/-- No mark of Markdown is white space. -/
theorem Line.IsBlank.ne_of_content (h : l.IsBlank) {c d : Char} {s : Text}
    (hcontent : l.content = c :: s) (hd : isBlank d = false) : c ≠ d := by
  have hmem : c ∈ l.content := hcontent ▸ List.mem_cons_self
  have hc : isBlank c = true := h.drop l.lead c hmem
  rintro rfl
  exact Bool.false_ne_true (hd.symm.trans hc)

theorem underlined?_of_blank (h : ∀ l ∈ rest, l.IsBlank) : underlined? scope rest = none := by
  induction rest with
  | nil => rfl
  | cons l rest ih =>
    obtain ⟨hl, hrest⟩ := List.forall_mem_cons.1 h
    have hnone : underline? scope l = none := by
      unfold underline?
      split
      · rename_i c s hcontent
        have hdash := hl.ne_of_content hcontent (d := '-') (by decide)
        have hequals := hl.ne_of_content hcontent (d := '=') (by decide)
        simp [hdash, hequals]
      · rfl
    rw [underlined?, ih hrest, hnone]
    simp

/-- The head of a blank line is none of the marks that a block begins with. -/
theorem Line.IsBlank.exists_content (hl : l.IsBlank) (hempty : l.isEmpty = false) :
    ∃ c s, l.content = c :: s ∧ ∀ d, isBlank d = false → c ≠ d := by
  obtain ⟨c, s, hcontent⟩ : ∃ c s, l.content = c :: s := by
    refine List.exists_cons_of_length_pos ?_
    rw [Line.isEmpty, decide_eq_false_iff_not] at hempty
    rw [Line.content, List.length_drop]
    omega
  exact ⟨c, s, hcontent, fun _ => hl.ne_of_content hcontent⟩

/-- A table's first line has a bar. -/
theorem tableStart?_of_blank (hl : l.IsBlank) : tableStart? scope (l :: rest) = none := by
  have hbar : (trimSpace l.content).any (· == '|') = false := by
    refine List.any_eq_false.2 fun d hd hmark => ?_
    have hblank : isBlank d = true := (hl.drop l.lead).trim isSpaceSeparator d hd
    obtain rfl := eq_of_beq hmark
    cases hblank
  unfold tableStart?
  split
  · rename_i heq
    obtain ⟨rfl, -⟩ := List.cons.inj heq
    split
    · rfl
    · split
      · rfl
      · dsimp only
        rw [hbar]
        rfl
  · rfl

/-- A list's marker is a mark, or digits before one. -/
theorem marker?_of_blank {c : Char} {s : Text} (hne : ∀ d, isBlank d = false → c ≠ d) :
    marker? (c :: s) = none := by
  have hdigit : c.isDigit = false := by
    rw [Bool.eq_false_iff]
    intro hdigit
    exact hne c (isBlank_of_isAlphanum (Bool.or_eq_true_iff.2 (.inr hdigit))) rfl
  refine marker?_eq_none ?_ fun d hd => ?_
  · simp [hne '*' (by decide), hne '-' (by decide), hne '+' (by decide)]
  · rw [List.dropWhile_cons_of_neg (by simp [hdigit])] at hd
    obtain rfl := Option.some.inj hd
    simp [hne '.' (by decide), hne ')' (by decide)]

/-- A definition begins with a bracket. -/
theorem definitionStart?_of_blank {c : Char} {s : Text} (hcontent : l.content = c :: s)
    (hne : ∀ d, isBlank d = false → c ≠ d) : definitionStart? scope (l :: rest) = none := by
  rw [definitionStart?, hcontent]
  split
  · rename_i heq
    exact absurd (List.cons.inj heq).1 (hne '[' (by decide))
  · rfl

/-- What begins with white space other than indentation is code or a paragraph. -/
theorem readBlock_of_blank (hl : l.IsBlank) (hempty : l.isEmpty = false)
    (hrest : ∀ l ∈ rest, l.IsBlank) (quoted listed : ReadBlocks) :
    readBlock quoted listed scope l rest =
      if l.isCode scope then readCode scope (l :: rest) else readParagraph scope l rest := by
  obtain ⟨c, s, hcontent, hne⟩ := hl.exists_content hempty
  rw [readBlock, tableStart?_of_blank hl]
  dsimp only
  split
  · rfl
  · rename_i hcode
    have hcode := Bool.eq_false_iff.2 hcode
    have hfence : fence? scope l = none := by
      rw [fence?, hcode, hcontent]
      simp [hne '~' (by decide), hne '\x60' (by decide)]
    have hquote : startsQuote scope l = false := by
      rw [startsQuote, hcontent]
      simp [hne '>' (by decide)]
    have hrule : isRule scope l = false := by
      rw [isRule, hcontent]
      simp [hne '*' (by decide), hne '-' (by decide), hne '_' (by decide)]
    have hlist : listStart? scope false l = none := by
      rw [listStart?, hcontent, marker?_of_blank hne]
      simp
    have hhtml : htmlStart? scope l = none := by
      rw [htmlStart?, hcode, hcontent, Html.blockStart?]
      simp [hne '<' (by decide)]
    have hheading : heading? scope l = none := by
      rw [heading?, hcode, hcontent]
      simp [hne '#' (by decide)]
    rw [hfence, hquote, hrule, hlist, definitionStart?_of_blank hcontent hne, hhtml, hheading,
      underlined?_of_blank hrest]
    rfl

/-! ### Blank documents -/

/-- The event is a fence. -/
def Event.isFence {α : Type} : Event α → Bool
  | .fence _ _ => true
  | _ => false

theorem Event.isFence_map {α β : Type} (f : α → β) (e : Event α) :
    (e.map f).isFence = e.isFence := by
  cases e <;> rfl

/-- A blank line begins a block with events, and no fence. -/
theorem events_readBlock_of_blank (hl : l.IsBlank) (hempty : l.isEmpty = false)
    (hrest : ∀ l ∈ rest, l.IsBlank) (quoted listed : ReadBlocks) :
    (readBlock quoted listed scope l rest).events ≠ [] ∧
      ∀ e ∈ (readBlock quoted listed scope l rest).events, e.isFence = false := by
  rw [readBlock_of_blank hl hempty hrest]
  split
  · exact ⟨List.cons_ne_nil _ _, List.forall_mem_singleton.2 rfl⟩
  · refine ⟨List.cons_ne_nil _ _, fun e he => ?_⟩
    simp only [readParagraph, Event.leaf, List.mem_cons, List.not_mem_nil, or_false] at he
    obtain rfl | rfl | rfl := he <;> rfl

/-- A line that follows the empty ones is not empty. -/
theorem isEmpty_of_drop {lines : List Line}
    (h : lines.drop (lines.takeWhile (·.isEmpty)).length = l :: rest) : l.isEmpty = false := by
  have hhead := List.head?_dropWhile_not (·.isEmpty) lines
  rw [← drop_length_takeWhile, h] at hhead
  exact hhead

theorem isFence_readBlocks_of_blank (quoted listed : ReadBlocks) (fuel : Nat) (sawEmpty : Bool)
    {lines : List Line} (h : ∀ l ∈ lines, l.IsBlank) :
    ∀ e ∈ (readBlocks quoted listed scope fuel sawEmpty lines).events, e.isFence = false := by
  induction fuel generalizing sawEmpty lines with
  | zero => exact List.forall_mem_nil _
  | succ fuel ih =>
    rw [readBlocks]
    dsimp only
    split
    · exact List.forall_mem_nil _
    · rename_i l rest hdrop
      split
      · exact List.forall_mem_nil _
      · have hlines : ∀ k ∈ l :: rest, k.IsBlank := fun k hk =>
          h k (List.drop_subset _ _ (hdrop ▸ hk))
        obtain ⟨hl, hrest⟩ := List.forall_mem_cons.1 hlines
        refine List.forall_mem_append.2
          ⟨(events_readBlock_of_blank hl (isEmpty_of_drop hdrop) hrest _ _).2, ?_⟩
        exact ih _ fun k hk => hlines k (List.drop_subset _ _ hk)

/-- Blank lines that reach the edge have events unless they are all empty. -/
theorem events_readBlocks_eq_nil_iff (quoted listed : ReadBlocks) (fuel : Nat) (sawEmpty : Bool)
    {lines : List Line} (h : ∀ l ∈ lines, l.IsBlank)
    (hreaches : ∀ l ∈ lines, l.isOutdented scope = false) :
    (readBlocks quoted listed scope (fuel + 1) sawEmpty lines).events = [] ↔
      ∀ l ∈ lines, l.isEmpty = true := by
  rw [readBlocks]
  dsimp only
  split
  · rename_i hdrop
    rw [drop_length_takeWhile, List.dropWhile_eq_nil_iff] at hdrop
    exact iff_of_true rfl hdrop
  · rename_i l rest hdrop
    have hlines : ∀ k ∈ l :: rest, k ∈ lines := fun k hk => List.drop_subset _ _ (hdrop ▸ hk)
    have hempty := isEmpty_of_drop hdrop
    have hl : l ∈ lines := hlines l List.mem_cons_self
    have hblock : (readBlock quoted listed scope l rest).events ≠ [] :=
      (events_readBlock_of_blank (h l hl) hempty
        (fun k hk => h k (hlines k (List.mem_cons_of_mem _ hk))) quoted listed).1
    rw [if_neg (by simp [hreaches l hl])]
    refine iff_of_false (fun hnil => hblock (List.append_eq_nil_iff.1 hnil).1) fun hall => ?_
    exact Bool.false_ne_true (hempty.symm.trans (hall l hl))

theorem normalize_blank {s : Text} (hs : Within (isBlank · = true) s) :
    Within (isBlank · = true) (normalize s) := by
  induction s using normalize.induct with
  | case1 => exact hs
  | case2 s ih =>
    obtain ⟨-, hs⟩ := within_cons.1 hs
    obtain ⟨hend, hs⟩ := within_cons.1 hs
    rw [normalize]
    exact within_cons.2 ⟨hend, ih hs⟩
  | case3 c s hcrlf ih =>
    obtain ⟨hc, hs⟩ := within_cons.1 hs
    rw [normalize]
    · refine within_cons.2 ⟨?_, ih hs⟩
      split
      · decide
      · split
        · rename_i hzero
          rw [eq_of_beq hzero] at hc
          cases hc
        · exact hc
    · exact hcrlf

/-- A blank document has no fence, and no events at all if its white space is no content. -/
theorem events_blocksOf_of_blank {source : Text} (h : Within (isBlank · = true) source) :
    (∀ e ∈ (blocksOf source).events, e.isFence = false) ∧
      ((blocksOf source).events = [] ↔ source.all isLineSpace = true) := by
  have hlines : ∀ l ∈ linesOf source, l.IsBlank ∧ l.isOutdented {} = false := by
    intro l hl
    obtain ⟨s, hs, ended, rfl⟩ := exists_of_mem_linesOfPieces hl
    exact ⟨(normalize_blank h).splitBy _ s hs, Line.isOutdented_ofText s ended⟩
  have hread : blocksOf source = readBlocks (blocksWithin 19) (blocksWithin 18) {}
      (linesOf source).length false (linesOf source) := rfl
  rw [hread, ← forall_isEmpty_linesOf_iff]
  refine ⟨isFence_readBlocks_of_blank _ _ _ _ fun l hl => (hlines l hl).1, ?_⟩
  cases hsource : linesOf source with
  | nil => exact iff_of_true rfl nofun
  | cons l rest =>
    rw [hsource] at hlines
    exact events_readBlocks_eq_nil_iff _ _ _ _ (fun l hl => (hlines l hl).1)
      fun l hl => (hlines l hl).2

/-! ### The passes over a document -/

theorem readTexts_eq_nil_iff {refs : References} {events : List (Event Text)} :
    readTexts refs events = [] ↔ events = [] := by
  fun_cases readTexts refs events <;> simp

theorem markTaskLists_eq_nil_iff {α : Type} {events : List (Event α)} :
    (markTaskLists events).1 = [] ↔ events = [] := by
  cases events with
  | nil => exact iff_of_true rfl rfl
  | cons event rest =>
    rw [markTaskLists]
    dsimp only
    split <;> simp

theorem identifyHeadings_eq_nil_iff {taken : List Text} {events : List (Event (List Span))} :
    identifyHeadings taken events = [] ↔ events = [] := by
  fun_cases identifyHeadings taken events <;> simp

/-- The running text of a blank document makes no fence of it and does not empty it. -/
theorem document_of_blank {source : Text} (h : Within (isBlank · = true) source) :
    (∀ e ∈ document source, e.isFence = false) ∧
      (document source = [] ↔ source.all isLineSpace = true) := by
  obtain ⟨hfence, hnil⟩ := events_blocksOf_of_blank h
  refine ⟨markTaskLists_forall (fun _ _ => rfl) ?_, ?_⟩
  · refine readTexts_forall (P := fun e => e.isFence = false) rfl (fun {e} he => ?_)
      (fun _ _ => rfl) hfence
    exact (Event.isFence_map _ e).trans he
  · rw [← hnil, document, markTaskLists_eq_nil_iff, readTexts_eq_nil_iff]

end Docpress.Markdown
