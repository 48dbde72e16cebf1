import Docpress.Markdown.Document
import Docpress.Proofs.Text.Alphanum
import Docpress.Proofs.Text.Part
import Docpress.Proofs.Text.Within
import Docpress.Proofs.Text.Words
/-!
A document that is one fence. The lines between its marks are its content as they stand, however
they look to Markdown, as long as none of them closes the fence.
-/

namespace Docpress.Markdown

open Text

/-! ### Lines -/

/-- The text has no character that reading lines changes. -/
def IsNormal (s : Text) : Prop :=
  ∀ c ∈ s, c ≠ '\r' ∧ c ≠ Char.ofNat 0

theorem normalize_of_isNormal {s : Text} (h : IsNormal s) : normalize s = s := by
  induction s with
  | nil => rfl
  | cons c s ih =>
    obtain ⟨⟨hreturn, hzero⟩, hs⟩ := List.forall_mem_cons.1 h
    rw [normalize, ih hs, if_neg (by simpa using hreturn), if_neg (by simpa using hzero)]
    rintro - rfl
    exact absurd rfl hreturn

theorem linesOfPieces_cons {s : Text} {rest : List Text} (h : rest ≠ []) :
    linesOfPieces (s :: rest) = .ofText s true :: linesOfPieces rest := by
  cases rest with
  | nil => exact absurd rfl h
  | cons t rest => rfl

/-- Texts without line ends are the lines that are made of them. -/
theorem linesOf_lines {lines : List Text} {last : Text}
    (hlines : ∀ l ∈ lines, IsNormal l ∧ '\n' ∉ l) (hlast : IsNormal last ∧ '\n' ∉ last) :
    linesOf (lines.flatMap (· ++ ['\n']) ++ last) =
      lines.map (Line.ofText · true) ++ linesOfPieces [last] := by
  have hnormal : IsNormal (lines.flatMap (· ++ ['\n']) ++ last) := by
    refine List.forall_mem_append.2 ⟨fun c hc => ?_, hlast.1⟩
    obtain ⟨l, hl, hc⟩ := List.mem_flatMap.1 hc
    rcases List.mem_append.1 hc with hc | hc
    · exact (hlines l hl).1 c hc
    · obtain rfl := List.mem_singleton.1 hc
      decide
  have hpiece : ∀ {s : Text}, '\n' ∉ s → ∀ c ∈ s, (c == '\n') = false := by
    intro s hs c hc
    simpa using fun h : c = '\n' => hs (h ▸ hc)
  have hsplit : splitBy (· == '\n') (lines.flatMap (· ++ ['\n']) ++ last) = lines ++ [last] := by
    clear hnormal
    induction lines with
    | nil => exact splitBy_of_forall_not (hpiece hlast.2)
    | cons l lines ih =>
      obtain ⟨hl, hlines⟩ := List.forall_mem_cons.1 hlines
      rw [List.flatMap_cons, List.append_assoc, List.append_assoc, List.singleton_append,
        splitBy_append_cons (hpiece hl.2) (by decide), ih hlines, List.cons_append]
  rw [linesOf, normalize_of_isNormal hnormal, hsplit]
  clear hnormal hsplit hlines
  induction lines with
  | nil => rfl
  | cons l lines ih =>
    rw [List.cons_append, linesOfPieces_cons (by simp), ih, List.map_cons, List.cons_append]

@[simp] theorem Line.content_ofText (s : Text) (ended : Bool) :
    (Line.ofText s ended).content = s.dropWhile isIndent :=
  drop_length_takeWhile isIndent s

/-- A line of the document itself reaches its edge. -/
theorem Line.isOutdented_ofText (s : Text) (ended : Bool) :
    (Line.ofText s ended).isOutdented {} = false :=
  decide_eq_false (Int.not_lt.2 (Int.natCast_nonneg _))

/-- A line keeps its text if no columns are taken away. -/
theorem Line.dedent_zero (l : Line) :
    l.dedent 0 = l.text ++ if l.ended then ['\n'] else [] := by
  have hdrop : dropColumns l.base 0 l.lead 0 l.text = l.text := by
    cases l.text <;> simp [dropColumns]
  rw [Line.dedent, hdrop]

/-! ### The fence -/

/-- The mark of a fence. -/
def fenceMark : Text :=
  ['\x60', '\x60', '\x60']

/-- A fence that is made of lines, with a line end after it or without. -/
def fenced (info : Text) (lines : List Text) (ended : Bool) : Text :=
  (fenceMark ++ info) ++ '\n' :: lines.flatMap (· ++ ['\n']) ++
    (fenceMark ++ if ended then ['\n'] else [])

/-- A line that may stand in a fence: it is one line, and does not begin with the mark. -/
structure IsFenceLine (l : Text) : Prop where
  normal : IsNormal l
  single : '\n' ∉ l
  notMark : startsWith (l.dropWhile isIndent) fenceMark = false

theorem takeWhile_length_lt_of_startsWith {c : Char} {s : Text}
    (h : startsWith s [c, c, c] = false) : (s.takeWhile (· == c)).length < 3 := by
  match s with
  | [] => simp
  | [a] => by_cases ha : a = c <;> simp [ha]
  | [a, b] => by_cases ha : a = c <;> by_cases hb : b = c <;> simp [ha, hb]
  | a :: b :: d :: s =>
    by_cases ha : a = c <;> by_cases hb : b = c <;> by_cases hd : d = c <;>
      simp [startsWith, dropLead?, ha, hb, hd] at h ⊢

/-- Lines that do not close a fence, and one that does. -/
theorem fenceLines_fenced {info : Text} {lines : List Text} (ended : Bool)
    (hlines : ∀ l ∈ lines, IsFenceLine l) :
    fenceLines {} ⟨'\x60', 3, info⟩
        (lines.map (Line.ofText · true) ++ [Line.ofText fenceMark ended]) =
      (lines.map (Line.ofText · true), true) := by
  induction lines with
  | nil => rfl
  | cons l lines ih =>
    obtain ⟨hl, hlines⟩ := List.forall_mem_cons.1 hlines
    have hrun := takeWhile_length_lt_of_startsWith hl.notMark
    rw [List.map_cons, List.cons_append, fenceLines, Line.isOutdented_ofText, Bool.and_false,
      if_neg Bool.false_ne_true, Line.content_ofText, ih hlines]
    dsimp only
    rw [if_neg]
    rw [Bool.and_eq_true, Bool.and_eq_true, decide_eq_true_iff]
    rintro ⟨⟨-, hlong⟩, -⟩
    omega

/-- The opening line of a fence has nothing before its mark. -/
theorem Line.content_fenceMark (info : Text) (ended : Bool) :
    (Line.ofText (fenceMark ++ info) ended).content = fenceMark ++ info :=
  Line.content_ofText _ _

theorem Line.isCode_fenceMark (info : Text) (ended : Bool) :
    (Line.ofText (fenceMark ++ info) ended).isCode {} = false := rfl

/-- A word opens a fence as its info text. -/
theorem fence?_fenceMark {info : Text} (hinfo : IsWord info) (ended : Bool) :
    fence? {} (Line.ofText (fenceMark ++ info) ended) = some ⟨'\x60', 3, info⟩ := by
  have hnone := hinfo.forall_eq_false (c := '\x60') (by decide)
  have hrun : ('\x60' :: '\x60' :: '\x60' :: info).takeWhile (· == '\x60') = fenceMark := by
    change (fenceMark ++ info).takeWhile (· == '\x60') = fenceMark
    rw [List.takeWhile_append_of_pos (List.all_eq_true.1 (by decide))]
    cases info with
    | nil => rfl
    | cons c info =>
      rw [List.takeWhile_cons, hnone c (by simp)]
      rfl
  have hany : info.any (· == '\x60') = false :=
    List.any_eq_false.2 fun c hc => by simpa using hnone c hc
  have hdrop : ('\x60' :: '\x60' :: '\x60' :: info).drop fenceMark.length = info := rfl
  have hcontent : (Line.ofText (fenceMark ++ info) ended).content =
      '\x60' :: '\x60' :: '\x60' :: info := Line.content_fenceMark info ended
  unfold fence?
  rw [if_neg (by simp [Line.isCode_fenceMark]), hcontent]
  dsimp only
  rw [hrun, hdrop, hany]
  rfl

/-- A word is no head of a table. -/
theorem tableStart?_fenceMark {info : Text} (hinfo : IsWord info)
    (ended : Bool) (rest : List Line) :
    tableStart? {} (Line.ofText (fenceMark ++ info) ended :: rest) = none := by
  have hbar : (trimSpace (Line.ofText (fenceMark ++ info) ended).content).any (· == '|') = false := by
    rw [Line.content_fenceMark]
    have hword : Text.Within (· ≠ '|') (fenceMark ++ info) :=
      Within.append (within_ne_iff.2 (by decide))
        (within_ne_iff.2 (hinfo.notMem (by decide)))
    exact List.any_eq_false.2 fun c hc => by simpa using hword.trim isSpaceSeparator c hc
  unfold tableStart?
  split
  · rename_i head second more heq
    obtain ⟨rfl, -⟩ := List.cons.inj heq
    split
    · rfl
    · split
      · rfl
      · dsimp only
        rw [hbar]
        rfl
  · rfl

/-- The block of a fence. -/
theorem readBlock_fenced (quoted listed : ReadBlocks) {info : Text} {lines : List Text}
    (ended : Bool) (hinfo : IsWord info)
    (hlines : ∀ l ∈ lines, IsFenceLine l) :
    readBlock quoted listed {} (Line.ofText (fenceMark ++ info) true)
        (lines.map (Line.ofText · true) ++ [Line.ofText fenceMark ended]) =
      { events := [.fence info (lines.flatMap (· ++ ['\n']))], used := lines.length + 2 } := by
  have hdedent : dedentAll 0 (lines.map (Line.ofText · true)) = lines.flatMap (· ++ ['\n']) := by
    rw [dedentAll, List.flatMap_map]
    exact congrArg (List.flatMap · lines) (funext fun l => Line.dedent_zero _)
  have hcolumn : (Line.ofText (fenceMark ++ info) true).column.toNat = 0 := rfl
  rw [readBlock, tableStart?_fenceMark hinfo, Line.isCode_fenceMark, if_neg Bool.false_ne_true,
    fence?_fenceMark hinfo]
  dsimp only
  rw [readFence, fenceLines_fenced ended hlines]
  dsimp only
  rw [hcolumn, hdedent, List.length_map, if_pos rfl, Nat.add_comm 1]

/-- A block that takes all lines is the only one. -/
theorem readBlocks_of_all {quoted listed : ReadBlocks} {scope : Scope} {l : Line}
    {rest : List Line} (fuel : Nat) (sawEmpty : Bool) (hempty : l.isEmpty = false)
    (hreaches : l.isOutdented scope = false)
    (hused : (l :: rest).length ≤ (readBlock quoted listed scope l rest).used) :
    let blocks := readBlocks quoted listed scope (fuel + 1) sawEmpty (l :: rest)
    blocks.events = (readBlock quoted listed scope l rest).events ∧
      blocks.references = (readBlock quoted listed scope l rest).references := by
  have hnone : ∀ sawEmpty, (readBlocks quoted listed scope fuel sawEmpty []).events = [] ∧
      (readBlocks quoted listed scope fuel sawEmpty []).references = [] := by
    intro sawEmpty
    cases fuel <;> exact ⟨rfl, rfl⟩
  have hblank : (l :: rest).takeWhile (·.isEmpty) = [] := by
    rw [List.takeWhile_cons, hempty]
    rfl
  rw [readBlocks, hblank, List.length_nil, List.drop_zero]
  dsimp only
  rw [if_neg (by simp [hreaches]), List.drop_eq_nil_of_le hused]
  exact ⟨by rw [(hnone _).1, List.append_nil], by rw [(hnone _).2, List.append_nil]⟩

/-- A document whose first block takes all of its lines. -/
theorem blocksOf_of_all {source : Text} {l : Line} {rest : List Line} {block : Blocks}
    (hlines : linesOf source = l :: rest) (hempty : l.isEmpty = false)
    (hreaches : l.isOutdented {} = false)
    (hblock : ∀ quoted listed, readBlock quoted listed {} l rest = block)
    (hused : (l :: rest).length ≤ block.used) :
    (blocksOf source).events = block.events ∧
      (blocksOf source).references = block.references := by
  have hread : blocksOf source =
      readBlocks (blocksWithin 19) (blocksWithin 18) {} (rest.length + 1) false (l :: rest) := by
    rw [blocksOf, hlines]
    rfl
  have hblock := hblock (blocksWithin 19) (blocksWithin 18)
  have hall := readBlocks_of_all rest.length false hempty hreaches (hblock ▸ hused)
  rwa [hblock, ← hread] at hall

/-- The lines of a fence, from the opening one to the closing one. -/
theorem linesOf_fenced {info : Text} {lines : List Text} (ended : Bool)
    (hinfo : IsWord info) (hlines : ∀ l ∈ lines, IsFenceLine l) :
    linesOf (fenced info lines ended) = Line.ofText (fenceMark ++ info) true ::
      (lines.map (Line.ofText · true) ++ [Line.ofText fenceMark ended]) := by
  have hmark : IsNormal fenceMark ∧ '\n' ∉ fenceMark := by
    refine ⟨?_, by decide⟩
    exact List.all_iff_forall_prop.1 (by decide)
  have hfirst : IsNormal (fenceMark ++ info) ∧ '\n' ∉ fenceMark ++ info := by
    refine ⟨List.forall_mem_append.2 ⟨hmark.1, fun c hc => ⟨?_, ?_⟩⟩, fun hend => ?_⟩
    · rintro rfl
      exact hinfo.notMem (by decide) hc
    · rintro rfl
      exact hinfo.notMem (by decide) hc
    · exact (List.mem_append.1 hend).elim hmark.2 (hinfo.notMem (by decide))
  have hall : ∀ l ∈ (fenceMark ++ info) :: lines, IsNormal l ∧ '\n' ∉ l :=
    List.forall_mem_cons.2 ⟨hfirst, fun l hl => ⟨(hlines l hl).normal, (hlines l hl).single⟩⟩
  cases ended with
  | true =>
    have hsource : fenced info lines true =
        (((fenceMark ++ info) :: lines) ++ [fenceMark]).flatMap (· ++ ['\n']) ++ [] := by
      simp [fenced]
    rw [hsource, linesOf_lines (List.forall_mem_append.2 ⟨hall, by simpa using hmark⟩)
      ⟨by simp [IsNormal], by simp⟩]
    simp [linesOfPieces]
  | false =>
    have hsource : fenced info lines false =
        ((fenceMark ++ info) :: lines).flatMap (· ++ ['\n']) ++ fenceMark := by
      simp [fenced]
    rw [hsource, linesOf_lines hall hmark]
    rfl

/-- A fence is the only block of its document. -/
theorem events_blocksOf_fenced {info : Text} {lines : List Text} (ended : Bool)
    (hinfo : IsWord info) (hlines : ∀ l ∈ lines, IsFenceLine l) :
    (blocksOf (fenced info lines ended)).events =
      [.fence info (lines.flatMap (· ++ ['\n']))] := by
  refine (blocksOf_of_all (linesOf_fenced ended hinfo hlines) rfl (Line.isOutdented_ofText _ _)
    (fun quoted listed => readBlock_fenced quoted listed ended hinfo hlines) ?_).1
  simp

/-- The events of a document that is a fence. -/
theorem document_fenced {info : Text} {lines : List Text} (ended : Bool)
    (hinfo : IsWord info) (hlines : ∀ l ∈ lines, IsFenceLine l) :
    document (fenced info lines ended) = [.fence info (lines.flatMap (· ++ ['\n']))] := by
  rw [document, events_blocksOf_fenced ended hinfo hlines]
  rfl

end Docpress.Markdown
