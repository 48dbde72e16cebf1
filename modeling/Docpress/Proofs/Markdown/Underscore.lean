import Docpress.Proofs.Markdown.Emphasis
import Docpress.Proofs.Markdown.Paragraph
/-!
Running text in which nothing but underscores has a meaning. Each underscore is a piece and a
delimiter, and whether any emphasis is put in place can be told from the runs of underscores alone.
-/

namespace Docpress.Markdown

open Text

/-! ### Runs of underscores -/

/-- A run of underscores between two characters, with no place among pieces; nothing if it is
    empty. -/
def runAt (before : Char) (length : Nat) (after : Char) : List Delimiter :=
  if length = 0 then []
  else [⟨'_', length, 0, (flanks false before after).1, (flanks false before after).2, none⟩]

/-- The runs of underscores in a text; `length` underscores have just been passed, and `before`
    stands in front of them. -/
def underscoreRuns (before : Char) (length : Nat) : Text → List Delimiter
  | [] => runAt before length ' '
  | c :: s =>
    if c == '_' then underscoreRuns before (length + 1) s
    else runAt before length c ++ underscoreRuns c 0 s

/-- A run of underscores up to where it ends. -/
theorem underscoreRuns_replicate_append {t : Text} (ht : t.head? ≠ some '_')
    (before other : Char) (length n : Nat) :
    underscoreRuns before length (List.replicate n '_' ++ t) =
      runAt before (length + n) (t.headD ' ') ++ underscoreRuns other 0 t := by
  induction n generalizing length with
  | zero =>
    cases t with
    | nil => exact (List.append_nil _).symm
    | cons c t =>
      have hc : (c == '_') = false := by simpa using ht
      rw [List.replicate_zero, List.nil_append, underscoreRuns, underscoreRuns, hc]
      rfl
  | succ n ih =>
    rw [List.replicate_succ, List.cons_append, underscoreRuns, if_pos (beq_self_eq_true _), ih,
      Nat.succ_add_eq_add_succ]

/-- The underscores of a text stand in words: next to each one is a letter, a digit or another
    underscore, with `before` in front of the text and a space behind it. -/
def InWords (before : Char) (s : Text) : Prop :=
  (before :: s ++ [' ']).IsChain fun c d =>
    (c = '_' → d = '_' ∨ d.isAlphanum = true) ∧ (d = '_' → c = '_' ∨ c.isAlphanum = true)

/-- A run between letters or digits opens nothing. -/
theorem opens_of_mem_runAt {before after : Char} {length : Nat}
    (hbefore : length ≠ 0 → before.isAlphanum = true)
    (hafter : length ≠ 0 → after.isAlphanum = true) :
    ∀ d ∈ runAt before length after, d.opens = false := by
  unfold runAt
  split
  · exact List.forall_mem_nil _
  · rename_i hlength
    refine List.forall_mem_singleton.2 ?_
    simp [flanks, isSpaceSeparator_of_isAlphanum, isPunctuationOrSymbol_of_isAlphanum,
      hbefore hlength, hafter hlength]

/-- Underscores in words open nothing; `length` of them have just been passed. -/
theorem opens_of_inWords_passed {before : Char} {length : Nat} {s : Text} (hne : before ≠ '_')
    (hbefore : length ≠ 0 → before.isAlphanum = true)
    (hs : InWords (if length = 0 then before else '_') s) :
    ∀ d ∈ underscoreRuns before length s, d.opens = false := by
  induction s generalizing before length with
  | nil =>
    refine opens_of_mem_runAt hbefore fun hlength => ?_
    rw [if_neg hlength] at hs
    exact absurd ((List.isChain_cons_cons.1 hs).1.1 rfl) (by decide)
  | cons c s ih =>
    obtain ⟨⟨hafter, hfront⟩, htail⟩ := List.isChain_cons_cons.1 hs
    rw [underscoreRuns]
    split
    · rename_i hc
      obtain rfl := eq_of_beq hc
      refine ih hne (fun _ => ?_) htail
      by_cases hlength : length = 0
      · rw [if_pos hlength] at hfront
        exact (hfront rfl).resolve_left hne
      · exact hbefore hlength
    · rename_i hc
      have hc : c ≠ '_' := by simpa using hc
      refine List.forall_mem_append.2 ⟨opens_of_mem_runAt hbefore fun hlength => ?_,
        ih hc (fun h => absurd rfl h) htail⟩
      rw [if_neg hlength] at hafter
      exact (hafter rfl).resolve_left hc

theorem opens_of_inWords {before : Char} {s : Text} (hs : InWords before s) (hne : before ≠ '_') :
    ∀ d ∈ underscoreRuns before 0 s, d.opens = false :=
  opens_of_inWords_passed hne (fun h => absurd rfl h) hs

/-- The delimiter without its place. -/
def Delimiter.unplaced (d : Delimiter) : Delimiter :=
  { d with token := 0 }

/-- The delimiters of a run, given its first one: each stands at the next piece. -/
def Delimiter.run (head : Delimiter) : List Delimiter :=
  (List.range' head.token head.length).map fun token => { head with token }

/-- Runs of underscores, given by their first delimiters, that stand apart from each other at pieces
    from `low` on and before `high`. -/
inductive AreRuns (high : Nat) : (low : Nat) → List Delimiter → Prop where
  | nil {low} : AreRuns high low []
  | cons {low head rest} (mark : head.mark = '_') (stop : head.stop = none)
      (length : 0 < head.length) (first : low ≤ head.token) (last : head.token + head.length ≤ high)
      (later : AreRuns high (head.token + head.length + 1) rest) : AreRuns high low (head :: rest)

namespace AreRuns

variable {low high : Nat} {heads front back : List Delimiter} {head d : Delimiter}

theorem mem_run : d ∈ head.run ↔
    ∃ token, head.token ≤ token ∧ token < head.token + head.length ∧ { head with token } = d := by
  simp [Delimiter.run, List.mem_range'_1, and_assoc]

/-- No run is empty, and all stand where they may. -/
theorem forall_heads (h : AreRuns high low heads) :
    ∀ head ∈ heads, 0 < head.length ∧ low ≤ head.token := by
  induction h with
  | nil => exact List.forall_mem_nil _
  | cons mark stop length first last later ih =>
    refine List.forall_mem_cons.2 ⟨⟨length, first⟩, fun other hother => ?_⟩
    obtain ⟨hlength, htoken⟩ := ih other hother
    exact ⟨hlength, by omega⟩

/-- What is true of each delimiter of the runs. -/
theorem forall_run (h : AreRuns high low heads) : ∀ d ∈ heads.flatMap Delimiter.run,
    d.mark = '_' ∧ d.stop = none ∧ low ≤ d.token ∧ d.token < high := by
  induction h with
  | nil => exact List.forall_mem_nil _
  | cons mark stop length first last _ ih =>
    rw [List.flatMap_cons]
    refine List.forall_mem_append.2 ⟨fun d hd => ?_, fun d hd => ?_⟩
    · obtain ⟨token, hlow, hhigh, rfl⟩ := mem_run.1 hd
      exact ⟨mark, stop, by dsimp only; omega, by dsimp only; omega⟩
    · obtain ⟨hmark, hstop, hlow, hhigh⟩ := ih d hd
      exact ⟨hmark, hstop, by omega, hhigh⟩

/-- The delimiters are in the order of their pieces. -/
theorem pairwise_run (h : AreRuns high low heads) :
    (heads.flatMap Delimiter.run).Pairwise fun a b => a.token < b.token := by
  induction h with
  | nil => exact .nil
  | @cons low head rest mark stop length first last later ih =>
    rw [List.flatMap_cons]
    refine List.pairwise_append.2 ⟨?_, ih, fun a ha b hb => ?_⟩
    · rw [Delimiter.run, List.pairwise_map]
      exact List.pairwise_lt_range'
    · obtain ⟨token, -, hhigh, rfl⟩ := mem_run.1 ha
      have hlow := (later.forall_run b hb).2.2.1
      dsimp only
      omega

/-- Between the runs before a run and the run there is a piece that is no delimiter. -/
theorem token_lt_of_mem_front (h : AreRuns high low (front ++ head :: back)) :
    ∀ d ∈ front.flatMap Delimiter.run, d.token + 1 < head.token := by
  induction front generalizing low with
  | nil => exact List.forall_mem_nil _
  | cons first front ih =>
    cases h with
    | cons mark stop length hfirst last later =>
      rw [List.flatMap_cons]
      refine List.forall_mem_append.2 ⟨fun d hd => ?_, ih later⟩
      obtain ⟨token, -, hhigh, rfl⟩ := mem_run.1 hd
      have hhead := (later.forall_heads head (by simp)).2
      dsimp only
      omega

/-! ### Which runs pair -/

theorem length_run (head : Delimiter) : head.run.length = head.length := by
  rw [Delimiter.run, List.length_map, List.length_range']

/-- A delimiter of a run, counted from where the run begins. -/
theorem getElem?_run (front back : List Delimiter) {i : Nat} (hi : i < head.length) :
    ((front ++ head :: back).flatMap Delimiter.run)[(front.flatMap Delimiter.run).length + i]? =
      some { head with token := head.token + i } := by
  rw [List.flatMap_append, List.getElem?_append_right (Nat.le_add_right _ _),
    Nat.add_sub_cancel_left, List.flatMap_cons,
    List.getElem?_append_left (by rwa [length_run]), Delimiter.run, List.getElem?_map,
    List.getElem?_range' hi, Option.map_some, Nat.one_mul]

/-- Each delimiter belongs to a run. -/
theorem exists_run {k : Nat} (h : (heads.flatMap Delimiter.run)[k]? = some d) :
    ∃ front head back i, heads = front ++ head :: back ∧ i < head.length ∧
      k = (front.flatMap Delimiter.run).length + i := by
  induction heads generalizing k with
  | nil => cases h
  | cons first rest ih =>
    rcases Nat.lt_or_ge k first.length with hlow | hhigh
    · exact ⟨[], first, rest, k, rfl, hlow, (Nat.zero_add k).symm⟩
    · rw [List.flatMap_cons, List.getElem?_append_right (by rwa [length_run]), length_run] at h
      obtain ⟨front, head, back, i, rfl, hi, heq⟩ := ih h
      refine ⟨first :: front, head, back, i, rfl, hi, ?_⟩
      rw [List.flatMap_cons, List.length_append, length_run]
      omega

theorem runStart_run (h : AreRuns high low (front ++ head :: back)) {i : Nat}
    (hi : i < head.length) :
    runStart ((front ++ head :: back).flatMap Delimiter.run).toArray
      ((front.flatMap Delimiter.run).length + i) = (front.flatMap Delimiter.run).length := by
  induction i with
  | zero =>
    cases hlength : (front.flatMap Delimiter.run).length with
    | zero => rfl
    | succ k =>
      have hfirst := getElem?_run front back hi
      have hlast : ∃ d, (front.flatMap Delimiter.run)[k]? = some d :=
        ⟨_, List.getElem?_eq_getElem (by omega)⟩
      obtain ⟨d, hd⟩ := hlast
      have hgap := h.token_lt_of_mem_front d (List.mem_of_getElem? hd)
      have hbefore : ((front ++ head :: back).flatMap Delimiter.run)[k]? = some d := by
        rw [List.flatMap_append, List.getElem?_append_left (by omega), hd]
      rw [hlength] at hfirst
      rw [Nat.add_zero, runStart, List.getElem?_toArray, List.getElem?_toArray, hbefore,
        show k + 1 = k + 1 + 0 from rfl, hfirst, if_neg]
      simp only [Option.map_some, Option.some.injEq]
      omega
  | succ i ih =>
    rw [← Nat.add_assoc, runStart, List.getElem?_toArray, List.getElem?_toArray,
      getElem?_run front back (by omega), Nat.add_assoc, getElem?_run front back hi, if_pos]
    · exact ih (by omega)
    · simp only [Option.map_some, Nat.add_assoc]

/-- Delimiters pair if and only if a run fits an earlier one. -/
theorem hasPair_iff (h : AreRuns high low heads) :
    HasPair (heads.flatMap Delimiter.run) ↔
      ¬ heads.Pairwise fun opener closer => opener.fits closer = false := by
  constructor
  · rintro ⟨k, closer, hcloser, hfits⟩ hpairwise
    refine hfits fun j hj opener hopener => ?_
    obtain ⟨front, head, back, i, rfl, hi, rfl⟩ := exists_run hcloser
    rw [h.runStart_run hi] at hj
    rw [getElem?_run front back hi, Option.some.injEq] at hcloser
    rw [List.getElem?_toArray, List.flatMap_append, List.getElem?_append_left hj] at hopener
    obtain ⟨first, hfirst, hmem⟩ := List.mem_flatMap.1 (List.mem_of_getElem? hopener)
    obtain ⟨token, -, -, rfl⟩ := mem_run.1 hmem
    rw [← hcloser]
    exact (List.pairwise_append.1 hpairwise).2.2 first hfirst head (by simp)
  · intro hpairwise
    rw [List.pairwise_iff_getElem] at hpairwise
    simp only [not_forall, Bool.not_eq_false] at hpairwise
    obtain ⟨i, j, hi, hj, hlt, hfits⟩ := hpairwise
    have hsplit : heads = heads.take j ++ heads[j] :: heads.drop (j + 1) := by
      rw [List.getElem_cons_drop, List.take_append_drop]
    have hfront : heads[i] ∈ heads.take j := List.mem_take_iff_getElem.2 ⟨i, by omega, rfl⟩
    have hmem : heads[i] ∈ (heads.take j).flatMap Delimiter.run := by
      have hlength := (h.forall_heads heads[i] (List.getElem_mem hi)).1
      exact List.mem_flatMap.2 ⟨_, hfront, mem_run.2 ⟨heads[i].token, by omega, by omega, rfl⟩⟩
    obtain ⟨place, hplace⟩ := List.mem_iff_getElem?.1 hmem
    obtain ⟨hbefore, -⟩ := List.getElem?_eq_some_iff.1 hplace
    have hclosers := (h.forall_heads heads[j] (List.getElem_mem hj)).1
    rw [hsplit] at h ⊢
    refine ⟨_, _, getElem?_run (heads.take j) (heads.drop (j + 1)) hclosers, fun hnone => ?_⟩
    rw [h.runStart_run hclosers] at hnone
    have hopener := hnone place hbefore heads[i] (by
      rw [List.getElem?_toArray, List.flatMap_append, List.getElem?_append_left hbefore, hplace])
    exact Bool.false_ne_true (hopener.symm.trans hfits)

end AreRuns

/-! ### Reading -/

namespace Reader

variable {r : Reader} {s : Text}

theorem flush_of_pending (h : r.pending = []) : r.flush = r := by
  rw [flush, h]
  rfl

/-- The text that pending characters are made. -/
def pendingPieces (pending : Text) : List Text :=
  if pending.isEmpty then [] else [pending.reverse]

theorem map_pendingPieces (pending : Text) :
    (pendingPieces pending).map .text = pendingSpans pending := by
  unfold pendingPieces pendingSpans
  split <;> rfl

theorem flatten_pendingPieces (pending : Text) :
    (pendingPieces pending).flatten = pending.reverse := by
  unfold pendingPieces
  split
  · rename_i hempty
    rw [List.isEmpty_iff.1 hempty]
    rfl
  · simp

theorem count_flush (r : Reader) :
    r.flush.count = r.count + (pendingPieces r.pending).length := by
  unfold flush pendingPieces
  split <;> rfl

/-- What a mark adds to what has been read. -/
theorem pushMark_eq (r : Reader) (written : Text) (mark : Char) (length : Nat)
    (flanks : Bool × Bool) :
    r.pushMark written mark length flanks = { r.flush with
      spans := .text written :: r.flush.spans, count := r.flush.count + 1
      delimiters := ⟨mark, length, r.flush.count, flanks.1, flanks.2, none⟩ :: r.delimiters } := by
  rw [pushMark, push]
  simp

/-- What a run of marks adds to what has been read. -/
theorem pushMarks_eq (r : Reader) (written : Text) (mark : Char) (length : Nat)
    (flanks : Bool × Bool) (n : Nat) :
    pushMarks written mark length flanks (n + 1) r = { r.flush with
      spans := List.replicate (n + 1) (.text written) ++ r.flush.spans
      count := r.flush.count + (n + 1)
      delimiters := ((List.range' r.flush.count (n + 1)).map fun token =>
        ⟨mark, length, token, flanks.1, flanks.2, none⟩).reverse ++ r.delimiters } := by
  have hnext := r.pushMark_eq written mark length flanks
  induction n generalizing r with
  | zero =>
    rw [pushMarks, pushMarks, hnext]
    rfl
  | succ n ih =>
    have hflush : (r.pushMark written mark length flanks).flush =
        r.pushMark written mark length flanks :=
      flush_of_pending (by rw [hnext]; exact r.pending_flush)
    rw [pushMarks, ih _ (pushMark_eq _ _ _ _ _), hflush, hnext, List.range'_succ (n := n + 1)]
    simp only [List.map_cons, List.reverse_cons, List.append_assoc, List.singleton_append,
      List.replicate_succ' (n := n + 1), Nat.add_assoc, Nat.add_comm 1]

/-- The run of underscores at the place. -/
theorem readMarks_underscore {n : Nat} {t : Text}
    (hrest : r.place.rest = List.replicate n '_' ++ t) (ht : t.head? ≠ some '_') :
    r.readMarks '_' = (pushMarks ['_'] '_' n
      (flanks false (r.place.back.headD ' ') (t.headD ' ')) n r).advance n := by
  have hrun : (r.place.rest.takeWhile (· == '_')).length = n := by
    have hstop : t.takeWhile (· == '_') = [] := by
      cases t with
      | nil => rfl
      | cons c t => exact List.takeWhile_cons_of_neg (by simpa using ht)
    rw [hrest, List.takeWhile_append_of_pos (by simp), hstop, List.append_nil,
      List.length_replicate]
  have hafter : r.place.rest.drop n = t := by
    rw [hrest, List.drop_left' List.length_replicate]
  unfold readMarks
  dsimp only
  rw [hrun, hafter]
  rfl

/-- The underscores at the start of a text. -/
theorem exists_replicate_append (s : Text) :
    ∃ n t, s = List.replicate n '_' ++ t ∧ t.head? ≠ some '_' := by
  induction s with
  | nil => exact ⟨0, [], rfl, by simp⟩
  | cons c s ih =>
    by_cases hc : c = '_'
    · obtain ⟨n, t, rfl, ht⟩ := ih
      exact ⟨n + 1, t, by rw [hc]; rfl, ht⟩
    · exact ⟨0, c :: s, rfl, by simpa using hc⟩

/-- What reading has added: pieces of text, and runs of underscores among them. -/
structure Adds (r out : Reader) (pieces : List Text) (heads : List Delimiter) : Prop where
  spans : out.flush.spans.reverse = r.spans.reverse ++ pieces.map .text
  delimiters : out.delimiters.reverse = r.delimiters.reverse ++ heads.flatMap Delimiter.run

theorem Adds.trans {next out : Reader} {pieces more : List Text} {heads later : List Delimiter}
    (h : r.Adds next pieces heads) (hpending : next.pending = []) (h' : next.Adds out more later) :
    r.Adds out (pieces ++ more) (heads ++ later) where
  spans := by
    have hspans := h.spans
    rw [flush_of_pending hpending] at hspans
    rw [h'.spans, hspans, List.map_append, List.append_assoc]
  delimiters := by
    rw [h'.delimiters, h.delimiters, List.flatMap_append, List.append_assoc]

/-- The delimiter that a run of underscores begins with. -/
def runHead (r : Reader) (length : Nat) (t : Text) : Delimiter :=
  let flanks := flanks false (r.place.back.headD ' ') (t.headD ' ')
  ⟨'_', length, r.flush.count, flanks.1, flanks.2, none⟩

/-- What the run of underscores at the place adds. -/
theorem adds_readMarks {n : Nat} {t : Text}
    (hrest : r.place.rest = List.replicate (n + 1) '_' ++ t) (ht : t.head? ≠ some '_') :
    r.Adds (r.readMarks '_') (pendingPieces r.pending ++ List.replicate (n + 1) ['_'])
        [r.runHead (n + 1) t] ∧
      (r.readMarks '_').place.rest = t ∧ (r.readMarks '_').pending = [] ∧
      (r.readMarks '_').count = r.flush.count + (n + 1) := by
  have hpending : (r.readMarks '_').pending = [] := by
    rw [readMarks_underscore hrest ht, pushMarks_eq]
    exact r.pending_flush
  refine ⟨⟨?_, ?_⟩, ?_, hpending, ?_⟩
  · rw [flush_of_pending hpending, readMarks_underscore hrest ht, pushMarks_eq, List.map_append,
      map_pendingPieces, ← List.append_assoc, ← r.spans_flush]
    simp [advance]
  · rw [readMarks_underscore hrest ht, pushMarks_eq]
    simp [advance, Delimiter.run, runHead]
  · have hlength : (List.replicate (n + 1) '_').length = n + 1 := List.length_replicate
    rw [readMarks_underscore hrest ht, pushMarks_eq]
    change r.flush.place.rest.drop (n + 1) = t
    rw [place_flush, hrest, List.drop_left' hlength]
  · rw [readMarks_underscore hrest ht, pushMarks_eq]
    rfl

/-- The text is read as pieces, and its runs of underscores, with `before` in front of the text,
    stand among them. In front of the first run there is a piece unless the text begins with the run. -/
def ReadsRuns (r out : Reader) (before : Char) (s : Text) : Prop :=
  ∃ pieces heads, r.Adds out pieces heads ∧ pieces.flatten = r.pending.reverse ++ s ∧
    heads.map Delimiter.unplaced = underscoreRuns before 0 s ∧
    AreRuns (r.count + pieces.length)
      (r.count + if r.pending = [] ∧ s.head? = some '_' then 0 else 1) heads

theorem ReadsRuns.nil (r : Reader) (before : Char) : r.ReadsRuns r before [] := by
  refine ⟨pendingPieces r.pending, [], ⟨?_, ?_⟩, ?_, rfl, .nil⟩
  · rw [r.spans_flush, map_pendingPieces]
  · simp
  · rw [flatten_pendingPieces, List.append_nil]

/-- A run of underscores, and what is read behind it. -/
theorem ReadsRuns.marks {out : Reader} {n : Nat} {t : Text} {other : Char}
    (hrest : r.place.rest = List.replicate (n + 1) '_' ++ t) (ht : t.head? ≠ some '_')
    (h : (r.readMarks '_').ReadsRuns out other t) :
    r.ReadsRuns out (r.place.back.headD ' ') (List.replicate (n + 1) '_' ++ t) := by
  obtain ⟨hmarks, -, hpending, hcount⟩ := adds_readMarks hrest ht
  obtain ⟨pieces, heads, hadds, hflat, hruns, hplaced⟩ := h
  refine ⟨_, _, hmarks.trans hpending hadds, ?_, ?_, ?_⟩
  · rw [List.flatten_append, List.flatten_append, flatten_pendingPieces, hflat, hpending]
    simp
  · rw [underscoreRuns_replicate_append ht _ other, ← hruns]
    simp [runAt, runHead, Delimiter.unplaced]
  · have htoken : (r.runHead (n + 1) t).token =
        r.count + (pendingPieces r.pending).length := r.count_flush
    have hhigh : r.count + (pendingPieces r.pending ++ List.replicate (n + 1) ['_'] ++
        pieces).length = r.flush.count + (n + 1) + pieces.length := by
      simp only [r.count_flush, List.length_append, List.length_replicate, Nat.add_assoc]
    rw [hpending, if_neg (by simp [ht]), hcount, ← hhigh] at hplaced
    refine .cons rfl rfl (Nat.succ_pos n) ?_ ?_ hplaced
    · rw [htoken, pendingPieces]
      cases r.pending <;> simp [List.replicate_succ]
    · rw [hhigh]
      exact Nat.le_add_right _ _

/-- A character that is taken as it is, and what is read behind it. -/
theorem ReadsRuns.taken {out : Reader} {c : Char} (hrest : r.place.rest = c :: s) (hc : c ≠ '_')
    (h : (r.take 1).ReadsRuns out c s) (before : Char) : r.ReadsRuns out before (c :: s) := by
  obtain ⟨pieces, heads, hadds, hflat, hruns, hplaced⟩ := h
  have hpending := pending_take_one hrest
  refine ⟨pieces, heads, ⟨hadds.spans, hadds.delimiters⟩, ?_, ?_, ?_⟩
  · rw [hflat, hpending]
    simp
  · rw [underscoreRuns, if_neg (by simpa using hc)]
    exact hruns
  · rw [hpending, if_neg (by simp)] at hplaced
    rw [if_neg (by simp [hc])]
    exact hplaced

/-- Reading a text in which nothing but underscores has a meaning. -/
theorem readsRuns_read (refs : References) (hs : ∀ c ∈ s, c = '_' ∨ c ∉ inlineMarks ∧ c ≠ ':')
    (hrest : r.place.rest = s) {before : Char}
    (hbefore : s.head? = some '_' → r.place.back.headD ' ' = before) {fuel : Nat}
    (hfuel : s.length ≤ fuel) (room : Nat) :
    r.ReadsRuns (read refs fuel (room + 1) r) before s := by
  induction hlength : s.length using Nat.strongRecOn generalizing s r before fuel with
  | _ _ ih =>
    cases s with
    | nil =>
      have hread : read refs fuel (room + 1) r = r := by
        cases fuel with
        | zero => rfl
        | succ fuel => rw [read, hrest]
      rw [hread]
      exact .nil r before
    | cons c s =>
      obtain ⟨hc, htail⟩ := List.forall_mem_cons.1 hs
      rw [List.length_cons] at hfuel hlength
      obtain ⟨fuel, rfl⟩ : ∃ n, fuel = n + 1 := ⟨fuel - 1, by omega⟩
      by_cases hmark : c = '_'
      · subst hmark
        obtain ⟨n, t, rfl, ht⟩ := exists_replicate_append s
        have hread : read refs (fuel + 1) (room + 1) r =
            read refs fuel (room + 1) (r.readMarks '_') := by
          rw [read, hrest]
          rfl
        obtain ⟨-, hnext, -⟩ := adds_readMarks (n := n) hrest ht
        rw [List.length_append] at hfuel hlength
        have htail : ∀ c ∈ t, c = '_' ∨ c ∉ inlineMarks ∧ c ≠ ':' :=
          fun c hc => htail c (List.mem_append_right _ hc)
        have hlater : (r.readMarks '_').ReadsRuns (read refs fuel (room + 1) (r.readMarks '_'))
            ' ' t :=
          ih t.length (by omega) htail hnext (fun h => absurd h ht) (by omega) rfl
        rw [hread, ← hbefore rfl]
        exact .marks hrest ht hlater
      · obtain ⟨hc, hcolon⟩ := hc.resolve_left hmark
        have hback : s.head? = some '_' → (r.take 1).place.back.headD ' ' = c := by
          intro _
          simp [take, advance, Place.advance, hrest]
        rw [read_taken hrest hc (fun heq => absurd heq hcolon)]
        exact .taken hrest hmark (ih s.length (by omega) htail (rest_take_one hrest) hback
          (Nat.le_of_succ_le_succ hfuel) rfl) before

end Reader

end Docpress.Markdown
