import Docpress.Markdown.Html
import Docpress.Proofs.Html.Escape
import Docpress.Proofs.Markdown.BareLink
import Docpress.Proofs.Markdown.Fence
/-!
A paragraph in which Markdown finds nothing to do. Its characters stand for themselves, and a
backslash before an underscore keeps the underscore from being emphasis and is dropped.
-/

namespace Docpress.Markdown

open Text

/-- The character stands for itself wherever it is in running text that has no slashes. -/
def isQuiet (c : Char) : Bool :=
  c.isAlphanum || [' ', '.', ':', '#', '-', '"', '{', '}', '@'].contains c

/-- What has a meaning of its own wherever it is in running text. -/
def inlineMarks : Text :=
  ['\n', '\\', '\x60', '*', '_', '~', '[', '!', '<', '&']

/-- A text of quiet characters and escaped underscores, and the text that it stands for. -/
inductive Reads : (written shown : Text) → Prop where
  | nil : Reads [] []
  | char {c s t} (hc : isQuiet c = true) (h : Reads s t) : Reads (c :: s) (c :: t)
  | escape {s t} (h : Reads s t) : Reads ('\\' :: '_' :: s) ('_' :: t)

theorem Reads.append {s t s' t' : Text} (h : Reads s t) (h' : Reads s' t') :
    Reads (s ++ s') (t ++ t') := by
  induction h with
  | nil => exact h'
  | char hc _ ih => exact .char hc ih
  | escape _ ih => exact .escape ih

/-- Quiet characters stand for themselves. -/
theorem reads_of_isQuiet {s : Text} (h : ∀ c ∈ s, isQuiet c = true) : Reads s s := by
  induction s with
  | nil => exact .nil
  | cons c s ih =>
    obtain ⟨hc, hs⟩ := List.forall_mem_cons.1 h
    exact .char hc (ih hs)

theorem isQuiet_ne {c : Char} (hc : isQuiet c = true) {d : Char} (hd : isQuiet d = false) :
    c ≠ d := by
  rintro rfl
  exact Bool.false_ne_true (hd.symm.trans hc)

/-- A character that is neither quiet nor part of an escape is not written. -/
theorem Reads.notMem {s t : Text} (h : Reads s t) {c : Char} (hc : isQuiet c = false)
    (hslash : c ≠ '\\') (hunderscore : c ≠ '_') : c ∉ s := by
  induction h with
  | nil => exact List.not_mem_nil
  | char hd _ ih => exact List.not_mem_cons_of_ne_of_not_mem (isQuiet_ne hd hc).symm ih
  | escape _ ih =>
    exact List.not_mem_cons_of_ne_of_not_mem hslash
      (List.not_mem_cons_of_ne_of_not_mem hunderscore ih)

/-- Nor is it shown. -/
theorem Reads.notMem_shown {s t : Text} (h : Reads s t) {c : Char} (hc : isQuiet c = false)
    (hunderscore : c ≠ '_') : c ∉ t := by
  induction h with
  | nil => exact List.not_mem_nil
  | char hd _ ih => exact List.not_mem_cons_of_ne_of_not_mem (isQuiet_ne hd hc).symm ih
  | escape _ ih => exact List.not_mem_cons_of_ne_of_not_mem hunderscore ih

/-- Only ASCII characters are written. -/
theorem Reads.ascii {s t : Text} (h : Reads s t) : ∀ c ∈ s, c.toNat < 128 := by
  have hquiet : ∀ c, isQuiet c = true → c.toNat < 128 := by
    intro c hc
    simp only [isQuiet, Bool.or_eq_true, List.contains_iff_mem] at hc
    rcases hc with hc | hc
    · obtain ⟨-, hhigh⟩ := toNat_of_isAlphanum hc
      omega
    · have hall : ∀ c ∈ [' ', '.', ':', '#', '-', '"', '{', '}', '@'], Char.toNat c < 128 :=
        List.all_iff_forall_prop.1 (by decide)
      exact hall c hc
  induction h with
  | nil => exact List.forall_mem_nil _
  | char hc _ ih => exact List.forall_mem_cons.2 ⟨hquiet _ hc, ih⟩
  | escape _ ih =>
    exact List.forall_mem_cons.2 ⟨by decide, List.forall_mem_cons.2 ⟨by decide, ih⟩⟩

/-! ### Reading it -/

namespace Reader

variable {refs : References} {r : Reader} {s t : Text}

/-- No bare URL is found at a colon without slashes after it. -/
theorem readColon_eq_take (hslash : '/' ∉ r.place.rest) : r.readColon = r.take 1 := by
  have hnone : bareUrlAt? r.pending r.place = none := by
    have hstarts : startsWith r.place.rest "://".toList = false := by
      cases hstarts : startsWith r.place.rest "://".toList with
      | false => rfl
      | true =>
        obtain ⟨rest, hrest⟩ := startsWith_iff.1 hstarts
        exact absurd (by rw [hrest]; simp) hslash
    rw [bareUrlAt?, hstarts]
    rfl
  unfold readColon
  rw [hnone]
  split <;> rfl

/-- A character without a meaning of its own is taken as it is, and so is a colon without a URL. -/
theorem read_taken {c : Char} (hrest : r.place.rest = c :: s) (hc : c ∉ inlineMarks)
    (hcolon : c = ':' → r.readColon = r.take 1) (fuel room : Nat) :
    read refs (fuel + 1) (room + 1) r = read refs fuel (room + 1) (r.take 1) := by
  simp only [inlineMarks, List.mem_cons, List.not_mem_nil, or_false, not_or, ← beq_eq_false_iff_ne]
    at hc
  rw [read, hrest]
  dsimp only
  simp only [hc, Bool.false_eq_true, if_false, Bool.or_self]
  split
  · rename_i heq
    rw [hcolon (eq_of_beq heq)]
  · rfl

/-- A quiet character is taken as it is. -/
theorem read_quiet {c : Char} (hrest : r.place.rest = c :: s) (hc : isQuiet c = true)
    (hslash : '/' ∉ c :: s) (fuel room : Nat) :
    read refs (fuel + 1) (room + 1) r = read refs fuel (room + 1) (r.take 1) := by
  have hmarks : ∀ d ∈ inlineMarks, isQuiet d = false := List.all_iff_forall_prop.1 (by decide)
  exact read_taken hrest (fun hmem => Bool.false_ne_true ((hmarks c hmem).symm.trans hc))
    (fun _ => readColon_eq_take (hrest ▸ hslash)) fuel room

theorem pending_take_one {c : Char} (hrest : r.place.rest = c :: s) :
    (r.take 1).pending = c :: r.pending := by
  simp [take, advance, hrest]

theorem rest_take_one {c : Char} (hrest : r.place.rest = c :: s) : (r.take 1).place.rest = s := by
  simp [take, advance, Place.advance, hrest]

/-- An escaped underscore becomes a piece of its own. -/
theorem read_escaped (hrest : r.place.rest = '\\' :: '_' :: s) (fuel room : Nat) :
    read refs (fuel + 1) (room + 1) r =
      read refs fuel (room + 1) ((r.push (.literal ['_'])).advance 2) := by
  rw [read, hrest]
  rfl

end Reader

/-- The piece that pending characters, given in reverse, are made. -/
def pendingSpans (pending : Text) : List Span :=
  if pending.isEmpty then [] else [.text pending.reverse]

/-- The pieces of a text of quiet characters and escapes; what is pending comes first. -/
def quietSpans (pending : Text) : Text → List Span
  | '\\' :: c :: s => pendingSpans pending ++ .literal [c] :: quietSpans [] s
  | c :: s => quietSpans (c :: pending) s
  | [] => pendingSpans pending

@[simp] theorem Reader.place_flush (r : Reader) : r.flush.place = r.place := by
  unfold Reader.flush
  split <;> rfl

@[simp] theorem Reader.delimiters_flush (r : Reader) : r.flush.delimiters = r.delimiters := by
  unfold Reader.flush
  split <;> rfl

@[simp] theorem Reader.pending_flush (r : Reader) : r.flush.pending = [] := by
  unfold Reader.flush
  split
  · rename_i h
    exact List.isEmpty_iff.1 h
  · rfl

theorem Reader.spans_flush (r : Reader) :
    r.flush.spans.reverse = r.spans.reverse ++ pendingSpans r.pending := by
  unfold Reader.flush pendingSpans
  split <;> simp

theorem quietSpans_char {c : Char} (hc : isQuiet c = true) (pending s : Text) :
    quietSpans pending (c :: s) = quietSpans (c :: pending) s := by
  rw [quietSpans.eq_2]
  rintro d rest rfl
  exact absurd rfl (isQuiet_ne hc (by decide))

/-- The reader makes these pieces, and no delimiters. -/
theorem Reader.read_of_reads {refs : References} {s t : Text} (h : Reads s t) {r : Reader}
    (hrest : r.place.rest = s) (hslash : '/' ∉ s) {fuel : Nat} (hfuel : s.length ≤ fuel)
    (room : Nat) :
    let out := Reader.read refs fuel (room + 1) r
    out.delimiters = r.delimiters ∧
      out.flush.spans.reverse = r.spans.reverse ++ quietSpans r.pending s := by
  induction h generalizing r fuel with
  | nil =>
    have hread : Reader.read refs fuel (room + 1) r = r := by
      cases fuel with
      | zero => rfl
      | succ fuel =>
        rw [Reader.read, hrest]
    rw [hread]
    exact ⟨rfl, r.spans_flush⟩
  | @char c s t hc h ih =>
    obtain ⟨fuel, rfl⟩ : ∃ n, fuel = n + 1 := ⟨fuel - 1, by rw [List.length_cons] at hfuel; omega⟩
    rw [Reader.read_quiet hrest hc hslash, quietSpans_char hc, ← Reader.pending_take_one hrest]
    exact ih (Reader.rest_take_one hrest) (fun hmem => hslash (List.mem_cons_of_mem _ hmem)) (by simpa using hfuel)
  | @escape s t h ih =>
    obtain ⟨fuel, rfl⟩ : ∃ n, fuel = n + 1 := ⟨fuel - 1, by rw [List.length_cons] at hfuel; omega⟩
    have hnext : ((r.push (.literal ['_'])).advance 2).place.rest = s := by
      simp [Reader.push, Reader.advance, Place.advance, hrest]
    have hpending : ((r.push (.literal ['_'])).advance 2).pending = [] := r.pending_flush
    have hdelimiters : ((r.push (.literal ['_'])).advance 2).delimiters = r.delimiters :=
      r.delimiters_flush
    have hspans : ((r.push (.literal ['_'])).advance 2).spans.reverse =
        r.spans.reverse ++ pendingSpans r.pending ++ [.literal ['_']] := by
      rw [← r.spans_flush]
      exact List.reverse_cons
    have hslash' : '/' ∉ s := fun hmem =>
      hslash (List.mem_cons_of_mem _ (List.mem_cons_of_mem _ hmem))
    have hfuel' : s.length ≤ fuel := by
      rw [List.length_cons, List.length_cons] at hfuel
      omega
    obtain ⟨hout, hflush⟩ := ih hnext hslash' hfuel'
    rw [Reader.read_escaped hrest]
    refine ⟨hout.trans hdelimiters, ?_⟩
    rw [hflush, hspans, hpending, quietSpans, List.append_assoc, List.append_assoc]
    rfl

/-- No two of the pieces that follow each other are texts. -/
theorem joinTexts_quietSpans {s t : Text} (h : Reads s t) (pending : Text) :
    joinTexts (quietSpans pending s) = quietSpans pending s := by
  induction h generalizing pending with
  | nil =>
    rw [quietSpans, pendingSpans]
    split <;> rfl
  | char hc _ ih =>
    rw [quietSpans_char hc]
    exact ih _
  | escape _ ih =>
    rw [quietSpans, pendingSpans]
    split
    · simp [joinTexts, ih]
    · simp [joinTexts, ih]

/-- The running text is read as these pieces. -/
theorem inlineSpans_of_reads (refs : References) {s t : Text} (h : Reads s t) (hslash : '/' ∉ s) :
    inlineSpans refs s = quietSpans [] s := by
  have hfinish : (Reader.read refs (s.length + 1) maxNesting { place := .start s }).finish =
      quietSpans [] s := by
    have hstart : (Place.start s).rest = s := rfl
    obtain ⟨hdelimiters, hspans⟩ :=
      Reader.read_of_reads h (r := { place := .start s }) hstart hslash
        (Nat.le_add_right s.length 1) 19
    rw [Reader.finish, Reader.delimiters_flush]
    rw [show maxNesting = 19 + 1 from rfl, hspans, hdelimiters]
    rfl
  rw [inlineSpans, hfinish, joinTexts_quietSpans h]

/-! ### Addresses -/

/-- The piece is no link, and no address is found in it. -/
def Span.IsLinkless : Span → Prop
  | .text s => BareLink.findAll s = []
  | .literal _ => True
  | _ => False

/-- Pieces without addresses stay as they are. -/
theorem linkSpans_of_isLinkless {spans : List Span} (h : ∀ span ∈ spans, span.IsLinkless)
    (before : Option Span) : linkSpans before spans = (spans, {}) := by
  induction spans generalizing before with
  | nil => rfl
  | cons span rest ih =>
    obtain ⟨hspan, hrest⟩ := List.forall_mem_cons.1 h
    cases span with
    | text s =>
      have hnone : linkAddresses before s = [.text s] := by
        rw [linkAddresses, show BareLink.findAll s = [] from hspan]
      rw [linkSpans, ih hrest]
      simp [hnone]
    | literal s =>
      rw [linkSpans, ih hrest]
      rfl
    | _ => exact absurd hspan id

/-- The texts among the pieces are parts of the text that was read. -/
theorem quietSpans_isLinkless {s t : Text} (h : Reads s t) {pending : Text}
    (haddress : BareLink.IsAddressless (pending.reverse ++ s)) :
    ∀ span ∈ quietSpans pending s, span.IsLinkless := by
  have hpending : ∀ {pending rest : Text}, BareLink.IsAddressless (pending.reverse ++ rest) →
      ∀ span ∈ pendingSpans pending, span.IsLinkless := by
    intro pending rest haddress span hspan
    unfold pendingSpans at hspan
    split at hspan
    · cases hspan
    · rw [List.mem_singleton.1 hspan]
      exact BareLink.findAll_eq_nil haddress.left_of_append
  induction h generalizing pending with
  | nil =>
    rw [quietSpans]
    exact hpending haddress
  | char hc _ ih =>
    rw [quietSpans_char hc]
    exact ih (by simpa using haddress)
  | escape _ ih =>
    rw [quietSpans]
    refine List.forall_mem_append.2 ⟨hpending haddress, List.forall_mem_cons.2 ⟨trivial, ?_⟩⟩
    exact ih haddress.right_of_append.tail.tail

theorem Span.write_text (breaks : Bool) (s : Text) :
    Span.write breaks (.text s) = Html.escape s := rfl

theorem Span.write_literal (breaks : Bool) (s : Text) :
    Span.write breaks (.literal s) = Html.escape s := rfl

/-- What the pieces are written as: the text that is stood for, escaped. -/
theorem flatMap_write_quietSpans (breaks : Bool) {s t : Text} (h : Reads s t) (pending : Text) :
    (quietSpans pending s).flatMap (Span.write breaks) = Html.escape (pending.reverse ++ t) := by
  have hpending : ∀ pending, (pendingSpans pending).flatMap (Span.write breaks) =
      Html.escape pending.reverse := by
    intro pending
    unfold pendingSpans
    split
    · rename_i hempty
      rw [List.isEmpty_iff.1 hempty]
      rfl
    · rw [List.flatMap_cons, List.flatMap_nil, List.append_nil, Span.write_text]
  induction h generalizing pending with
  | nil => rw [quietSpans, hpending, List.append_nil]
  | char hc _ ih =>
    rw [quietSpans_char hc, ih, List.reverse_cons, List.append_assoc, List.singleton_append]
  | escape _ ih =>
    rw [quietSpans, List.flatMap_append, List.flatMap_cons, hpending, ih, Span.write_literal,
      List.reverse_nil, List.nil_append, ← Html.escape_append, ← Html.escape_append,
      List.singleton_append]

/-- Quiet text without addresses, as it is read: the pieces of its characters and no links. -/
theorem readText_of_reads (refs : References) {s t : Text} (h : Reads s t)
    (haddress : BareLink.IsAddressless s) : readText refs s = quietSpans [] s := by
  rw [readText, withAddresses, inlineSpans_of_reads refs h haddress.noSlash]
  split
  · have hlinkless : ∀ span ∈ quietSpans [] s, span.IsLinkless :=
      quietSpans_isLinkless h haddress
    rw [linkSpans_of_isLinkless hlinkless]
  · rfl

end Docpress.Markdown
