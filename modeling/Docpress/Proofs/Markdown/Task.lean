import Docpress.Proofs.Markdown.Copy
import Docpress.Proofs.Markdown.Mark
/-!
The first piece of a text that begins with a bracket is text or a link: the box of a task is never
taken from code or raw HTML.
-/

namespace Docpress.Markdown

/-- The piece is code or raw HTML. -/
def Span.IsCopied : Span → Prop
  | .code _ => True
  | .html _ => True
  | _ => False

/-- The first of the pieces that a reader has, which are in reverse, is no copy. -/
def FirstIsRead (spans : List Span) : Prop :=
  ∀ s, spans.getLast? = some s → ¬ s.IsCopied

theorem FirstIsRead.cons {s : Span} {spans : List Span} (h : FirstIsRead spans)
    (hs : spans = [] → ¬ s.IsCopied) : FirstIsRead (s :: spans) := by
  intro first hfirst
  cases spans with
  | nil =>
    obtain rfl := Option.some.inj hfirst
    exact hs rfl
  | cons t spans =>
    rw [List.getLast?_cons_cons] at hfirst
    exact h first hfirst

theorem FirstIsRead.append {spans : List Span} (h : FirstIsRead spans) (hne : spans ≠ [])
    (more : List Span) : FirstIsRead (more ++ spans) := by
  induction more with
  | nil => exact h
  | cons s more ih => exact ih.cons fun heq => absurd (List.append_eq_nil_iff.1 heq).2 hne

/-- The first piece is no copy, or it is pending. -/
structure Reader.Begun (r : Reader) : Prop where
  first : FirstIsRead r.spans
  pending : r.spans = [] → r.pending ≠ []

namespace Reader

variable {r : Reader}

theorem flush_first (h : FirstIsRead r.spans) : FirstIsRead r.flush.spans := by
  unfold Reader.flush
  split
  · exact h
  · exact h.cons fun _ => id

/-- A piece that is no copy may come first. -/
theorem push_begun (h : FirstIsRead r.spans) {span : Span} (hspan : ¬ span.IsCopied) :
    (r.push span).Begun :=
  ⟨(flush_first h).cons fun _ => hspan, fun heq => by cases heq⟩

namespace Begun

theorem flush_ne_nil (h : r.Begun) : r.flush.spans ≠ [] := by
  unfold Reader.flush
  split
  · rename_i hpending
    exact fun heq => h.pending heq (List.isEmpty_iff.1 hpending)
  · exact List.cons_ne_nil _ _

/-- After what has begun any piece may come. -/
theorem push (h : r.Begun) (span : Span) : (r.push span).Begun :=
  ⟨(flush_first h.first).cons fun heq => absurd heq h.flush_ne_nil, fun heq => by cases heq⟩

theorem advance (h : r.Begun) (n : Nat) : (r.advance n).Begun :=
  ⟨h.first, h.pending⟩

theorem memo (h : r.Begun) (memo : Memo) : Reader.Begun { r with memo } :=
  ⟨h.first, h.pending⟩

theorem links (h : r.Begun) (links : Int) : Reader.Begun { r with links } :=
  ⟨h.first, h.pending⟩

theorem take (h : r.Begun) (n : Nat) : (r.take n).Begun :=
  ⟨h.first, fun heq => List.append_ne_nil_of_right_ne_nil _ (h.pending heq)⟩

theorem pushMarks (h : r.Begun) (written : Text) (mark : Char) (length : Nat)
    (flanks : Bool × Bool) (n : Nat) : (Reader.pushMarks written mark length flanks n r).Begun := by
  induction n generalizing r with
  | zero => exact h
  | succ n ih =>
    have hpush := h.push (.text written)
    exact ih ⟨hpush.first, hpush.pending⟩

theorem readMarks (h : r.Begun) (mark : Char) : (r.readMarks mark).Begun := by
  unfold Reader.readMarks
  dsimp only
  split
  · split
    · exact h.take 1
    · refine (pushMarks ?_ _ _ _ _ _).advance _
      split
      · exact h.push _
      · exact h
  · exact (h.pushMarks _ _ _ _ _).advance _

theorem readLineEnd (h : r.Begun) (rest : Text) : (r.readLineEnd rest).Begun := by
  unfold Reader.readLineEnd
  refine advance ?_ _
  split
  · rename_i pending _
    exact push_begun (r := { r with pending := pending.dropWhile (· == ' ') }) h.first (by nofun)
  · rename_i pending _ _
    exact push_begun (r := { r with pending }) h.first (by nofun)
  · exact h.push _

theorem readEscape (h : r.Begun) (rest : Text) : (r.readEscape rest).Begun := by
  unfold Reader.readEscape
  split
  · exact h.take 1
  · exact (h.push _).advance _
  · exact (h.push _).advance _

theorem readCode (h : r.Begun) : r.readCode.Begun := by
  unfold Reader.readCode
  dsimp only
  split
  · exact ((h.memo _).push _).advance _
  · exact (h.memo _).take _

theorem pushPlainLink (h : FirstIsRead r.spans) (url shown : Text) :
    (r.pushPlainLink url shown).Begun :=
  ((push_begun h id).push _).push _

theorem readAngle (h : r.Begun) : r.readAngle.Begun := by
  unfold Reader.readAngle
  split
  · exact (pushPlainLink h.first _ _).advance _
  · have hpushed := fun tag => (h.push (.html tag)).advance tag.length
    dsimp only
    split
    · exact (hpushed _).links _
    · split
      · exact (hpushed _).links _
      · exact hpushed _
  · exact h.take 1

theorem readReference (h : r.Begun) : r.readReference.Begun := by
  unfold Reader.readReference
  split
  · exact (h.push _).advance _
  · exact h.take 1

theorem readColon (h : r.Begun) : r.readColon.Begun := by
  unfold Reader.readColon
  split
  · exact h.take 1
  · split
    · rename_i name url _
      exact (pushPlainLink (r := { r with pending := r.pending.drop name.length }) h.first _
        _).advance _
    · exact h.take 1

theorem leave (h : FirstIsRead r.spans) (hit : LinkHit) (inner : Reader) :
    (r.leave hit inner).Begun := by
  have hopen : (r.push (.openLink hit.target)).Begun := push_begun h id
  have hcontent : FirstIsRead (inner.finish.reverse ++ (r.push (.openLink hit.target)).spans) :=
    hopen.first.append (List.cons_ne_nil _ _) _
  unfold Reader.leave
  exact (push_begun hcontent id).advance _

theorem next (h : r.Begun) (refs : References) (fuel room : Nat) (c : Char) (rest : Text) :
    (r.next refs fuel room c rest).Begun := by
  apply next_cases
  case lineEnd => exact h.readLineEnd rest
  case escape => exact fun _ => h.readEscape rest
  case code => exact fun _ => h.readCode
  case marks => exact fun _ => h.readMarks c
  case link =>
    intro _
    unfold Reader.readLink
    dsimp only
    split
    · exact leave (h.memo _).first _ _
    · exact (h.memo _).take 1
  case image =>
    intro _
    unfold Reader.readImage
    dsimp only
    split
    · exact ((h.memo _).push _).advance _
    · exact (h.memo _).take 1
  case angle => exact fun _ => h.readAngle
  case reference => exact fun _ => h.readReference
  case colon => exact fun _ => h.readColon
  case other => exact fun _ => h.take 1

theorem read (h : r.Begun) (refs : References) (fuel room : Nat) :
    (Reader.read refs fuel room r).Begun := by
  induction fuel generalizing r with
  | zero => exact h
  | succ fuel ih =>
    cases room with
    | zero => exact h.take _
    | succ room =>
      cases hrest : r.place.rest with
      | nil =>
        rw [Reader.read, hrest]
        exact h
      | cons c rest =>
        rw [read_cons hrest]
        exact ih (h.next refs fuel room c rest)

end Begun

end Reader

end Docpress.Markdown
