import Docpress.Markdown.Document
import Docpress.Proofs.Url.Masked
/-!
What Markdown copies as it stands: code, raw HTML, addresses, and running text that is nested too
deeply to be read. Escapes are not resolved in any of it, so a marker that stands there stays, unless
it is shown again as part of a URL.
-/

namespace Docpress.Markdown

open Text

/-- A stretch of a text that is copied as it stands. -/
inductive Copy where
  /-- Code, raw HTML, or the target or the text of an address. -/
  | verbatim (s : Text)
  /-- Running text that is nested too deeply. -/
  | unread (s : Text)
deriving DecidableEq, Repr

/-- No marker is left of the copy when slashes are shown. Running text may have none before. -/
def Copy.IsClean : Copy → Prop
  | .verbatim s => Url.IsUnmarked (Url.showSlashes s)
  | .unread s => '\\' ∉ s

instance : (copy : Copy) → Decidable copy.IsClean
  | .verbatim s => inferInstanceAs (Decidable (Url.IsUnmarked (Url.showSlashes s)))
  | .unread s => inferInstanceAs (Decidable ('\\' ∉ s))

namespace Reader

/-- The target and the text of the link in angle brackets at the place, or the raw tag there. -/
def angleCopies (r : Reader) : List Text :=
  match angleLinkAt? r.place.rest, rawTagAt? r.place with
  | some (url, inner), _ => [url, Url.display inner]
  | none, some tag => [tag]
  | none, none => []

/-- The target and the text of the bare URL whose scheme has been read, if it becomes a link. -/
def colonCopies (r : Reader) : List Text :=
  if 0 < r.links then []
  else match bareUrlAt? r.pending r.place with
    | some (_, url) => [Url.target url, Url.display url]
    | none => []

/-- What the next step copies, if the character `c` is next. -/
def copied (r : Reader) (c : Char) : List Text :=
  if c == '\x60' then (codeAt r.memo r.place).1.1.toList
  else if c == '<' then r.angleCopies
  else if c == ':' then r.colonCopies
  else []

/-- The link at the place, and what is known after looking for it. -/
def linkHit (refs : References) (room : Nat) (r : Reader) : Option LinkHit × Memo :=
  linkAt? (skipPiece refs r.pending (0 < r.links) (room + 1)) refs r.place r.memo

/-- The image at the place, and what is known after looking for it. -/
def imageHit (refs : References) (room : Nat) (r : Reader) : Option LinkHit × Memo :=
  imageAt? (skipPiece refs r.pending (0 < r.links) (room + 1)) refs r.place r.memo

/-- The reader of the label of a link at the place, before anything is read. -/
def enterLink (refs : References) (room : Nat) (r : Reader) (hit : LinkHit) : Reader :=
  { r with memo := (r.linkHit refs room).2 }.enter hit.label

/-- The reader of the description of an image, before anything is read. -/
def enterImage (hit : LinkHit) : Reader :=
  { place := .start hit.label }

/-- Read the link at the place, or the bracket itself. -/
def readLink (refs : References) (fuel room : Nat) (r : Reader) : Reader :=
  let r' := { r with memo := (r.linkHit refs room).2 }
  match (r.linkHit refs room).1 with
  | some hit => r'.leave hit (Reader.read refs fuel room (r.enterLink refs room hit))
  | none => r'.take 1

/-- Read the image at the place, or the exclamation mark itself. -/
def readImage (refs : References) (fuel room : Nat) (r : Reader) : Reader :=
  let r' := { r with memo := (r.imageHit refs room).2 }
  match (r.imageHit refs room).1 with
  | some hit => r'.pushImage hit (joinTexts (Reader.read refs fuel 20 (enterImage hit)).finish)
  | none => r'.take 1

/-- Take the next step, if the character `c` is next and `rest` follows it. -/
def next (refs : References) (fuel room : Nat) (r : Reader) (c : Char) (rest : Text) : Reader :=
  if c == '\n' then r.readLineEnd rest
  else if c == '\\' then r.readEscape rest
  else if c == '\x60' then r.readCode
  else if c == '*' || c == '_' || c == '~' then r.readMarks c
  else if c == '[' then r.readLink refs fuel room
  else if c == '!' then r.readImage refs fuel room
  else if c == '<' then r.readAngle
  else if c == '&' then r.readReference
  else if c == ':' then r.readColon
  else r.take 1

/-- Reading is taking one step after another. -/
theorem read_cons {refs : References} {fuel room : Nat} {r : Reader} {c : Char} {rest : Text}
    (h : r.place.rest = c :: rest) : Reader.read refs (fuel + 1) (room + 1) r =
      Reader.read refs fuel (room + 1) (r.next refs fuel room c rest) := by
  rw [Reader.read, h]
  unfold next
  dsimp only
  simp only [apply_ite (Reader.read refs fuel (room + 1))]
  refine ite_congr rfl (fun _ => rfl) fun _ => ?_
  refine ite_congr rfl (fun _ => rfl) fun _ => ?_
  refine ite_congr rfl (fun _ => rfl) fun _ => ?_
  refine ite_congr rfl (fun _ => rfl) fun _ => ?_
  refine ite_congr rfl (fun _ => ?_) fun _ => ite_congr rfl (fun _ => ?_) fun _ => rfl
  · unfold readLink
    split
    · rename_i hhit
      rw [show (r.linkHit refs room).1 = _ from hhit]
      rfl
    · rename_i hhit
      rw [show (r.linkHit refs room).1 = _ from hhit]
      rfl
  · unfold readImage
    split
    · rename_i hhit
      rw [show (r.imageHit refs room).1 = _ from hhit]
      rfl
    · rename_i hhit
      rw [show (r.imageHit refs room).1 = _ from hhit]
      rfl

/-- What a step does, by the character that is next. -/
theorem next_cases {refs : References} {fuel room : Nat} {r : Reader} {c : Char} {rest : Text}
    {motive : Reader → Prop} (lineEnd : motive (r.readLineEnd rest))
    (escape : c = '\\' → motive (r.readEscape rest)) (code : c = '\x60' → motive r.readCode)
    (marks : c ≠ '\\' → motive (r.readMarks c))
    (link : c = '[' → motive (r.readLink refs fuel room))
    (image : c = '!' → motive (r.readImage refs fuel room)) (angle : c = '<' → motive r.readAngle)
    (reference : c = '&' → motive r.readReference) (colon : c = ':' → motive r.readColon)
    (other : c ≠ '\\' → motive (r.take 1)) : motive (r.next refs fuel room c rest) := by
  unfold next
  refine iteInduction (fun _ => lineEnd) fun _ => ?_
  refine iteInduction (fun h => escape (eq_of_beq h)) fun hslash => ?_
  have hslash : c ≠ '\\' := fun heq => hslash (beq_iff_eq.2 heq)
  refine iteInduction (fun h => code (eq_of_beq h)) fun _ => ?_
  refine iteInduction (fun _ => marks hslash) fun _ => ?_
  refine iteInduction (fun h => link (eq_of_beq h)) fun _ => ?_
  refine iteInduction (fun h => image (eq_of_beq h)) fun _ => ?_
  refine iteInduction (fun h => angle (eq_of_beq h)) fun _ => ?_
  refine iteInduction (fun h => reference (eq_of_beq h)) fun _ => ?_
  exact iteInduction (fun h => colon (eq_of_beq h)) fun _ => other hslash

/-- What is copied as it stands when a reader reads on with the same fuel and room. -/
def copies (refs : References) : (fuel room : Nat) → Reader → List Copy
  | 0, _, _ => []
  | _, 0, r => [.unread r.place.rest]
  | fuel + 1, room + 1, r =>
    match r.place.rest with
    | [] => []
    | c :: rest =>
      let inner :=
        if c == '[' then
          match (r.linkHit refs room).1 with
          | some hit => copies refs fuel room (r.enterLink refs room hit)
          | none => []
        else if c == '!' then
          match (r.imageHit refs room).1 with
          | some hit => copies refs fuel 20 (enterImage hit)
          | none => []
        else []
      (r.copied c).map .verbatim ++ inner ++
        copies refs fuel (room + 1) (r.next refs fuel room c rest)

end Reader

/-- What is copied of running text. -/
def inlineCopies (refs : References) (s : Text) : List Copy :=
  Reader.copies refs (s.length + 1) maxNesting { place := .start s }

/-- What is copied of an event's text. -/
def Event.copies (refs : References) : Event Text → List Copy
  | .inline source => inlineCopies refs source
  | .code content => [.verbatim content]
  | .fence _ content => [.verbatim content]
  | .html content => [.verbatim content]
  | _ => []

/-- What is copied of a document's text. -/
def copies (source : Text) : List Copy :=
  (blocksOf source).events.flatMap (Event.copies (blocksOf source).references)

/-! ### Copies as parts of the text -/

theorem findRun_within {p : Char → Prop} {n fuel pos rest : Nat} {s code : Text}
    (hs : Within p s) (h : (findRun n fuel pos rest s).1 = some code) : Within p code := by
  induction fuel generalizing pos rest s code with
  | zero => cases h
  | succ fuel ih =>
    have hbefore : Within p (s.takeWhile (· != '\x60')) :=
      hs.of_subset (List.takeWhile_prefix _).subset
    rw [findRun] at h
    dsimp only at h
    split at h
    · cases h
    · split at h
      · obtain rfl := Option.some.inj h
        exact hbefore
      · obtain ⟨more, hmore, rfl⟩ := Option.map_eq_some_iff.1 h
        exact (hbefore.append ((hs.drop _).take _)).append (ih ((hs.drop _).drop _) hmore)

theorem codeContent_within {p : Char → Prop} (hspace : p ' ') {s : Text} (hs : Within p s) :
    Within p (codeContent s) := by
  have hmap : Within p (s.map fun c => if c == '\n' then ' ' else c) := by
    intro c hc
    obtain ⟨d, hd, rfl⟩ := List.mem_map.1 hc
    split
    · exact hspace
    · exact hs d hd
  unfold codeContent
  dsimp only
  split
  · exact (hmap.drop 1).of_subset (List.dropLast_subset _)
  · exact hmap

theorem codeAt_within {p : Char → Prop} (hspace : p ' ') {memo : Memo} {place : Place} {code : Text}
    (hplace : Within p (place.rest ++ place.beyond)) (h : (codeAt memo place).1.1 = some code) :
    Within p code := by
  unfold codeAt at h
  dsimp only at h
  split at h
  · cases h
  · split at h
    · rename_i found hfound
      obtain rfl := Option.some.inj h
      refine codeContent_within hspace (findRun_within ?_ hfound)
      exact hplace.of_subset (List.append_subset.2 ⟨fun c hc =>
        List.mem_append_left _ (List.drop_subset _ _ hc), List.subset_append_right _ _⟩)
    · cases h

/-- Without a code span the backticks themselves are taken. -/
theorem codeAt_none {memo : Memo} {place : Place} (h : (codeAt memo place).1.1 = none) :
    (codeAt memo place).1.2 = runLength place.rest := by
  unfold codeAt at h ⊢
  dsimp only at h ⊢
  split
  · rfl
  · rename_i hknown
    rw [if_neg hknown] at h
    split
    · rename_i heq
      rw [heq] at h
      cases h
    · rfl

theorem rawTagAt?_within {p : Char → Prop} {place : Place} {tag : Text}
    (hplace : Within p (place.rest ++ place.beyond)) (h : rawTagAt? place = some tag) :
    Within p tag := by
  unfold rawTagAt? at h
  split at h
  · split at h
    · obtain ⟨⟨found, rest⟩, hfound, rfl⟩ := Option.map_eq_some_iff.1 h
      obtain ⟨after, -, heq⟩ := Option.map_eq_some_iff.1 hfound
      obtain ⟨rfl, -⟩ := Prod.mk.inj heq
      exact hplace.take _
    · cases h
  · cases h

/-- The text of a link in angle brackets is part of the text, and its target is made of it. -/
theorem angleLinkAt?_within {p : Char → Prop} {s url inner : Text} (hs : Within p s)
    (h : angleLinkAt? s = some (url, inner)) : Within p inner ∧
      (url = Url.target inner ∨ url = Url.target ("mailto:".toList ++ inner)) := by
  unfold angleLinkAt? at h
  split at h
  · rename_i s
    dsimp only at h
    split at h
    · cases h
    · split at h
      · rename_i full hfull
        rw [Option.ite_none_right_eq_some] at h
        obtain ⟨rfl, rfl⟩ := Prod.mk.inj (Option.some.inj h.2)
        refine ⟨(within_cons.1 hs).2.of_subset (List.takeWhile_prefix _).subset, ?_⟩
        split at hfull
        · exact .inl (congrArg Url.target (Option.some.inj hfull).symm)
        · split at hfull
          · exact .inr (congrArg Url.target (Option.some.inj hfull).symm)
          · cases hfull
      · cases h
  · cases h

theorem bareUrlAt?_within {p : Char → Prop} {pending : Text} {place : Place} {name url : Text}
    (hback : Within p place.back) (hplace : Within p (place.rest ++ place.beyond))
    (h : bareUrlAt? pending place = some (name, url)) : Within p url := by
  unfold bareUrlAt? at h
  split at h
  · cases h
  · simp only [Option.bind_eq_bind, Option.bind_eq_some_iff, Option.ite_none_left_eq_some,
      Option.ite_none_right_eq_some] at h
    obtain ⟨scheme, -, kind, -, after, -, -, -, heq⟩ := h
    obtain ⟨-, rfl⟩ := Prod.mk.inj (Option.some.inj heq)
    have hlead : Within p (place.back.take scheme.length).reverse := fun c hc =>
      hback c (List.take_subset _ _ (List.mem_reverse.1 hc))
    rw [List.append_assoc]
    exact ((hlead.append hplace).take _).trimEnd _

end Docpress.Markdown
