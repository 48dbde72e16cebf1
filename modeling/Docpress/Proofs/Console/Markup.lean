import Docpress.Console.Markup
/-!
Which texts can be shown as markup. Only tags matter for that: each closing tag needs something to
close. So a message can be shown exactly if the values in it can, for it closes the tags of its own
before it gives them.
-/

namespace Docpress.Console

/-- The text can be shown as markup. -/
def Prints (markup : Text) : Prop :=
  ∃ shown, printed markup = .ok shown

/-- The piece is a tag. -/
def Piece.isTag : Piece → Bool
  | .text _ => false
  | _ => true

/-- The open tags after a tag. -/
def takeTag (tags : List OpenTag) : Piece → Except MarkupError (List OpenTag)
  | .text _ => .ok tags
  | .opening name parameters => do return ⟨← normalName name, parameters⟩ :: tags
  | .closing [] =>
    match tags with
    | [] => .error .nothingOpen
    | tag :: tags => do
      tag.check
      return tags
  | .closing (c :: name) => do
    let name ← normalName (c :: name)
    match closeNamed? name tags with
    | none => .error (.notOpen name)
    | some (tag, tags) => do
      tag.check
      return tags

/-- The tags of a text, some characters of which are to be passed over first. -/
def tagsFrom : Nat → Text → List Piece
  | _, [] => []
  | skip + 1, _ :: s => tagsFrom skip s
  | 0, c :: s =>
    match escapedTagAt? (c :: s) with
    | some (slashes, inner) =>
      (Piece.ofEscaped slashes inner).filter Piece.isTag ++ tagsFrom (slashes + inner.length + 1) s
    | none => tagsFrom 0 s

/-! ### Showing pieces -/

/-- A tag changes what is open, and the pieces after it are shown with that. -/
theorem showPieces_tag (tags : List OpenTag) {piece : Piece} (h : piece.isTag = true)
    (rest : List Piece) :
    showPieces tags (piece :: rest) = takeTag tags piece >>= fun tags => showPieces tags rest := by
  cases piece with
  | text s => cases h
  | opening name parameters => simp [showPieces, takeTag]
  | closing name =>
    cases name with
    | nil =>
      cases tags with
      | nil => rfl
      | cons tag tags => simp [showPieces, takeTag]
    | cons c name =>
      rw [showPieces, takeTag, bind_assoc]
      refine congrArg _ (funext fun name => ?_)
      cases closeNamed? name tags with
      | none => rfl
      | some found => simp

/-- Pieces can be shown exactly if their tags can be taken one after another. -/
theorem exists_showPieces_iff (tags : List OpenTag) (ps : List Piece) :
    (∃ shown, showPieces tags ps = .ok shown) ↔
      ∃ tags', (ps.filter Piece.isTag).foldlM takeTag tags = .ok tags' := by
  induction ps generalizing tags with
  | nil => exact iff_of_true ⟨_, rfl⟩ ⟨_, rfl⟩
  | cons piece rest ih =>
    cases htag : piece.isTag with
    | true =>
      rw [showPieces_tag tags htag, List.filter_cons_of_pos htag, List.foldlM_cons]
      cases takeTag tags piece with
      | error e => exact iff_of_false nofun nofun
      | ok tags => exact ih tags
    | false =>
      rw [List.filter_cons_of_neg (by simp [htag]), ← ih tags]
      cases piece with
      | text s =>
        rw [showPieces]
        cases showPieces tags rest with
        | error e => exact iff_of_false nofun nofun
        | ok more => exact iff_of_true ⟨_, rfl⟩ ⟨_, rfl⟩
      | _ => cases htag

/-! ### The tags of a text -/

/-- The text since the last tag is no matter for the tags. -/
theorem filter_piecesFrom (skip : Nat) (held s : Text) :
    (piecesFrom skip held s).filter Piece.isTag = tagsFrom skip s := by
  induction s generalizing skip held with
  | nil => cases skip <;> rfl
  | cons c s ih =>
    cases skip with
    | succ skip => exact ih skip held
    | zero =>
      rw [piecesFrom, tagsFrom]
      cases escapedTagAt? (c :: s) with
      | none => exact ih 0 (c :: held)
      | some found =>
        obtain ⟨slashes, inner⟩ := found
        dsimp only
        rw [List.cons_append, List.filter_cons_of_neg Bool.false_ne_true, List.filter_append, ih]

/-- A text can be shown exactly if all its tags can be taken. -/
theorem prints_iff (s : Text) : Prints s ↔ ∃ tags, (tagsFrom 0 s).foldlM takeTag [] = .ok tags := by
  rw [← filter_piecesFrom 0 [], ← pieces, ← exists_showPieces_iff]
  unfold Prints printed
  cases showPieces [] (pieces s) with
  | error e => exact iff_of_false nofun nofun
  | ok shown => exact iff_of_true ⟨_, rfl⟩ ⟨_, rfl⟩

/-! ### Where a tag stands -/

/-- The text may stand in the brackets of a tag. -/
structure IsTag (inner : Text) : Prop where
  open_notMem : '[' ∉ inner
  close_notMem : ']' ∉ inner
  begins : inner.head?.any beginsTag = true

/-- A tag at the beginning of a text. -/
theorem tagAt?_eq_some_iff {s inner : Text} :
    tagAt? s = some inner ↔ IsTag inner ∧ ∃ rest, s = '[' :: (inner ++ ']' :: rest) := by
  constructor
  · intro h
    unfold tagAt? at h
    split at h
    · rename_i s
      dsimp only at h
      rw [Option.ite_none_right_eq_some, Option.some_inj, Bool.and_eq_true, beq_iff_eq] at h
      obtain ⟨⟨hbegins, hclosed⟩, rfl⟩ := h
      have hinside := List.all_eq_true.1 (List.all_takeWhile (p := fun c => c != '[' && c != ']')
        (l := s))
      refine ⟨⟨fun hmem => ?_, fun hmem => ?_, hbegins⟩, ?_⟩
      · exact absurd (hinside _ hmem) (by decide)
      · exact absurd (hinside _ hmem) (by decide)
      · obtain ⟨rest, hrest⟩ := List.head?_eq_some_iff.1 hclosed
        have hsplit := List.takeWhile_append_dropWhile (p := fun c => c != '[' && c != ']') (l := s)
        have hlength := congrArg (List.drop
          (s.takeWhile fun c => c != '[' && c != ']').length) hsplit
        rw [List.drop_left, hrest] at hlength
        rw [hlength] at hsplit
        exact ⟨rest, congrArg _ hsplit.symm⟩
    · cases h
  · rintro ⟨⟨hopen, hclose, hbegins⟩, rest, rfl⟩
    have htake : (inner ++ ']' :: rest).takeWhile (fun c => c != '[' && c != ']') = inner := by
      rw [List.takeWhile_append_of_pos fun c hc => by
        simp [ne_of_mem_of_not_mem hc hopen, ne_of_mem_of_not_mem hc hclose]]
      simp
    rw [tagAt?, htake]
    simp [hbegins]

/-- A tag with backslashes before it at the beginning of a text. -/
theorem escapedTagAt?_eq_some_iff {s inner : Text} {slashes : Nat} :
    escapedTagAt? s = some (slashes, inner) ↔ IsTag inner ∧
      ∃ rest, s = List.replicate slashes '\\' ++ '[' :: (inner ++ ']' :: rest) := by
  unfold escapedTagAt?
  dsimp only
  rw [Option.map_eq_some_iff]
  constructor
  · rintro ⟨inner, htag, heq⟩
    cases heq
    obtain ⟨hinner, rest, hdrop⟩ := tagAt?_eq_some_iff.1 htag
    have hslashes : s.takeWhile (· == '\\') =
        List.replicate (s.takeWhile (· == '\\')).length '\\' :=
      List.eq_replicate_iff.2 ⟨rfl, fun c hc =>
        eq_of_beq (List.all_eq_true.1 List.all_takeWhile c hc)⟩
    have htake := List.prefix_iff_eq_take.1 (List.takeWhile_prefix (p := (· == '\\')) (l := s))
    refine ⟨hinner, rest, ?_⟩
    rw [← hslashes, ← hdrop]
    calc s = s.take _ ++ s.drop _ := (List.take_append_drop _ s).symm
      _ = _ := by rw [← htake]
  · rintro ⟨hinner, rest, rfl⟩
    have hslashes : (List.replicate slashes '\\' ++ '[' :: (inner ++ ']' :: rest)).takeWhile
        (· == '\\') = List.replicate slashes '\\' := by
      rw [List.takeWhile_append_of_pos fun c hc => by simp [List.eq_of_mem_replicate hc],
        List.takeWhile_cons_of_neg (by decide), List.append_nil]
    have hdrop : (List.replicate slashes '\\' ++ '[' :: (inner ++ ']' :: rest)).drop slashes =
        '[' :: (inner ++ ']' :: rest) := List.drop_left' List.length_replicate
    rw [hslashes, List.length_replicate, hdrop]
    exact ⟨inner, tagAt?_eq_some_iff.2 ⟨hinner, rest, rfl⟩, rfl⟩

theorem escapedTagAt?_eq_none {s : Text} (h : ∀ slashes inner rest, IsTag inner →
    s ≠ List.replicate slashes '\\' ++ '[' :: (inner ++ ']' :: rest)) :
    escapedTagAt? s = none := by
  rw [Option.eq_none_iff_forall_ne_some]
  rintro ⟨slashes, inner⟩ hsome
  obtain ⟨hinner, rest, rfl⟩ := escapedTagAt?_eq_some_iff.1 hsome
  exact h slashes inner rest hinner rfl

/-- A text without closing brackets behind another text does not change what that begins with. -/
theorem escapedTagAt?_append {tail : Text} (htail : ']' ∉ tail) (s : Text) :
    escapedTagAt? (s ++ tail) = escapedTagAt? s := by
  ext ⟨slashes, inner⟩
  rw [escapedTagAt?_eq_some_iff, escapedTagAt?_eq_some_iff]
  refine and_congr_right fun hinner => ⟨?_, ?_⟩
  · rintro ⟨rest, h⟩
    have hsplit : s ++ tail =
        (List.replicate slashes '\\' ++ '[' :: inner) ++ ']' :: rest := by
      rw [h, List.append_assoc, List.cons_append]
    rcases List.append_eq_append_iff.1 hsplit with ⟨more, -, rfl⟩ | ⟨more, rfl, hmore⟩
    · exact absurd (List.mem_append_right _ List.mem_cons_self) htail
    · cases more with
      | nil =>
        rw [List.nil_append] at hmore
        exact absurd (hmore ▸ List.mem_cons_self) htail
      | cons c more =>
        obtain rfl := (List.cons.inj hmore).1
        exact ⟨more, by simp⟩
  · rintro ⟨rest, rfl⟩
    exact ⟨rest ++ tail, by simp⟩

/-! ### Texts in a row -/

/-- Without an opening bracket there are no tags. -/
theorem tagsFrom_of_notMem {s : Text} (h : '[' ∉ s) (skip : Nat) : tagsFrom skip s = [] := by
  induction s generalizing skip with
  | nil => cases skip <;> rfl
  | cons c s ih =>
    have hs : '[' ∉ s := fun hmem => h (List.mem_cons_of_mem _ hmem)
    cases skip with
    | succ skip => exact ih hs skip
    | zero =>
      have hnone : escapedTagAt? (c :: s) = none := escapedTagAt?_eq_none fun _ _ _ _ heq =>
        h (heq ▸ List.mem_append_right _ List.mem_cons_self)
      rw [tagsFrom, hnone]
      exact ih hs 0

theorem prints_of_notMem {s : Text} (h : '[' ∉ s) : Prints s :=
  (prints_iff s).2 ⟨[], by rw [tagsFrom_of_notMem h]; rfl⟩

/-- The character begins no tag, and is no backslash, which may stand before one. -/
def isUnmarked (c : Char) : Bool :=
  c != '[' && c != '\\'

theorem tagsFrom_cons_of_isUnmarked {c : Char} (hc : isUnmarked c = true) (s : Text) :
    tagsFrom 0 (c :: s) = tagsFrom 0 s := by
  have hnone : escapedTagAt? (c :: s) = none := by
    refine escapedTagAt?_eq_none fun slashes inner rest _ heq => ?_
    cases slashes with
    | zero =>
      obtain rfl := (List.cons.inj heq).1
      cases hc
    | succ slashes =>
      obtain rfl := (List.cons.inj heq).1
      cases hc
  rw [tagsFrom, hnone]

/-- A text before another one adds no tags if no character in it begins one. -/
theorem tagsFrom_append_of_all {lead : Text} (hlead : lead.all isUnmarked = true) (s : Text) :
    tagsFrom 0 (lead ++ s) = tagsFrom 0 s := by
  induction lead with
  | nil => rfl
  | cons c lead ih =>
    obtain ⟨hc, hlead⟩ := Bool.and_eq_true_iff.1 hlead
    rw [List.cons_append, tagsFrom_cons_of_isUnmarked hc, ih hlead]

/-- Without a closing bracket there are no tags. -/
theorem tagsFrom_of_close_notMem {s : Text} (h : ']' ∉ s) (skip : Nat) : tagsFrom skip s = [] := by
  induction s generalizing skip with
  | nil => cases skip <;> rfl
  | cons c s ih =>
    have hs : ']' ∉ s := fun hmem => h (List.mem_cons_of_mem _ hmem)
    cases skip with
    | succ skip => exact ih hs skip
    | zero =>
      have hnone : escapedTagAt? (c :: s) = none := escapedTagAt?_append h []
      rw [tagsFrom, hnone]
      exact ih hs 0

/-- A text behind another one adds no tags if it does not end one. -/
theorem tagsFrom_append_of_notMem {tail : Text} (htail : ']' ∉ tail) {s : Text} {skip : Nat}
    (hskip : skip ≤ s.length) : tagsFrom skip (s ++ tail) = tagsFrom skip s := by
  induction s generalizing skip with
  | nil =>
    obtain rfl : skip = 0 := Nat.le_zero.1 hskip
    exact tagsFrom_of_close_notMem htail 0
  | cons c s ih =>
    cases skip with
    | succ skip => exact ih (Nat.le_of_succ_le_succ hskip)
    | zero =>
      rw [List.cons_append, tagsFrom, ← List.cons_append, escapedTagAt?_append htail, tagsFrom]
      cases hfound : escapedTagAt? (c :: s) with
      | none => exact ih (Nat.zero_le _)
      | some found =>
        obtain ⟨slashes, inner⟩ := found
        obtain ⟨-, rest, heq⟩ := escapedTagAt?_eq_some_iff.1 hfound
        have hlength := congrArg List.length heq
        simp only [List.length_cons, List.length_append, List.length_replicate] at hlength
        dsimp only
        rw [ih (by omega)]

/-- The characters of a tag are passed over. -/
theorem tagsFrom_skip (lead s : Text) : tagsFrom lead.length (lead ++ s) = tagsFrom 0 s := by
  induction lead with
  | nil => rfl
  | cons c lead ih => exact ih

theorem isTag_ofTag (inner : Text) : (Piece.ofTag inner).isTag = true := by
  unfold Piece.ofTag
  dsimp only
  split <;> rfl

/-- A tag in brackets is the first one. -/
theorem tagsFrom_tag {inner : Text} (hinner : IsTag inner) (s : Text) :
    tagsFrom 0 ('[' :: (inner ++ ']' :: s)) = .ofTag inner :: tagsFrom 0 s := by
  have hescaped : escapedTagAt? ('[' :: (inner ++ ']' :: s)) = some (0, inner) :=
    escapedTagAt?_eq_some_iff.2 ⟨hinner, s, rfl⟩
  have hskip : tagsFrom (0 + inner.length + 1) (inner ++ ']' :: s) = tagsFrom 0 s := by
    have hwhole := tagsFrom_skip (inner ++ [']']) s
    rw [List.length_append, List.append_assoc] at hwhole
    rw [Nat.zero_add]
    exact hwhole
  have hpieces : (Piece.ofEscaped 0 inner).filter Piece.isTag = [.ofTag inner] := by
    have hescaped : Piece.ofEscaped 0 inner = [.text [], .ofTag inner] := rfl
    rw [hescaped, List.filter_cons_of_neg Bool.false_ne_true,
      List.filter_cons_of_pos (isTag_ofTag inner), List.filter_nil]
  rw [tagsFrom, hescaped]
  dsimp only
  rw [hpieces, hskip, List.singleton_append]

/-! ### Texts that matter not -/

/-- Before any text, the text changes nothing about whether that can be shown. -/
def Neutral (lead : Text) : Prop :=
  ∀ s, Prints (lead ++ s) ↔ Prints s

theorem Neutral.append {lead more : Text} (hlead : Neutral lead) (hmore : Neutral more) :
    Neutral (lead ++ more) := by
  intro s
  rw [List.append_assoc, hlead, hmore]

theorem neutral_of_all {lead : Text} (h : lead.all isUnmarked = true) : Neutral lead := by
  intro s
  rw [prints_iff, prints_iff, tagsFrom_append_of_all h]

/-- A tag without parameters can be closed again. -/
theorem foldlM_takeTag_closing {name : Text} (hname : (normalName name).isOk = true) :
    [Piece.opening name [], .closing []].foldlM takeTag [] = .ok [] := by
  cases hnormal : normalName name with
  | error e =>
    rw [hnormal] at hname
    cases hname
  | ok normal =>
    have hcheck : OpenTag.check ⟨normal, []⟩ = .ok () := by simp [OpenTag.check]
    have hopening : takeTag [] (.opening name []) = .ok [⟨normal, []⟩] := by
      rw [takeTag, hnormal]
      rfl
    have hclosing : takeTag [⟨normal, []⟩] (.closing []) = .ok [] := by
      rw [takeTag, hcheck]
      rfl
    rw [List.foldlM_cons, hopening]
    change [Piece.closing []].foldlM takeTag [⟨normal, []⟩] = _
    rw [List.foldlM_cons, hclosing]
    rfl

/-- A heading closes the style that it opens. -/
theorem neutral_heading {style label : Text} (hstyle : IsTag style)
    (hname : Piece.ofTag style = .opening style []) (hnormal : (normalName style).isOk = true)
    (hlabel : label.all isUnmarked = true) :
    Neutral ('[' :: (style ++ ']' :: (label ++ "[/]".toList))) := by
  intro s
  have htags : tagsFrom 0 ('[' :: (style ++ ']' :: (label ++ "[/]".toList)) ++ s) =
      [.opening style [], .closing []] ++ tagsFrom 0 s := by
    have hslash : IsTag ['/'] := ⟨by decide, by decide, rfl⟩
    have hclosing : tagsFrom 0 ("[/]".toList ++ s) = .closing [] :: tagsFrom 0 s :=
      tagsFrom_tag hslash s
    have hassoc : '[' :: (style ++ ']' :: (label ++ "[/]".toList)) ++ s =
        '[' :: (style ++ ']' :: (label ++ ("[/]".toList ++ s))) := by simp
    rw [hassoc, tagsFrom_tag hstyle, tagsFrom_append_of_all hlabel, hclosing, hname]
    rfl
  rw [prints_iff, prints_iff, htags, List.foldlM_append, foldlM_takeTag_closing hnormal]
  rfl

/-- A text at the end matters not if it does not end a tag. -/
theorem prints_append_iff {tail : Text} (htail : ']' ∉ tail) (s : Text) :
    Prints (s ++ tail) ↔ Prints s := by
  rw [prints_iff, prints_iff, tagsFrom_append_of_notMem htail (Nat.zero_le _)]

end Docpress.Console
