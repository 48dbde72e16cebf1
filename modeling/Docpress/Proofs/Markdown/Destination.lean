import Docpress.Markdown.Place
import Docpress.Proofs.Markdown.Block
/-!
Destinations and titles are stretches of the text that they are read from, with their escapes
resolved. Such a stretch ends before a character that no backslash is written for, so whatever
reading keeps holds of it and of what follows it.
-/

namespace Docpress.Markdown

open Text

variable {P : Text → Prop} {s d rest title written : Text}

/-! ### Stretches -/

/-- A reader that puts characters before what it reads further on. -/
theorem exists_of_map (lead : Text) {read : Option (Text × Text)}
    (hread : read.map (fun found => (lead ++ found.1, found.2)) = some (d, rest)) :
    ∃ more, d = lead ++ more ∧ read = some (more, rest) := by
  obtain ⟨⟨more, rest⟩, hfound, heq⟩ := Option.map_eq_some_iff.1 hread
  obtain ⟨rfl, rfl⟩ := Prod.mk.inj heq
  exact ⟨more, rfl, hfound⟩

theorem bracketedDestination?_eq_some (hread : bracketedDestination? s = some (d, rest)) :
    s = d ++ '>' :: rest := by
  induction s using bracketedDestination?.induct generalizing d rest with
  | case1 => cases hread
  | case2 s =>
    obtain ⟨rfl, rfl⟩ := Prod.mk.inj (Option.some.inj hread)
    rfl
  | case3 c s ih =>
    obtain ⟨more, rfl, hmore⟩ := exists_of_map ['\\', c] hread
    rw [ih hmore]
    rfl
  | case4 c s hclose hescape hstop =>
    rw [bracketedDestination?, if_pos hstop] at hread
    · cases hread
    · exact hclose
    · exact hescape
  | case5 c s hclose hescape hstop ih =>
    rw [bracketedDestination?, if_neg hstop] at hread
    · obtain ⟨more, rfl, hmore⟩ := exists_of_map [c] hread
      rw [ih hmore]
      rfl
    · exact hclose
    · exact hescape

/-- The text is empty, or it begins with a character that no backslash is written for. -/
def IsCut : Text → Prop
  | [] => True
  | c :: _ => c ≠ '_' ∧ c ≠ '/'

/-- A bare destination ends at a cut, or one or two characters of it are read and then the rest. -/
theorem bareDestination?_cases {depth : Nat}
    (hread : bareDestination? depth s = some (d, rest)) :
    (s = d ++ rest ∧ IsCut rest) ∨ ∃ lead tail more depth', lead ≠ [] ∧ s = lead ++ tail ∧
      d = lead ++ more ∧ bareDestination? depth' tail = some (more, rest) := by
  cases s with
  | nil =>
    rw [bareDestination?, Option.ite_none_right_eq_some] at hread
    obtain ⟨rfl, rfl⟩ := Prod.mk.inj (Option.some.inj hread.2)
    exact .inl ⟨rfl, trivial⟩
  | cons c s =>
    have hstop (hc : c ≠ '_' ∧ c ≠ '/') {q : Prop} [Decidable q]
        (hread : (if q then some ([], c :: s) else none) = some (d, rest)) :
        c :: s = d ++ rest ∧ IsCut rest := by
      rw [Option.ite_none_right_eq_some] at hread
      obtain ⟨rfl, rfl⟩ := Prod.mk.inj (Option.some.inj hread.2)
      exact ⟨rfl, hc⟩
    have hmore {lead tail : Text} {depth : Nat} (hlead : lead ≠ []) (heq : c :: s = lead ++ tail)
        (hread : (bareDestination? depth tail).map
          (fun found => (lead ++ found.1, found.2)) = some (d, rest)) :
        ∃ lead tail more depth', lead ≠ [] ∧ c :: s = lead ++ tail ∧ d = lead ++ more ∧
          bareDestination? depth' tail = some (more, rest) := by
      obtain ⟨more, hd, hnext⟩ := exists_of_map lead hread
      exact ⟨lead, tail, more, depth, hlead, heq, hd, hnext⟩
    have hsingle : [c] ≠ [] := List.cons_ne_nil _ _
    unfold bareDestination? at hread
    dsimp only at hread
    split at hread
    · rename_i hcontrol
      refine .inl (hstop ⟨?_, ?_⟩ hread)
      · rintro rfl
        exact absurd hcontrol (by decide)
      · rintro rfl
        exact absurd hcontrol (by decide)
    · split at hread
      · rename_i hslash
        obtain rfl := eq_of_beq hslash
        split at hread
        · exact .inl (hstop ⟨by decide, by decide⟩ hread)
        · rename_i e s _
          exact .inr (@hmore ['\\', e] s _ (List.cons_ne_nil _ _) rfl hread)
        · rw [Option.ite_none_right_eq_some] at hread
          obtain ⟨rfl, rfl⟩ := Prod.mk.inj (Option.some.inj hread.2)
          exact .inl ⟨rfl, trivial⟩
      · split at hread
        · split at hread
          · cases hread
          · exact .inr (hmore hsingle rfl hread)
        · split at hread
          · rename_i hclose
            obtain rfl := eq_of_beq hclose
            cases depth with
            | zero =>
              obtain ⟨rfl, rfl⟩ := Prod.mk.inj (Option.some.inj hread)
              exact .inl ⟨rfl, by decide, by decide⟩
            | succ depth => exact .inr (hmore hsingle rfl hread)
          · exact .inr (hmore hsingle rfl hread)

theorem bareDestination?_eq_some {depth : Nat}
    (hread : bareDestination? depth s = some (d, rest)) : s = d ++ rest ∧ IsCut rest := by
  induction hn : s.length using Nat.strongRecOn generalizing s depth d with
  | _ n ih =>
    obtain hend | ⟨lead, tail, more, depth', hlead, rfl, rfl, hmore⟩ := bareDestination?_cases hread
    · exact hend
    · have hless : tail.length < n := by
        have hpos := List.length_pos_iff.2 hlead
        rw [List.length_append] at hn
        omega
      obtain ⟨rfl, hcut⟩ := ih tail.length hless hmore rfl
      exact ⟨(List.append_assoc _ _ _).symm, hcut⟩

theorem titleBody?_eq_some {close : Char} (hread : titleBody? close s = some (title, rest)) :
    s = title ++ close :: rest := by
  induction s using titleBody?.induct close generalizing title rest with
  | case1 => cases hread
  | case2 c s hclose =>
    unfold titleBody? at hread
    rw [if_pos hclose] at hread
    obtain ⟨rfl, rfl⟩ := Prod.mk.inj (Option.some.inj hread)
    rw [eq_of_beq hclose]
    rfl
  | case3 c s hclose hopen =>
    unfold titleBody? at hread
    rw [if_neg hclose, if_pos hopen] at hread
    cases hread
  | case4 e s hclose hopen ih =>
    rw [titleBody?, if_neg hclose, if_neg hopen] at hread
    obtain ⟨more, rfl, hmore⟩ := exists_of_map ['\\', e] hread
    rw [ih hmore]
    rfl
  | case5 c hclose hopen s hescape ih =>
    rw [titleBody?, if_neg hclose, if_neg hopen] at hread
    · obtain ⟨more, rfl, hmore⟩ := exists_of_map [c] hread
      rw [ih hmore]
      rfl
    · exact hescape

/-- What follows a label in a definition is the end of the text. -/
theorem definitionLabel?_eq_some {label : Text}
    (hread : definitionLabel? s = some (label, rest)) : rest <:+ s := by
  induction s using definitionLabel?.induct generalizing label rest with
  | case1 => cases hread
  | case2 s =>
    obtain ⟨-, rfl⟩ := Prod.mk.inj (Option.some.inj hread)
    exact List.suffix_cons _ _
  | case3 => cases hread
  | case4 c s ih =>
    obtain ⟨more, -, hmore⟩ := exists_of_map ['\\', c] hread
    exact (ih hmore).trans (List.suffix_append ['\\', c] s)
  | case5 c s hclose hopen hescape ih =>
    rw [definitionLabel?] at hread
    · obtain ⟨more, -, hmore⟩ := exists_of_map [c] hread
      exact (ih hmore).trans (List.suffix_cons _ _)
    · exact hclose
    · exact hopen
    · exact hescape

/-! ### What is kept -/

namespace Kept

theorem tail {c : Char} (hP : Kept P) (h : P (c :: s)) : P s :=
  hP.right (s := [c]) h

theorem dropWhile (hP : Kept P) (h : P s) (q : Char → Bool) : P (s.dropWhile q) := by
  rw [← List.takeWhile_append_dropWhile (p := q) (l := s)] at h
  exact hP.right h

/-- What is kept holds of a destination as it is written, and of what follows it. -/
theorem destination? (hP : Kept P) (h : P s)
    (hread : Markdown.destination? s = some (written, rest)) :
    (∃ d, P d ∧ written = unescape d) ∧ P rest := by
  unfold Markdown.destination? at hread
  split at hread
  · obtain ⟨⟨d, rest⟩, hfound, heq⟩ := Option.map_eq_some_iff.1 hread
    obtain ⟨rfl, rfl⟩ := Prod.mk.inj heq
    have hinside := hP.tail h
    rw [bracketedDestination?_eq_some hfound] at hinside
    exact ⟨⟨d, hP.left (by decide) hinside, rfl⟩, hP.tail (hP.right hinside)⟩
  · split at hread
    · rename_i d after hfound
      rw [Option.ite_none_left_eq_some] at hread
      obtain ⟨rfl, rfl⟩ := Prod.mk.inj (Option.some.inj hread.2)
      obtain ⟨rfl, hcut⟩ := bareDestination?_eq_some hfound
      refine ⟨⟨d, ?_, rfl⟩, hP.right h⟩
      cases after with
      | nil => rwa [List.append_nil] at h
      | cons c after => exact hP.left hcut h
    · cases hread

/-- What is kept holds of a title as it is written, and of what follows it. -/
theorem title? (hP : Kept P) (h : P s) (hread : Markdown.title? s = some (title, rest)) :
    (∃ t, P t ∧ title = unescape t) ∧ P rest := by
  have hbody {close : Char} {s : Text} (hs : P s) (hclose : close ≠ '_' ∧ close ≠ '/')
      (hread : (titleBody? close s).map (fun found => (unescape found.1, found.2)) =
        some (title, rest)) : (∃ t, P t ∧ title = unescape t) ∧ P rest := by
    obtain ⟨⟨body, rest⟩, hfound, heq⟩ := Option.map_eq_some_iff.1 hread
    obtain ⟨rfl, rfl⟩ := Prod.mk.inj heq
    rw [titleBody?_eq_some hfound] at hs
    exact ⟨⟨body, hP.left hclose hs, rfl⟩, hP.tail (hP.right hs)⟩
  unfold Markdown.title? at hread
  split at hread
  · exact hbody (hP.tail h) (by decide) hread
  · exact hbody (hP.tail h) (by decide) hread
  · exact hbody (hP.tail h) (by decide) hread
  · cases hread

/-- A title is looked for only after a space. -/
theorem title_of_spaces {t : Text} (hP : Kept P) (h : P t)
    (hread : (if t.length < s.length then Markdown.title? t else none) = some (title, rest)) :
    ∃ t, P t ∧ title = unescape t := by
  rw [Option.ite_none_right_eq_some] at hread
  exact (hP.title? h hread.2).1

end Kept

/-! ### Targets of links -/

/-- The target and its title are written, before their escapes are resolved, as texts of which `P`
    holds. -/
structure LinkTarget.IsWritten (P : Text → Prop) (target : LinkTarget) : Prop where
  url : ∃ d, P d ∧ target.url = Url.target (unescape d)
  title : ∃ t, P t ∧ target.title = unescape t

namespace Kept

theorem unescape_nil (hP : Kept P) : ∃ t, P t ∧ ([] : Text) = unescape t :=
  ⟨[], hP.nil, rfl⟩

theorem target_nil (hP : Kept P) : ∃ d, P d ∧ ([] : Text) = Url.target (unescape d) :=
  ⟨[], hP.nil, by decide⟩

theorem parenthesized (hP : Kept P) (h : P s) {target : LinkTarget}
    (hfound : Markdown.parenthesized s = .found target rest) : target.IsWritten P := by
  unfold Markdown.parenthesized at hfound
  extract_lets s' at hfound
  have h : P s' := hP.dropWhile h isLinkSpace
  split at hfound
  · cases hfound
  · split at hfound
    rename_i url after hdestination
    have hurl : (∃ d, P d ∧ url = Url.target (unescape d)) ∧ P after := by
      split at hdestination
      · rename_i hread
        obtain ⟨⟨d, hd, rfl⟩, hrest⟩ := hP.destination? h hread
        split at hdestination
        · obtain ⟨rfl, rfl⟩ := Prod.mk.inj hdestination
          exact ⟨⟨d, hd, rfl⟩, hrest⟩
        · obtain ⟨rfl, rfl⟩ := Prod.mk.inj hdestination
          exact ⟨hP.target_nil, h⟩
      · obtain ⟨rfl, rfl⟩ := Prod.mk.inj hdestination
        exact ⟨hP.target_nil, h⟩
    dsimp only at hfound
    split at hfound
    · cases hfound
      refine ⟨hurl.1, ?_⟩
      dsimp only
      split
      · rename_i hread
        exact hP.title_of_spaces (hP.dropWhile hurl.2 isLinkSpace) hread
      · exact hP.unescape_nil
    · cases hfound

theorem definitionTitle? (hP : Kept P) (h : P s)
    (hread : Markdown.definitionTitle? s = some (title, rest)) :
    ∃ t, P t ∧ title = unescape t := by
  have hnone {out : Option Text} (hread : out.map (fun rest => ([], rest)) = some (title, rest)) :
      ∃ t, P t ∧ title = unescape t := by
    obtain ⟨rest, -, heq⟩ := Option.map_eq_some_iff.1 hread
    obtain ⟨rfl, -⟩ := Prod.mk.inj heq
    exact hP.unescape_nil
  unfold Markdown.definitionTitle? at hread
  dsimp only at hread
  split at hread
  · rename_i hfound
    split at hread
    · obtain ⟨rfl, -⟩ := Prod.mk.inj (Option.some.inj hread)
      exact hP.title_of_spaces (hP.dropWhile h isLinkSpace) hfound
    · rw [Option.ite_none_left_eq_some] at hread
      exact hnone hread.2
  · exact hnone hread

theorem definition? (hP : Kept P) (h : P s) {name : Text} {target : LinkTarget}
    (hread : Markdown.definition? s = some (name, target, rest)) : target.IsWritten P := by
  unfold Markdown.definition? at hread
  simp only [Option.bind_eq_bind, Option.bind_eq_some_iff, Prod.exists,
    Option.ite_none_left_eq_some] at hread
  obtain ⟨label, afterLabel, hlabel, afterColon, hcolon, written, after, hwritten, -, title, end_,
    htitle, -, hread⟩ := hread
  obtain ⟨lead, hlead⟩ := definitionLabel?_eq_some hlabel
  have hafterLabel : P afterLabel := hP.right (hlead.symm ▸ h)
  rw [dropLead?_eq_some.1 hcolon] at hafterLabel
  obtain ⟨⟨d, hd, rfl⟩, hafter⟩ :=
    hP.destination? (hP.dropWhile (hP.right hafterLabel) isLinkSpace) hwritten
  have heq := (Prod.mk.inj (Prod.mk.inj (Option.some.inj hread)).2).1
  rw [← heq]
  exact ⟨⟨d, hd, rfl⟩, hP.definitionTitle? hafter htitle⟩

/-- The targets of all references of a document are written as texts of which `P` holds. -/
theorem references (hP : Kept P) {source : Text} (h : P (normalize source)) :
    ∀ ref ∈ (blocksOf source).references, ref.2.IsWritten P := by
  intro ref href
  obtain ⟨s, rest, hs, hread⟩ := (blocksOf_holds hP h).references ref href
  exact hP.definition? hs hread

end Kept

end Docpress.Markdown
