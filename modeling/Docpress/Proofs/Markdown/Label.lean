import Docpress.Proofs.Markdown.Guarded
/-!
Labels of links and images. A label ends before a closing bracket, and the target that is found for
it stands after that bracket or is one of a reference. So in a guarded text the label is guarded as
well, and the target has lost its markers.
-/

namespace Docpress.Markdown

open Text

variable {skip : Skip} {refs : References} {p : Place} {memo : Memo}

/-- A label ends at a closing bracket. -/
theorem findLabelEnd_eq_some {nested : Bool} {fuel depth : Nat} {close : Place}
    (h : (findLabelEnd skip nested fuel depth p memo).1 = some close) :
    ∃ n after, close.pos = p.pos + n ∧ close.rest = p.rest.drop n ∧ close.rest = ']' :: after := by
  induction fuel generalizing depth p memo with
  | zero => cases h
  | succ fuel ih =>
    rw [findLabelEnd] at h
    split at h
    · cases h
    · rename_i c rest hrest
      split at h
      · rename_i hclose
        obtain rfl := Option.some.inj h
        refine ⟨0, rest, rfl, rfl, ?_⟩
        rw [hrest, eq_of_beq (Bool.and_eq_true_iff.1 hclose).1]
      · dsimp only at h
        split at h
        · cases h
        · obtain ⟨n, after, hpos, hdrop, hhead⟩ := ih h
          refine ⟨(skip p memo).1 + n, after, ?_, ?_, hhead⟩
          · rw [hpos]
            exact Nat.add_assoc _ _ _
          · rw [hdrop]
            exact List.drop_drop

/-- The text is a label and what stands from its bracket on. -/
theorem findLabelEnd_split {nested : Bool} {fuel depth : Nat} {close : Place}
    (h : (findLabelEnd skip nested fuel depth p memo).1 = some close) :
    ∃ after, (close.advance 1).rest = after ∧
      p.rest = p.rest.take (close.pos - p.pos) ++ ']' :: after := by
  obtain ⟨n, after, hpos, hdrop, hhead⟩ := findLabelEnd_eq_some h
  refine ⟨after, ?_, ?_⟩
  · change close.rest.drop 1 = after
    rw [hhead]
    rfl
  · rw [hpos, Nat.add_sub_cancel_left, ← hhead, hdrop, List.take_append_drop]

theorem mem_of_lookup {name : Text} {target : LinkTarget}
    (h : refs.lookup name = some target) : ∃ ref ∈ refs, ref.2 = target := by
  induction refs with
  | nil => cases h
  | cons ref refs ih =>
    rw [List.lookup_cons] at h
    split at h
    · exact ⟨ref, List.mem_cons_self, Option.some.inj h⟩
    · obtain ⟨found, hfound, heq⟩ := ih h
      exact ⟨found, List.mem_cons_of_mem _ hfound, heq⟩

theorem mem_of_byReference {label : Text} {labelEnd here : Place} {found : LinkTarget × Nat}
    (h : (byReference skip refs label labelEnd here memo).1 = some found) :
    ∃ ref ∈ refs, ref.2 = found.1 := by
  have hlookup {name : Text} {n : Nat}
      (h : (refs.lookup name).map (fun target => (target, n)) = some found) :
      ∃ ref ∈ refs, ref.2 = found.1 := by
    obtain ⟨target, hfound, rfl⟩ := Option.map_eq_some_iff.1 h
    exact mem_of_lookup hfound
  unfold byReference at h
  split at h
  · cases h
  · dsimp only at h
    split at h
    · split at h
      · exact hlookup h
      · exact hlookup h
    · exact hlookup h

/-- A link or an image whose label begins a text: its target stands in parentheses after the label,
    or a reference has it. -/
structure LinkHit.IsIn (refs : References) (s : Text) (hit : LinkHit) : Prop where
  label : ∃ after, s = hit.label ++ ']' :: after
  target : (∃ after rest, s = hit.label ++ ']' :: '(' :: after ∧
      parenthesized after = .found hit.target rest) ∨ ∃ ref ∈ refs, ref.2 = hit.target

theorem LinkHit.IsIn.within {q : Char → Prop} {s : Text} {hit : LinkHit} (h : hit.IsIn refs s)
    (hs : Within q s) : Within q hit.label := by
  obtain ⟨after, rfl⟩ := h.label
  exact hs.of_subset (List.subset_append_left _ _)

/-- The target is written in the text, or a reference has it. -/
theorem LinkHit.IsIn.isWritten {P : Text → Prop} (hP : Kept P) {s : Text} (hs : P s)
    {hit : LinkHit} (h : hit.IsIn refs s) :
    hit.target.IsWritten P ∨ ∃ ref ∈ refs, ref.2 = hit.target := by
  rcases h.target with ⟨inside, rest, rfl, hparenthesized⟩ | href
  · exact .inl (hP.parenthesized (hP.tail (hP.tail (hP.right hs))) hparenthesized)
  · exact .inr href

theorem isIn_of_byReference {s label own : Text} {labelEnd here : Place} {start : Nat}
    (hlabel : ∃ after, s = label ++ ']' :: after) {hit : LinkHit}
    (h : (byReference skip refs own labelEnd here memo).1.map
      (fun found => LinkHit.mk label found.1 (found.2 - start)) = some hit) : hit.IsIn refs s := by
  obtain ⟨found, hfound, rfl⟩ := Option.map_eq_some_iff.1 h
  exact ⟨hlabel, .inr (mem_of_byReference hfound)⟩

theorem linkAt?_isIn {hit : LinkHit} (h : (linkAt? skip refs p memo).1 = some hit) :
    hit.IsIn refs (p.advance 1).rest := by
  unfold linkAt? at h
  extract_lets first at h
  split at h
  · cases h
  · rename_i close memo' hfind
    obtain ⟨after, hafter, hlabel⟩ := findLabelEnd_split (congrArg Prod.fst hfind)
    dsimp only at h
    split at h
    · rename_i s hs
      split at h
      · rename_i target rest hparenthesized
        obtain rfl := Option.some.inj h
        obtain rfl := hafter.symm.trans hs
        exact ⟨⟨_, hlabel⟩, .inl ⟨s, rest, hlabel, hparenthesized⟩⟩
      · cases h
      · exact isIn_of_byReference ⟨_, hlabel⟩ h
    · exact isIn_of_byReference ⟨_, hlabel⟩ h

theorem imageAt?_isIn {hit : LinkHit} (h : (imageAt? skip refs p memo).1 = some hit) :
    hit.IsIn refs (p.advance 2).rest := by
  unfold imageAt? at h
  split at h
  · extract_lets first at h
    split at h
    · cases h
    · rename_i close memo' hfind
      obtain ⟨after, hafter, hlabel⟩ := findLabelEnd_split (congrArg Prod.fst hfind)
      dsimp only at h
      split at h
      · rename_i s hs
        split at h
        · rename_i target rest hparenthesized
          obtain rfl := Option.some.inj h
          obtain rfl := hafter.symm.trans hs
          exact ⟨⟨_, hlabel⟩, .inl ⟨s, rest, hlabel, hparenthesized⟩⟩
        · cases h
      · exact isIn_of_byReference ⟨_, hlabel⟩ h
  · cases h

/-! ### Guarded texts -/

/-- What is read for a link or an image, whose label begins at a place, has no markers but those in
    the label. -/
structure LinkHit.IsMasked (first : Place) (hit : LinkHit) : Prop where
  lead : hit.label <+: first.rest
  label : Guarded hit.label
  target : hit.target.IsMasked

theorem LinkHit.IsIn.isMasked (hrefs : ∀ ref ∈ refs, ref.2.IsMasked) {first : Place}
    (hfirst : Guarded first.rest) {hit : LinkHit} (h : hit.IsIn refs first.rest) :
    hit.IsMasked first := by
  obtain ⟨after, hlabel⟩ := h.label
  have hsplit : Guarded (hit.label ++ ']' :: after) := hlabel ▸ hfirst
  refine ⟨⟨_, hlabel.symm⟩, hsplit.left (by decide), ?_⟩
  rcases h.isWritten Guarded.kept hfirst with hwritten | ⟨ref, href, heq⟩
  · exact hwritten.isMasked
  · exact heq ▸ hrefs ref href

end Docpress.Markdown
