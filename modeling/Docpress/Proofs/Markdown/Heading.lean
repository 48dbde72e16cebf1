import Docpress.Proofs.Markdown.Block
import Docpress.Proofs.Markdown.Passes
/-!
The headings of a document. Each has one of six levels and is followed by its running text, so each
gets an identifier: the first free slug of its title, which no other heading of the document has.
-/

namespace Docpress.Markdown

open Text

/-- The element is a heading. -/
def Element.IsHeading : Element → Prop
  | .heading _ _ => True
  | _ => False

/-- The event opens a heading. -/
def Event.IsHeading {α : Type} : Event α → Prop
  | .start e => e.IsHeading
  | _ => False

/-- Each heading has one of the six levels and no identifier yet, and its running text follows. -/
inductive Headed {α : Type} : List (Event α) → Prop where
  | nil : Headed []
  | heading {level content rest} (hlevel : 1 ≤ level ∧ level ≤ 6) (hrest : Headed rest) :
      Headed (.start (.heading level none) :: .inline content :: rest)
  | other {event rest} (hevent : ¬ event.IsHeading) (hrest : Headed rest) : Headed (event :: rest)

/-! ### Blocks -/

namespace Headed

variable {α : Type} {events rest : List (Event α)} {event : Event α} {element : Element}

theorem append (h : Headed events) (h' : Headed rest) : Headed (events ++ rest) := by
  induction h with
  | nil => exact h'
  | heading hlevel _ ih => exact .heading hlevel ih
  | other hevent _ ih => exact .other hevent ih

theorem flatMap {β : Type} {f : β → List (Event α)} (h : ∀ b, Headed (f b)) (l : List β) :
    Headed (l.flatMap f) := by
  induction l with
  | nil => exact .nil
  | cons b l ih => exact (h b).append ih

theorem singleton (hevent : ¬ event.IsHeading) : Headed [event] :=
  .other hevent .nil

theorem wrap (helement : ¬ element.IsHeading) (h : Headed events) :
    Headed (Event.wrap element events) :=
  .other helement (h.append (.singleton id))

theorem leaf (helement : ¬ element.IsHeading) (content : α) :
    Headed (Event.leaf element content) :=
  .wrap helement (.singleton id)

/-- What follows an event that opens no heading. -/
theorem of_cons (h : Headed (event :: rest)) (hevent : ¬ event.IsHeading) : Headed rest := by
  cases h with
  | heading => exact absurd trivial hevent
  | other _ hrest => exact hrest

theorem tighten (h : Headed events) (depth : Nat) : Headed (tighten depth events) := by
  induction h generalizing depth with
  | nil => exact .nil
  | heading hlevel _ ih => exact .heading hlevel (ih _)
  | @other event rest hevent _ ih =>
    cases event with
    | start e => cases e <;> exact .other hevent (ih _)
    | stop e => cases e <;> exact .other id (ih _)
    | _ => exact .other id (ih _)

end Headed

/-- What a reader of blocks gives is headed. -/
def ReadBlocks.IsHeaded (read : ReadBlocks) : Prop :=
  ∀ scope lines, Headed (read scope lines).events

variable {scope : Scope}

theorem heading?_level {l : Line} {level : Nat} {content : Text}
    (h : heading? scope l = some (level, content)) : 1 ≤ level ∧ level ≤ 6 := by
  unfold heading? at h
  dsimp only at h
  split at h
  · cases h
  · rename_i hnot
    obtain ⟨rfl, -⟩ := Prod.mk.inj (Option.some.inj h)
    simp only [Bool.or_eq_true, beq_iff_eq, decide_eq_true_eq, not_or] at hnot
    omega

theorem underlined?_level {lines : List Line} {more level : Nat}
    (h : underlined? scope lines = some (more, level)) : 1 ≤ level ∧ level ≤ 6 := by
  induction lines generalizing more with
  | nil => cases h
  | cons l rest ih =>
    have hmore {more : Nat}
        (h : (underlined? scope rest).map (fun found => (found.1 + 1, found.2)) =
          some (more, level)) : 1 ≤ level ∧ level ≤ 6 := by
      obtain ⟨⟨_, level'⟩, hrest, heq⟩ := Option.map_eq_some_iff.1 h
      obtain ⟨-, rfl⟩ := Prod.mk.inj heq
      exact ih hrest
    rw [underlined?] at h
    dsimp only at h
    split at h
    · cases h
    · split at h
      · exact hmore h
      · split at h
        · rename_i hunderline
          obtain ⟨-, rfl⟩ := Prod.mk.inj (Option.some.inj h)
          unfold underline? at hunderline
          split at hunderline
          · rw [Option.ite_none_right_eq_some] at hunderline
            obtain ⟨-, heq⟩ := hunderline
            rw [← Option.some.inj heq]
            split <;> decide
          · cases hunderline
        · split at h
          · exact hmore h
          · cases h

theorem readTable_headed (cells : List Text) (aligns : List (Option Alignment))
    (rest : List Line) : Headed (readTable scope cells aligns rest).events := by
  have hrow (header : Bool) (cells : List Text) : Headed (rowEvents header aligns cells) :=
    .wrap id (.flatMap (fun _ => .leaf id _) _)
  refine .wrap id (.append (.wrap id (hrow true cells)) ?_)
  split
  · exact .nil
  · exact .wrap id (.flatMap (hrow false) _)

theorem readItems_headed {inner : ReadBlocks} (hinner : inner.IsHeaded) (fuel : Nat)
    (afterEmpty : Bool) (m : Marker) (lines : List Line) :
    Headed (readItems inner scope fuel afterEmpty m lines).events := by
  have hitem (m : Marker) (l : Line) (rest : List Line) :
      Headed (Event.wrap (.item false) (readItem inner scope m l rest).events) := by
    refine .wrap id ?_
    unfold readItem
    dsimp only
    split
    · exact .nil
    · exact hinner _ _
  induction fuel generalizing afterEmpty m lines with
  | zero => exact .nil
  | succ fuel ih =>
    cases lines with
    | nil => exact .nil
    | cons l rest =>
      rw [readItems]
      dsimp only
      split
      · exact hitem _ _ _
      · exact (hitem _ _ _).append (ih _ _ _)

theorem readList_headed {inner : ReadBlocks} (hinner : inner.IsHeaded) (m : Marker)
    (lines : List Line) : Headed (readList inner scope m lines).events := by
  have hitems : Headed (readItems inner scope lines.length false m lines).events :=
    readItems_headed hinner _ _ _ _
  refine .wrap id ?_
  split
  · exact hitems.tighten 0
  · exact hitems

theorem ReadsBlock.headed {quoted listed : ReadBlocks} (hquoted : quoted.IsHeaded)
    (hlisted : listed.IsHeaded) {l : Line} {rest : List Line} {block : Blocks}
    (hread : ReadsBlock quoted listed scope l rest block) : Headed block.events := by
  cases hread with
  | table => exact readTable_headed _ _ _
  | code => exact .singleton id
  | fence => exact .singleton id
  | quote => exact .wrap id (hquoted _ _)
  | rule => exact .singleton id
  | list => exact readList_headed hlisted _ _
  | definition => exact .nil
  | html => exact .singleton id
  | heading h => exact .heading (heading?_level h) (.singleton id)
  | underlined h => exact .heading (underlined?_level h) (.singleton id)
  | paragraph => exact .leaf id _

theorem readBlocks_headed {quoted listed : ReadBlocks} (hquoted : quoted.IsHeaded)
    (hlisted : listed.IsHeaded) (fuel : Nat) (sawEmpty : Bool) (lines : List Line) :
    Headed (readBlocks quoted listed scope fuel sawEmpty lines).events := by
  induction fuel generalizing sawEmpty lines with
  | zero => exact .nil
  | succ fuel ih =>
    rw [readBlocks]
    dsimp only
    split
    · exact .nil
    · split
      · exact .nil
      · exact ((readBlock_reads quoted listed scope _ _).headed hquoted hlisted).append (ih _ _)

theorem passBlocks_isHeaded : ReadBlocks.IsHeaded passBlocks := by
  intro scope lines
  unfold passBlocks
  dsimp only
  split
  · exact .nil
  · split <;> exact .nil

theorem blocksWithin_isHeaded : ∀ room, (blocksWithin room).IsHeaded
  | 0 => passBlocks_isHeaded
  | 1 => fun _ _ => readBlocks_headed passBlocks_isHeaded passBlocks_isHeaded _ _ _
  | room + 2 => fun _ _ =>
    readBlocks_headed (blocksWithin_isHeaded (room + 1)) (blocksWithin_isHeaded room) _ _ _

/-! ### The passes over a document -/

theorem readTexts_headed {refs : References} {events : List (Event Text)} (h : Headed events) :
    Headed (readTexts refs events) := by
  induction events using readTexts.induct with
  | case1 => exact .nil
  | case2 task tight source rest hbox ih =>
    rw [readTexts, if_pos hbox]
    exact .other id (.other id (.other id (ih (((h.of_cons id).of_cons id).of_cons id))))
  | case3 task tight source rest hbox ih =>
    rw [readTexts, if_neg hbox]
    exact .other id (.other id (.other id (ih (((h.of_cons id).of_cons id).of_cons id))))
  | case4 event rest hother ih =>
    rw [readTexts]
    · cases h with
      | @heading level content rest hlevel hrest =>
        -- The running text is the first event of the rest, so it is read one step later.
        have hinline : readTexts refs (.inline content :: rest) =
            .inline (readText refs content) :: readTexts refs rest := by
          rw [readTexts]
          · rfl
          · intro _ _ _ _ hstart
            cases hstart
        rw [hinline]
        exact .heading hlevel ((hinline ▸ ih (.other id hrest)).of_cons id)
      | other hevent hrest =>
        refine .other (fun hmap => hevent ?_) (ih hrest)
        cases event <;> exact hmap
    · exact hother

theorem markTaskLists_headed {α : Type} {events : List (Event α)} (h : Headed events) :
    Headed (markTaskLists events).1 := by
  induction h with
  | nil => exact .nil
  | heading hlevel _ ih =>
    rw [markTaskLists, markTaskLists]
    exact .heading hlevel ih
  | other hevent _ ih =>
    rw [markTaskLists]
    dsimp only
    split
    · exact .other hevent ih
    · exact .other id ih
    · exact .other hevent ih
    · exact .other hevent ih

theorem document_headed (source : Text) : Headed (document source) :=
  markTaskLists_headed (readTexts_headed (blocksWithin_isHeaded maxDepth _ _))

/-! ### Identifiers -/

/-- A heading of a document, with the title that its slug is made of and its identifier. -/
structure Heading where
  level : Nat
  title : Text
  id : Text
deriving DecidableEq, Repr

/-- The second events are the first ones with an identifier for each of the headings, which have
    none in the first events. All headings are listed, in their order. -/
inductive Identified : List Heading → (plain named : List (Event (List Span))) → Prop where
  | nil : Identified [] [] []
  | heading {h : Heading} {headings spans plain named} (hlevel : 1 ≤ h.level ∧ h.level ≤ 6)
      (htitle : h.title = titleOf spans) (hrest : Identified headings plain named) :
      Identified (h :: headings) (.start (.heading h.level none) :: .inline spans :: plain)
        (.start (.heading h.level (some h.id)) :: .inline spans :: named)
  | other {headings event plain named} (hevent : ¬ event.IsHeading)
      (hrest : Identified headings plain named) :
      Identified headings (event :: plain) (event :: named)

/-- Each heading has the first slug of its title that is neither taken nor the identifier of a
    heading before it. -/
inductive TakeFree : (taken : List Text) → List Heading → Prop where
  | nil {taken} : TakeFree taken []
  | cons {taken h headings} (hfree : Slug.IsFirstFree taken (Slug.ofTitle h.title) h.id)
      (hrest : TakeFree (h.id :: taken) headings) : TakeFree taken (h :: headings)

theorem identifyHeadings_identified {events : List (Event (List Span))} (h : Headed events)
    (taken : List Text) :
    ∃ headings, Identified headings events (identifyHeadings taken events) ∧
      TakeFree taken headings := by
  induction h generalizing taken with
  | nil => exact ⟨[], .nil, .nil⟩
  | @heading level spans rest hlevel _ ih =>
    have hfree := Slug.firstFree_isFirstFree taken (Slug.ofTitle (titleOf spans))
    obtain ⟨headings, hidentified, htake⟩ :=
      ih (Slug.firstFree taken (Slug.ofTitle (titleOf spans)) :: taken)
    rw [identifyHeadings]
    exact ⟨⟨level, titleOf spans, _⟩ :: headings, .heading hlevel rfl hidentified,
      .cons hfree htake⟩
  | other hevent _ ih =>
    obtain ⟨headings, hidentified, htake⟩ := ih taken
    rw [identifyHeadings]
    · exact ⟨headings, .other hevent hidentified, htake⟩
    · rintro level id spans rest rfl
      exact absurd trivial hevent

namespace TakeFree

variable {taken : List Text} {headings : List Heading}

/-- What the identifier of one heading is, given those before it. -/
theorem isFirstFree {earlier later : List Heading} {h : Heading}
    (hfree : TakeFree taken (earlier ++ h :: later)) :
    Slug.IsFirstFree (earlier.map Heading.id ++ taken) (Slug.ofTitle h.title) h.id := by
  induction earlier generalizing taken with
  | nil =>
    cases hfree with
    | cons hfree => exact hfree
  | cons first earlier ih =>
    cases hfree with
    | cons _ hrest =>
      refine (ih hrest).congr fun s => ?_
      simp only [List.map_cons, List.cons_append, List.mem_append, List.mem_cons]
      tauto

theorem notMem (hfree : TakeFree taken headings) : ∀ h ∈ headings, h.id ∉ taken := by
  induction hfree with
  | nil => exact List.forall_mem_nil _
  | cons hfree _ ih =>
    obtain ⟨-, -, hid, -⟩ := hfree
    exact List.forall_mem_cons.2 ⟨hid, fun h hh hmem => ih h hh (List.mem_cons_of_mem _ hmem)⟩

/-- No two headings have the same identifier. -/
theorem nodup (hfree : TakeFree taken headings) : (headings.map Heading.id).Nodup := by
  induction hfree with
  | nil => exact List.nodup_nil
  | cons _ hrest ih =>
    refine List.nodup_cons.2 ⟨fun hmem => ?_, ih⟩
    obtain ⟨h, hh, heq⟩ := List.mem_map.1 hmem
    exact hrest.notMem h hh (heq ▸ List.mem_cons_self)

theorem isName (hfree : TakeFree taken headings) :
    ∀ h ∈ headings, Within IsNameChar h.id := by
  induction hfree with
  | nil => exact List.forall_mem_nil _
  | cons hfree _ ih => exact List.forall_mem_cons.2 ⟨isName_of_isFirstFree (hyphenate_isName _ _) hfree, ih⟩

end TakeFree

namespace Identified

variable {headings : List Heading} {plain named : List (Event (List Span))}

theorem level (hidentified : Identified headings plain named) :
    ∀ h ∈ headings, 1 ≤ h.level ∧ h.level ≤ 6 := by
  induction hidentified with
  | nil => exact List.forall_mem_nil _
  | heading hlevel _ _ ih => exact List.forall_mem_cons.2 ⟨hlevel, ih⟩
  | other _ _ ih => exact ih

end Identified

end Docpress.Markdown
