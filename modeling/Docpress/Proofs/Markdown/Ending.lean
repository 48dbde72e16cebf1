import Docpress.Markdown.Html
import Docpress.Proofs.Markdown.Block
import Mathlib.Data.List.Forall2
/-!
How a document ends. Whatever its blocks are, the last event is one that is written with a tag of
its own, so running text is never the last thing in the HTML.
-/

namespace Docpress.Markdown

open Text

/-- An event that may be the last one of a document: it closes an element that has tags, or is a
    block of its own. -/
def Event.IsFinal {α : Type} : Event α → Prop
  | .start _ => False
  | .stop e => e.isHidden = false
  | .inline _ => False
  | .html content => '<' ∈ content
  | _ => True

/-- The last of the events, if there is one, may be the last one of a document. -/
def EndsFinal {α : Type} (events : List (Event α)) : Prop :=
  ∀ e ∈ events.getLast?, e.IsFinal

variable {α : Type} {events rest : List (Event α)} {event : Event α}

theorem endsFinal_nil : EndsFinal ([] : List (Event α)) := by
  simp [EndsFinal]

theorem endsFinal_singleton : EndsFinal [event] ↔ event.IsFinal := by
  simp [EndsFinal]

theorem endsFinal_cons_cons {next : Event α} :
    EndsFinal (event :: next :: rest) ↔ EndsFinal (next :: rest) := by
  rw [EndsFinal, List.getLast?_cons_cons]
  rfl

theorem endsFinal_cons :
    EndsFinal (event :: rest) ↔ (rest = [] → event.IsFinal) ∧ EndsFinal rest := by
  cases rest with
  | nil => simp [endsFinal_singleton, endsFinal_nil]
  | cons next rest => simp [endsFinal_cons_cons]

theorem endsFinal_append_singleton : EndsFinal (events ++ [event]) ↔ event.IsFinal := by
  simp [EndsFinal]

theorem EndsFinal.append (h : EndsFinal events) (hrest : EndsFinal rest) :
    EndsFinal (events ++ rest) := by
  intro e he
  rw [List.getLast?_append] at he
  cases hlast : rest.getLast? with
  | none =>
    rw [hlast] at he
    exact h e he
  | some last =>
    rw [hlast] at he
    exact hrest e (by rwa [hlast])

/-! ### Blocks -/

/-- Taking columns from a line takes nothing of its content. -/
theorem mem_dropColumns {base width lead column : Nat} {s : Text} {c : Char}
    (hc : isIndent c = false) (h : c ∈ s.drop lead) : c ∈ dropColumns base width lead column s := by
  induction s generalizing lead column with
  | nil => simp at h
  | cons d s ih =>
    rw [dropColumns]
    split
    · exact List.mem_append_right _ (List.mem_of_mem_drop h)
    · split
      · rename_i hindent
        refine ih ?_
        cases lead with
        | zero =>
          rcases List.mem_cons.1 h with rfl | h
          · exact absurd (hc.symm.trans hindent) Bool.false_ne_true
          · exact h
        | succ lead => exact h
      · split
        · rename_i hlead
          obtain ⟨lead, rfl⟩ := Nat.exists_eq_succ_of_ne_zero (Nat.ne_of_gt hlead)
          exact ih h
        · exact List.mem_of_mem_drop h

/-- A block of HTML begins with a bracket, which is in its content. -/
theorem readHtml_endsFinal {scope : Scope} {kind : Html.BlockStart} {l : Line} {rest : List Line}
    (h : htmlStart? scope l = some kind) : EndsFinal (readHtml scope kind l rest).events := by
  have hcontent : l.content.head? = some '<' := by
    unfold htmlStart? at h
    split at h
    · cases h
    · unfold Html.blockStart? at h
      dsimp only at h
      split at h
      · cases h
      · rename_i hhead
        simpa using hhead
  have hline : '<' ∈ l.dedent scope.indent :=
    List.mem_append_left _ (mem_dropColumns rfl (List.mem_of_mem_head? hcontent))
  refine endsFinal_singleton.2 ?_
  exact List.mem_append_left _ hline

/-- Whatever block is read from a line, it ends with its own tag, or makes no events. -/
theorem ReadsBlock.endsFinal {quoted listed : ReadBlocks} {scope : Scope} {l : Line}
    {rest : List Line} {block : Blocks} (hread : ReadsBlock quoted listed scope l rest block) :
    EndsFinal block.events := by
  have hwrap {e : Element} (he : e.isHidden = false) (events : List (Event Text)) :
      EndsFinal (Event.wrap e events) := endsFinal_append_singleton.2 he
  have hleaf {e : Element} (he : e.isHidden = false) (content : Text) :
      EndsFinal (Event.leaf e content) := hwrap he [.inline content]
  cases hread with
  | table => exact hwrap rfl _
  | code => exact endsFinal_singleton.2 trivial
  | fence => exact endsFinal_singleton.2 trivial
  | quote => exact hwrap rfl _
  | rule => exact endsFinal_singleton.2 trivial
  | list => exact hwrap rfl _
  | definition => exact endsFinal_nil
  | html h => exact readHtml_endsFinal h
  | heading => exact hleaf rfl _
  | underlined => exact hleaf rfl _
  | paragraph => exact hleaf rfl _

theorem readBlocks_endsFinal (quoted listed : ReadBlocks) (scope : Scope) (fuel : Nat)
    (sawEmpty : Bool) (lines : List Line) :
    EndsFinal (readBlocks quoted listed scope fuel sawEmpty lines).events := by
  induction fuel generalizing sawEmpty lines with
  | zero => exact endsFinal_nil
  | succ fuel ih =>
    rw [readBlocks]
    dsimp only
    split
    · exact endsFinal_nil
    · split
      · exact endsFinal_nil
      · exact (readBlock_reads quoted listed scope _ _).endsFinal.append (ih _ _)

theorem blocksOf_endsFinal (source : Text) : EndsFinal (blocksOf source).events :=
  readBlocks_endsFinal _ _ _ _ _ _

/-! ### The passes over a document -/

/-- Events that are changed one by one end well if they did before. -/
theorem EndsFinal.of_forall₂ {β : Type} {events : List (Event α)} {changed : List (Event β)}
    (hchange : List.Forall₂ (fun e e' => e.IsFinal → e'.IsFinal) events changed)
    (h : EndsFinal events) : EndsFinal changed := by
  induction hchange with
  | nil => exact endsFinal_nil
  | @cons e e' events changed he hrest ih =>
    obtain ⟨hlast, hevents⟩ := endsFinal_cons.1 h
    refine endsFinal_cons.2 ⟨fun hnil => he (hlast ?_), ih hevents⟩
    exact List.length_eq_zero_iff.1 (hrest.length_eq.trans (List.length_eq_zero_iff.2 hnil))

theorem readTexts_endsFinal {refs : References} {events : List (Event Text)}
    (h : EndsFinal events) : EndsFinal (readTexts refs events) := by
  refine h.of_forall₂ ?_
  clear h
  induction events using readTexts.induct with
  | case1 => exact .nil
  | case2 task tight source rest hbox ih =>
    rw [readTexts, if_pos hbox]
    exact .cons False.elim (.cons False.elim (.cons False.elim ih))
  | case3 task tight source rest hbox ih =>
    rw [readTexts, if_neg hbox]
    exact .cons False.elim (.cons False.elim (.cons False.elim ih))
  | case4 event rest hother ih =>
    rw [readTexts]
    · refine .cons (fun he => ?_) ih
      cases event <;> exact he
    · exact hother

theorem markTaskLists_endsFinal (h : EndsFinal events) : EndsFinal (markTaskLists events).1 := by
  refine h.of_forall₂ ?_
  clear h
  induction events with
  | nil => exact .nil
  | cons event rest ih =>
    rw [markTaskLists]
    dsimp only
    split
    · exact .cons id ih
    · exact .cons False.elim ih
    · exact .cons id ih
    · exact .cons id ih

theorem identifyHeadings_endsFinal {taken : List Text} {events : List (Event (List Span))}
    (h : EndsFinal events) : EndsFinal (identifyHeadings taken events) := by
  refine h.of_forall₂ ?_
  clear h
  induction taken, events using identifyHeadings.induct with
  | case1 => exact .nil
  | case2 taken level id spans rest slug ih =>
    rw [identifyHeadings]
    exact .cons False.elim (.cons False.elim ih)
  | case3 taken event rest hother ih =>
    rw [identifyHeadings]
    · exact .cons id ih
    · exact hother

/-- Under every option a document ends with the tag of a block. -/
theorem document_endsFinal (source : Text) : EndsFinal (document source) :=
  markTaskLists_endsFinal (readTexts_endsFinal (blocksOf_endsFinal source))

end Docpress.Markdown
