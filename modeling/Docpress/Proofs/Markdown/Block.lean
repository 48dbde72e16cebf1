import Docpress.Markdown.Block
import Docpress.Proofs.Markdown.Line
/-!
What holds of a document's text and passes to the texts of its blocks, and to the texts that its
reference definitions are read from. Headings have no identifiers yet, and without a `<` there is no
block of HTML.
-/

namespace Docpress.Markdown

open Text

variable {P : Text → Prop}

/-- No heading has an identifier yet. -/
def Element.IsUnnamed : Element → Prop
  | .heading _ (some _) => False
  | _ => True

/-- The texts of an event have the property, and that of a block of HTML begins with a `<`. -/
def Event.Holds (P : Text → Prop) : Event Text → Prop
  | .start e => e.IsUnnamed
  | .inline content => P content
  | .code content => P content
  | .fence info content => P info ∧ P content
  | .html content => (∃ rest, P ('<' :: rest)) ∧ P content
  | _ => True

/-- The texts of the blocks have the property, and the definitions are read from such texts. -/
structure Blocks.Holds (P : Text → Prop) (b : Blocks) : Prop where
  events : ∀ e ∈ b.events, e.Holds P
  references : ∀ ref ∈ b.references, ∃ s rest, P s ∧ definition? s = some (ref.1, ref.2, rest)

/-- Blocks that are read from lines with the property have it. -/
def ReadBlocks.Keeps (P : Text → Prop) (read : ReadBlocks) : Prop :=
  ∀ scope lines, (∀ l ∈ lines, P l.text) → (read scope lines).Holds P

variable {scope : Scope}

/-- No blocks at all. -/
theorem Blocks.holds_of_nil {b : Blocks} (hevents : b.events = []) (hreferences : b.references = []) :
    b.Holds P :=
  ⟨by simp [hevents], by simp [hreferences]⟩

/-- One event without definitions. -/
theorem Blocks.holds_singleton {e : Event Text} {used : Nat} (he : e.Holds P) :
    Blocks.Holds P { events := [e], used } :=
  ⟨fun _ h => List.mem_singleton.1 h ▸ he, List.forall_mem_nil _⟩

theorem leaf_holds {element : Element} (helement : element.IsUnnamed) {content : Text}
    (h : P content) : ∀ e ∈ Event.leaf element content, Event.Holds P e := by
  intro e he
  simp only [Event.leaf, List.mem_cons, List.not_mem_nil, or_false] at he
  obtain rfl | rfl | rfl := he
  · exact helement
  · exact h
  · trivial

theorem wrap_holds {element : Element} (helement : element.IsUnnamed)
    {events : List (Event Text)} (h : ∀ e ∈ events, Event.Holds P e) :
    ∀ e ∈ Event.wrap element events, Event.Holds P e := by
  intro e he
  simp only [Event.wrap, List.cons_append, List.mem_cons, List.mem_append, List.not_mem_nil,
    or_false] at he
  obtain rfl | he | rfl := he
  · exact helement
  · exact h e he
  · trivial

theorem tighten_holds {depth : Nat} {events : List (Event Text)}
    (h : ∀ e ∈ events, Event.Holds P e) : ∀ e ∈ tighten depth events, Event.Holds P e := by
  induction events generalizing depth with
  | nil => exact h
  | cons event rest ih =>
    obtain ⟨hevent, hrest⟩ := List.forall_mem_cons.1 h
    unfold tighten
    split
    · rename_i heq
      cases heq
    · rename_i heq
      obtain ⟨rfl, rfl⟩ := List.cons.inj heq
      refine List.forall_mem_cons.2 ⟨?_, ih hrest⟩
      split <;> trivial
    · rename_i heq
      obtain ⟨rfl, rfl⟩ := List.cons.inj heq
      refine List.forall_mem_cons.2 ⟨?_, ih hrest⟩
      split <;> trivial
    · rename_i heq
      obtain ⟨rfl, rfl⟩ := List.cons.inj heq
      exact List.forall_mem_cons.2 ⟨hevent, ih hrest⟩

/-! ### Blocks without inner blocks -/

theorem fenceLines_subset {fence : Fence} {lines : List Line} :
    (fenceLines scope fence lines).1 ⊆ lines := by
  induction lines with
  | nil => exact List.Subset.refl _
  | cons l rest ih =>
    rw [fenceLines]
    split
    · exact List.nil_subset _
    · dsimp only
      split
      · exact List.nil_subset _
      · exact List.cons_subset_cons l ih

theorem continuation_subset {kind : Interrupted} {lines : List Line} :
    continuation scope kind lines ⊆ lines := by
  induction lines with
  | nil => exact List.Subset.refl _
  | cons l rest ih =>
    rw [continuation]
    split
    · exact List.nil_subset _
    · split
      · exact List.cons_subset_cons l ih
      · exact List.nil_subset _

theorem readCode_holds (hP : Kept P) {lines : List Line} (h : ∀ l ∈ lines, P l.text) :
    (readCode scope lines).Holds P := by
  refine Blocks.holds_singleton
    (hP.append (dropLastEnd_kept hP (dedentAll_kept hP _ fun l hl => ?_)) hP.lineEnd)
  have hblock := (List.dropWhile_suffix _).subset (List.mem_reverse.1 hl)
  exact h l ((List.takeWhile_prefix _).subset (List.mem_reverse.1 hblock))

theorem fence?_info_kept (hP : Kept P) {l : Line} {fence : Fence} (hl : P l.text)
    (h : fence? scope l = some fence) : P fence.info := by
  unfold fence? at h
  split at h
  · cases h
  · split at h
    · cases h
    · dsimp only at h
      split at h
      · obtain rfl := Option.some.inj h
        exact hP.drop (content_kept hP hl) _
      · cases h

theorem readFence_holds (hP : Kept P) {fence : Fence} {l : Line} {rest : List Line}
    (hinfo : P fence.info) (hrest : ∀ l ∈ rest, P l.text) :
    (readFence scope fence l rest).Holds P :=
  Blocks.holds_singleton ⟨hinfo, dedentAll_kept hP _ fun l hl => hrest l (fenceLines_subset hl)⟩

theorem readHtml_holds (hP : Kept P) {kind : Html.BlockStart} {l : Line} {rest : List Line}
    (hstart : ∃ rest, P ('<' :: rest)) (hl : P l.text) (hrest : ∀ l ∈ rest, P l.text) :
    (readHtml scope kind l rest).Holds P := by
  refine Blocks.holds_singleton ⟨hstart, dedentAll_kept hP _ ?_⟩
  exact List.forall_mem_cons.2 ⟨hl, fun l hl => hrest l (List.take_subset _ _ hl)⟩

theorem paragraphText_kept (hP : Kept P) {lines : List Line} (h : ∀ l ∈ lines, P l.text) :
    P (paragraphText scope lines) :=
  hP.trim (by decide) (dropLastEnd_kept hP (dedentAll_kept hP _ h))

theorem readParagraph_holds (hP : Kept P) {l : Line} {rest : List Line} (hl : P l.text)
    (hrest : ∀ l ∈ rest, P l.text) : (readParagraph scope l rest).Holds P := by
  refine ⟨leaf_holds (by trivial) (paragraphText_kept hP (List.forall_mem_cons.2 ⟨hl, ?_⟩)),
    List.forall_mem_nil _⟩
  exact fun l hl => hrest l (continuation_subset hl)

theorem bodyRows_kept (hP : Kept P) {columns : Nat} {filled : Int} {lines : List Line}
    (h : ∀ l ∈ lines, P l.text) :
    ∀ row ∈ bodyRows scope columns filled lines, ∀ cell ∈ row, P cell := by
  induction lines generalizing filled with
  | nil => simp [bodyRows]
  | cons l rest ih =>
    obtain ⟨hl, hrest⟩ := List.forall_mem_cons.1 h
    rw [bodyRows]
    split
    · simp
    · exact List.forall_mem_cons.2
        ⟨rowCells_kept hP (hP.trim (by decide) (content_kept hP hl)), ih hrest⟩

theorem rowEvents_holds (hP : Kept P) {header : Bool} {aligns : List (Option Alignment)}
    {cells : List Text} (h : ∀ cell ∈ cells, P cell) :
    ∀ e ∈ rowEvents header aligns cells, Event.Holds P e := by
  refine wrap_holds (by trivial) fun e he => ?_
  obtain ⟨⟨align, cell⟩, hcell, he⟩ := List.mem_flatMap.1 he
  refine leaf_holds (by trivial) ?_ e he
  obtain hcell | hcell := List.mem_append.1 (List.of_mem_zip hcell).2
  · exact h cell hcell
  · rw [List.eq_of_mem_replicate hcell]
    exact hP.nil

theorem readTable_holds (hP : Kept P) {cells : List Text} {aligns : List (Option Alignment)}
    {rest : List Line} (hcells : ∀ cell ∈ cells, P cell) (hrest : ∀ l ∈ rest, P l.text) :
    (readTable scope cells aligns rest).Holds P := by
  refine ⟨wrap_holds (by trivial) fun e he => ?_, List.forall_mem_nil _⟩
  obtain he | he := List.mem_append.1 he
  · exact wrap_holds (by trivial) (rowEvents_holds hP hcells) e he
  · split at he
    · cases he
    · refine wrap_holds (by trivial) (fun e he => ?_) e he
      obtain ⟨row, hrow, he⟩ := List.mem_flatMap.1 he
      exact rowEvents_holds hP (bodyRows_kept hP hrest row hrow) e he

theorem definitionStart?_holds (hP : Kept P) {lines : List Line} (h : ∀ l ∈ lines, P l.text)
    {reference : Text × LinkTarget} {used : Nat}
    (hstart : definitionStart? scope lines = some (reference, used)) :
    ∃ s rest, P s ∧ definition? s = some (reference.1, reference.2, rest) := by
  cases lines with
  | nil => cases hstart
  | cons l rest =>
    obtain ⟨hl, hrest⟩ := List.forall_mem_cons.1 h
    rw [definitionStart?] at hstart
    split at hstart
    · rename_i s hcontent
      split at hstart
      · cases hstart
      · obtain ⟨⟨name, target, after⟩, hdefinition, heq⟩ := Option.map_eq_some_iff.1 hstart
        obtain ⟨rfl, -⟩ := Prod.mk.inj heq
        refine ⟨_, after, ?_, hdefinition⟩
        have hs : P ('[' :: s) := hcontent ▸ content_kept hP hl
        have hmore : P ((continuation scope .definition rest).flatMap fun l =>
            l.content ++ ['\n']) := hP.flatMap fun k hk =>
          hP.append (content_kept hP (hrest k (continuation_subset hk))) hP.lineEnd
        exact hP.append (hP.drop hs 1) (hP.append hP.lineEnd hmore)
    · cases hstart

/-! ### Quotes and lists -/

theorem unquote_kept (hP : Kept P) {l : Line} (h : P l.text) : P (unquote l).text := by
  have hafter := hP.drop (content_kept hP h) 1
  unfold unquote
  dsimp only
  split
  · rename_i text htext
    rw [htext] at hafter
    exact hP.drop hafter 1
  · rename_i text htext
    split
    · rw [htext] at hafter
      exact hP.drop hafter 1
    · exact hafter
  · exact hafter

theorem quotedLines_kept (hP : Kept P) {lastEmpty : Bool} {lines : List Line}
    (h : ∀ l ∈ lines, P l.text) : ∀ l ∈ quotedLines scope lastEmpty lines, P l.text := by
  induction lines generalizing lastEmpty with
  | nil => simp [quotedLines]
  | cons l rest ih =>
    obtain ⟨hl, hrest⟩ := List.forall_mem_cons.1 h
    rw [quotedLines]
    split
    · simp
    · split
      · exact List.forall_mem_cons.2 ⟨unquote_kept hP hl, ih hrest⟩
      · split
        · simp
        · exact List.forall_mem_cons.2 ⟨hl, ih hrest⟩

theorem readQuote_holds (hP : Kept P) {inner : ReadBlocks} (hinner : inner.Keeps P) {l : Line}
    {rest : List Line} (hl : P l.text) (hrest : ∀ l ∈ rest, P l.text) :
    (readQuote inner scope l rest).Holds P := by
  have hlines : ∀ k ∈ unquote l :: quotedLines scope (unquote l).isEmpty rest, P k.text :=
    List.forall_mem_cons.2 ⟨unquote_kept hP hl, quotedLines_kept hP hrest⟩
  have hcontent := hinner { scope with indent := 0 } _ hlines
  exact ⟨wrap_holds (by trivial) hcontent.events, hcontent.references⟩

theorem readItem_holds {inner : ReadBlocks} (hinner : inner.Keeps P) {m : Marker} {l : Line}
    {rest : List Line} (hl : P l.text) (hrest : ∀ l ∈ rest, P l.text) :
    (readItem inner scope m l rest).Holds P := by
  unfold readItem
  dsimp only
  split
  · exact Blocks.holds_of_nil rfl rfl
  · exact hinner _ _ (List.forall_mem_cons.2 ⟨hl, hrest⟩)

theorem readItems_holds {inner : ReadBlocks} (hinner : inner.Keeps P) {fuel : Nat}
    {afterEmpty : Bool} {m : Marker} {lines : List Line} (h : ∀ l ∈ lines, P l.text) :
    (readItems inner scope fuel afterEmpty m lines).Holds P := by
  induction fuel generalizing afterEmpty m lines with
  | zero => exact Blocks.holds_of_nil rfl rfl
  | succ fuel ih =>
    cases lines with
    | nil => exact Blocks.holds_of_nil rfl rfl
    | cons l rest =>
      obtain ⟨hl, hrest⟩ := List.forall_mem_cons.1 h
      have hitem : (readItem inner scope m l rest).Holds P := readItem_holds hinner hl hrest
      rw [readItems]
      dsimp only
      split
      · exact ⟨wrap_holds (by trivial) hitem.events, hitem.references⟩
      · rename_i next _
        have hmore (afterEmpty : Bool) : (readItems inner scope fuel afterEmpty next
            ((l :: rest).drop (readItem inner scope m l rest).used)).Holds P :=
          ih fun k hk => h k (List.drop_subset _ _ hk)
        exact ⟨List.forall_mem_append.2 ⟨wrap_holds (by trivial) hitem.events, (hmore _).events⟩,
          List.forall_mem_append.2 ⟨hitem.references, (hmore _).references⟩⟩

theorem readList_holds {inner : ReadBlocks} (hinner : inner.Keeps P) {m : Marker}
    {lines : List Line} (h : ∀ l ∈ lines, P l.text) : (readList inner scope m lines).Holds P := by
  have hitems : (readItems inner scope lines.length false m lines).Holds P :=
    readItems_holds hinner h
  refine ⟨wrap_holds (by trivial) ?_, hitems.references⟩
  split
  · exact tighten_holds hitems.events
  · exact hitems.events

/-! ### Documents -/

/-- How one block is read from a line and those after it: the ways to begin a block, each with what
    shows that the line begins a block in this way. -/
inductive ReadsBlock (quoted listed : ReadBlocks) (scope : Scope) (l : Line) (rest : List Line) :
    Blocks → Prop where
  | table {cells aligns} (h : tableStart? scope (l :: rest) = some (cells, aligns)) :
      ReadsBlock quoted listed scope l rest (readTable scope cells aligns (rest.drop 1))
  | code : ReadsBlock quoted listed scope l rest (readCode scope (l :: rest))
  | fence {fence} (h : fence? scope l = some fence) :
      ReadsBlock quoted listed scope l rest (readFence scope fence l rest)
  | quote : ReadsBlock quoted listed scope l rest (readQuote quoted scope l rest)
  | rule : ReadsBlock quoted listed scope l rest { events := [.rule], used := 1 }
  | list (m : Marker) : ReadsBlock quoted listed scope l rest (readList listed scope m (l :: rest))
  | definition {reference used}
      (h : definitionStart? scope (l :: rest) = some (reference, used)) :
      ReadsBlock quoted listed scope l rest { references := [reference], used }
  | html {kind} (h : htmlStart? scope l = some kind) :
      ReadsBlock quoted listed scope l rest (readHtml scope kind l rest)
  | heading {level content} (h : heading? scope l = some (level, content)) :
      ReadsBlock quoted listed scope l rest { events := headingBlock level content, used := 1 }
  | underlined {more level} (h : underlined? scope rest = some (more, level)) :
      ReadsBlock quoted listed scope l rest
        { events := headingBlock level (paragraphText scope (l :: rest.take more)),
          used := more + 2 }
  | paragraph : ReadsBlock quoted listed scope l rest (readParagraph scope l rest)

theorem readBlock_reads (quoted listed : ReadBlocks) (scope : Scope) (l : Line)
    (rest : List Line) :
    ReadsBlock quoted listed scope l rest (readBlock quoted listed scope l rest) := by
  unfold readBlock
  split
  · rename_i htable
    exact .table htable
  · split
    · exact .code
    · split
      · rename_i hfence
        exact .fence hfence
      · split
        · exact .quote
        · split
          · exact .rule
          · split
            · exact .list _
            · split
              · rename_i hdefinition
                exact .definition hdefinition
              · split
                · rename_i hhtml
                  exact .html hhtml
                · split
                  · rename_i hheading
                    exact .heading hheading
                  · split
                    · rename_i hunderlined
                      exact .underlined hunderlined
                    · exact .paragraph

theorem ReadsBlock.holds (hP : Kept P) {quoted listed : ReadBlocks}
    (hquoted : quoted.Keeps P) (hlisted : listed.Keeps P) {l : Line} {rest : List Line}
    (hl : P l.text) (hrest : ∀ l ∈ rest, P l.text) {block : Blocks}
    (hread : ReadsBlock quoted listed scope l rest block) : block.Holds P := by
  have hlines : ∀ k ∈ l :: rest, P k.text := List.forall_mem_cons.2 ⟨hl, hrest⟩
  have hheading {level : Nat} {content : Text} {used : Nat} (h : P content) :
      Blocks.Holds P { events := headingBlock level content, used } :=
    ⟨leaf_holds (by trivial) h, List.forall_mem_nil _⟩
  cases hread with
  | table h =>
    exact readTable_holds hP (tableStart?_kept hP hlines h)
      fun k hk => hrest k (List.drop_subset _ _ hk)
  | code => exact readCode_holds hP hlines
  | fence h => exact readFence_holds hP (fence?_info_kept hP hl h) hrest
  | quote => exact readQuote_holds hP hquoted hl hrest
  | rule => exact Blocks.holds_singleton trivial
  | list m => exact readList_holds hlisted hlines
  | definition h =>
    refine ⟨List.forall_mem_nil _, fun ref href => ?_⟩
    obtain rfl := List.mem_singleton.1 href
    exact definitionStart?_holds hP hlines h
  | html h => exact readHtml_holds hP (exists_of_htmlStart? hP hl h) hl hrest
  | heading h => exact hheading (heading?_kept hP hl h)
  | underlined h =>
    refine hheading (paragraphText_kept hP ?_)
    exact List.forall_mem_cons.2 ⟨hl, fun k hk => hrest k (List.take_subset _ _ hk)⟩
  | paragraph => exact readParagraph_holds hP hl hrest

theorem readBlocks_holds (hP : Kept P) {quoted listed : ReadBlocks}
    (hquoted : quoted.Keeps P) (hlisted : listed.Keeps P) {fuel : Nat} {sawEmpty : Bool}
    {lines : List Line} (h : ∀ l ∈ lines, P l.text) :
    (readBlocks quoted listed scope fuel sawEmpty lines).Holds P := by
  induction fuel generalizing sawEmpty lines with
  | zero => exact Blocks.holds_of_nil rfl rfl
  | succ fuel ih =>
    rw [readBlocks]
    dsimp only
    split
    · exact Blocks.holds_of_nil rfl rfl
    · rename_i l rest hdrop
      have hlines : ∀ k ∈ l :: rest, P k.text := by
        rw [← hdrop]
        exact fun k hk => h k (List.drop_subset _ _ hk)
      split
      · exact Blocks.holds_of_nil rfl rfl
      · obtain ⟨hl, hrest⟩ := List.forall_mem_cons.1 hlines
        have hblock : (readBlock quoted listed scope l rest).Holds P :=
          (readBlock_reads quoted listed scope l rest).holds hP hquoted hlisted hl hrest
        have hmore (sawEmpty : Bool) : (readBlocks quoted listed scope fuel sawEmpty
            ((l :: rest).drop (readBlock quoted listed scope l rest).used)).Holds P :=
          ih fun k hk => hlines k (List.drop_subset _ _ hk)
        exact ⟨List.forall_mem_append.2 ⟨hblock.events, (hmore _).events⟩,
          List.forall_mem_append.2 ⟨hblock.references, (hmore _).references⟩⟩

theorem passBlocks_keeps : ReadBlocks.Keeps P passBlocks := by
  intro scope lines _
  unfold passBlocks
  dsimp only
  split
  · exact Blocks.holds_of_nil rfl rfl
  · split <;> exact Blocks.holds_of_nil rfl rfl

theorem blocksWithin_keeps (hP : Kept P) : ∀ room, (blocksWithin room).Keeps P
  | 0 => passBlocks_keeps
  | 1 => fun _ _ h => readBlocks_holds hP passBlocks_keeps passBlocks_keeps h
  | room + 2 => fun _ _ h =>
    readBlocks_holds hP (blocksWithin_keeps hP (room + 1)) (blocksWithin_keeps hP room) h

/-- The texts of a document's blocks have what is kept of its own text. -/
theorem blocksOf_holds (hP : Kept P) {source : Text} (h : P (normalize source)) :
    (blocksOf source).Holds P :=
  blocksWithin_keeps hP maxDepth {} _ (linesOf_kept hP h)

/-- The characters of an event's texts satisfy `p`, and those of a block of HTML hold a `<`. -/
def Event.Within (p : Char → Prop) : Event Text → Prop
  | .inline content => Text.Within p content
  | .code content => Text.Within p content
  | .fence info content => Text.Within p info ∧ Text.Within p content
  | .html content => p '<' ∧ Text.Within p content
  | _ => True

/-- The texts of a document's blocks are within what its own text is within. -/
theorem blocksOf_within {p : Char → Prop} (hown : HoldsOfOwn p) {source : Text}
    (h : Text.Within p source) : ∀ e ∈ (blocksOf source).events, e.Within p := by
  intro e he
  have hevent := (blocksOf_holds hown.kept (normalize_within hown h)).events e he
  cases e with
  | start => trivial
  | html content =>
    obtain ⟨⟨rest, hrest⟩, hcontent⟩ := hevent
    exact ⟨(within_cons.1 hrest).1, hcontent⟩
  | _ => exact hevent

end Docpress.Markdown
