import Docpress.Proofs.InlineTag.Tag
import Docpress.Proofs.Markdown.Paragraph
import Docpress.Proofs.Renderer.Tags
import Docpress.Proofs.Url.Slashes
/-!
Lines of words and inline tags, from the source to the HTML. They come out as they were written: the
underscores in tags are guarded from Markdown and lose the guard in it, and the quotes in tags
become entities and are decoded again.
-/

namespace Docpress

open Text Markdown InlineTag Highlight

/-! ### Lines -/

/-- A character that the body of a tag may hold so that the tag survives. -/
def isLiteralBody (c : Char) : Bool :=
  c.isAlphanum || [' ', '_', '.', ':', '#', '-', '"'].contains c

/-- What a line is made of: words of ASCII letters and digits, and tags. -/
inductive Item where
  | word (s : Text) (nonempty : s ≠ []) (isWord : IsWord s)
  | tag (body : Text) (nonempty : body ≠ []) (literal : ∀ c ∈ body, isLiteralBody c = true)

namespace Item

/-- The item as it is written in a source. -/
def text : Item → Text
  | word s _ _ => s
  | tag body _ _ => tagOf body

/-- The item as Markdown is given it. -/
def guarded : Item → Text
  | word s _ _ => s
  | tag body _ _ => guardUnderscores false (tagOf body)

end Item

/-- Items with single spaces between them. -/
def literalLine (first : Item) (rest : List Item) : Text :=
  Text.join [' '] ((first :: rest).map Item.text)

/-- The line as Markdown is given it. -/
def guardedLine (first : Item) (rest : List Item) : Text :=
  Text.join [' '] ((first :: rest).map Item.guarded)

/-- Items are taken one after another, each but the first after a space. -/
theorem join_map_items (f : Item → Text) (first : Item) (rest : List Item) :
    Text.join [' '] ((first :: rest).map f) = f first ++ rest.flatMap fun item => ' ' :: f item := by
  rw [List.map_cons, join_cons, List.flatMap_map]
  rfl

/-! ### What a tag holds -/

theorem isTagBody_of_literal {body : Text} (hne : body ≠ [])
    (h : ∀ c ∈ body, isLiteralBody c = true) : IsTagBody body := by
  refine ⟨hne, fun c hc => ?_⟩
  have hstops : ∀ d ∈ ['}', '\r', '\n'], isLiteralBody d = false :=
    List.all_iff_forall_prop.1 (by decide)
  have hall : ∀ d ∈ ['}', '\r', '\n'], c ≠ d := by
    rintro d hd rfl
    exact Bool.false_ne_true ((hstops c hd).symm.trans (h c hc))
  simp [isBody, hall]

/-- In the items nothing has a meaning but the underscore. -/
theorem Item.isQuiet_text (item : Item) : ∀ c ∈ item.text, isQuiet c = true ∨ c = '_' := by
  cases item with
  | word s _ hs =>
    intro c hc
    exact .inl (by simp [isQuiet, hs c hc])
  | tag body _ hbody =>
    refine List.forall_mem_append.2 ⟨List.forall_mem_append.2
      ⟨List.all_iff_forall_prop.1 (by decide), fun c hc => ?_⟩, List.all_iff_forall_prop.1 (by decide)⟩
    have hliteral := hbody c hc
    simp only [isLiteralBody, Bool.or_eq_true, List.contains_iff_mem, List.mem_cons,
      List.not_mem_nil, or_false] at hliteral
    rcases hliteral with halnum | rfl | rfl | rfl | rfl | rfl | rfl | rfl
    · exact .inl (by simp [isQuiet, halnum])
    all_goals decide

/-- With its underscores guarded a text still stands for itself. -/
theorem reads_guardUnderscores {s : Text} (h : ∀ c ∈ s, isQuiet c = true ∨ c = '_') :
    Reads (guardUnderscores false s) s := by
  induction s with
  | nil => exact .nil
  | cons c s ih =>
    obtain ⟨hc, hs⟩ := List.forall_mem_cons.1 h
    rcases hc with hc | rfl
    · have hunderscore : (c == '_') = false := by simpa using isQuiet_ne hc (by decide)
      have hslash : (c == '\\') = false := by simpa using isQuiet_ne hc (by decide)
      rw [guardUnderscores, hunderscore, hslash]
      exact .char hc (ih hs)
    · exact .escape (ih hs)

theorem Item.reads (item : Item) : Reads item.guarded item.text := by
  cases item with
  | word s _ hs => exact reads_of_isQuiet fun c hc => by simp [isQuiet, hs c hc]
  | tag body hne hbody => exact reads_guardUnderscores (Item.tag body hne hbody).isQuiet_text

theorem reads_guardedLine (first : Item) (rest : List Item) :
    Reads (guardedLine first rest) (literalLine first rest) := by
  rw [guardedLine, literalLine, join_map_items, join_map_items]
  refine first.reads.append ?_
  induction rest with
  | nil => exact .nil
  | cons item rest ih =>
    rw [List.flatMap_cons, List.flatMap_cons]
    exact .append (.char (by decide) item.reads) ih

/-! ### Changing the tags of a line -/

/-- Tags are changed in one item of a line after another. -/
theorem mapTags_join_append {f : Text → Text} {before after : Item → Text}
    (h : ∀ item t, mapTags f (before item ++ t) = after item ++ mapTags f t)
    (first : Item) (rest : List Item) (t : Text) :
    mapTags f (Text.join [' '] ((first :: rest).map before) ++ t) =
      Text.join [' '] ((first :: rest).map after) ++ mapTags f t := by
  rw [join_map_items, join_map_items, List.append_assoc, h, List.append_assoc]
  congr 1
  induction rest with
  | nil => rfl
  | cons item rest ih =>
    rw [List.flatMap_cons, List.flatMap_cons, List.append_assoc, List.cons_append,
      mapTags_cons_of_none rfl, h, ih, List.append_assoc, List.cons_append]

/-- Guarding the underscores of a line guards those of its tags. -/
theorem escapeUnderscores_literalLine (first : Item) (rest : List Item) :
    escapeUnderscores (literalLine first rest) = guardedLine first rest := by
  have hitem : ∀ (item : Item) t, mapTags (guardUnderscores false) (item.text ++ t) =
      item.guarded ++ mapTags (guardUnderscores false) t := by
    intro item t
    cases item with
    | word s _ hs => exact mapTags_append_of_notMem (hs.notMem (by decide)) t
    | tag body hne hbody => exact mapTags_tagOf_append (isTagBody_of_literal hne hbody) t
  have hline := mapTags_join_append hitem first rest []
  rw [List.append_nil] at hline
  exact hline.trans (List.append_nil _)

/-- Decoding the quotes of what was escaped gives it back, if only quotes were escaped. -/
theorem replaceAll_quoteEntity_escape {s : Text} (h : ∀ c ∈ s, c ∉ ['&', '<', '>']) :
    replaceAll quoteEntity ['"'] (Html.escape s) = s := by
  induction s with
  | nil => rfl
  | cons c s ih =>
    obtain ⟨hc, hs⟩ := List.forall_mem_cons.1 h
    rw [Html.escape_cons]
    by_cases hquote : c = '"'
    · subst hquote
      exact (replaceAll_append_self (by decide)).trans (congrArg ('"' :: ·) (ih hs))
    · have hsame : Html.escapeChar c = [c] := by
        rcases Html.escapeChar_cases c with hsame | ⟨hspecial, -⟩
        · exact hsame
        · simp_all
      have hamp : c ≠ '&' := by
        rintro rfl
        exact hc (by simp)
      rw [hsame, List.singleton_append, replaceAll_cons_of_not, ih hs]
      intro rest heq
      exact hamp (List.cons.inj heq).1

/-- Escaping a body closes no tag. -/
theorem isTagBody_escape {body : Text} (h : IsTagBody body) : IsTagBody (Html.escape body) := by
  obtain ⟨c, body, rfl⟩ := List.exists_cons_of_ne_nil h.1
  have hchar : ∀ c, isBody c = true →
      Html.escapeChar c ≠ [] ∧ ∀ d ∈ Html.escapeChar c, isBody d = true := by
    intro c hc
    rcases Html.escapeChar_cases c with hsame | ⟨-, name, hname, hsame⟩
    · rw [hsame]
      simpa using hc
    · rw [hsame]
      have hnames : ∀ name ∈ Html.entityNames, ('&' :: name).all isBody = true := by decide
      exact ⟨List.cons_ne_nil _ _, List.all_eq_true.1 (hnames name hname)⟩
  refine ⟨?_, fun d hd => ?_⟩
  · rw [Html.escape_cons]
    exact List.append_ne_nil_of_left_ne_nil (hchar c (h.2 c (by simp))).1 _
  · obtain ⟨c, hc, hd⟩ := List.mem_flatMap.1 hd
    exact (hchar c (h.2 c hc)).2 d hd

/-- Decoding the quotes of a line that was escaped gives the line back. -/
theorem decodeQuotes_escape_literalLine_append (first : Item) (rest : List Item) (t : Text) :
    decodeQuotes (Html.escape (literalLine first rest) ++ t) =
      literalLine first rest ++ decodeQuotes t := by
  have hescape : Html.escape (literalLine first rest) =
      Text.join [' '] ((first :: rest).map fun item => Html.escape item.text) := by
    rw [literalLine, join_map_items, join_map_items, Html.escape_append, Html.escape, Html.escape,
      List.flatMap_assoc]
    rfl
  rw [hescape]
  refine mapTags_join_append (fun item t => ?_) first rest t
  have hplain : ∀ c ∈ item.text, c ∉ ['&', '<', '>'] := by
    have hspecial : ∀ c ∈ ['&', '<', '>'], ¬ (isQuiet c = true ∨ c = '_') :=
      List.all_iff_forall_prop.1 (by decide)
    exact fun c hc hmem => hspecial c hmem (item.isQuiet_text c hc)
  cases item with
  | word s _ hs =>
    rw [Item.text, Html.escape_of_isUnescaped (Html.isUnescaped_of_isWord hs)]
    exact mapTags_append_of_notMem (hs.notMem (by decide)) t
  | tag body hne hbody =>
    have htag : Html.escape (tagOf body) = tagOf (Html.escape body) := by
      rw [tagOf, Html.escape_append, Html.escape_append]
      rfl
    rw [Item.text, htag, mapTags_tagOf_append (isTagBody_escape (isTagBody_of_literal hne hbody)),
      ← htag]
    exact congrArg (· ++ _) (replaceAll_quoteEntity_escape hplain)

/-! ### The line as Markdown is given it -/

/-- Guarding a tag leaves what encloses its body. -/
theorem Item.guarded_tag {body : Text} (hne : body ≠ [])
    (h : ∀ c ∈ body, isLiteralBody c = true) :
    (Item.tag body hne h).guarded = opening ++ (guardUnderscores false body ++ ['}']) := by
  have hbody : '\\' ∉ body := fun hmem => absurd (h _ hmem) (by decide)
  have hopening : guardUnderscores false opening = opening := by decide
  have hclosing : guardUnderscores false ['}'] = ['}'] := by decide
  rw [Item.guarded, tagOf, List.append_assoc, guardUnderscores_append (by decide),
    guardUnderscores_append hbody, hopening, hclosing]

/-- The ends of an item: letters, digits and braces. -/
theorem Item.exists_ends (item : Item) :
    (∃ c s, item.guarded = c :: s ∧ (c.isAlphanum = true ∨ c = '{')) ∧
      ∃ s c, item.guarded = s ++ [c] ∧ (c.isAlphanum = true ∨ c = '}') := by
  cases item with
  | word s hne hs =>
    refine ⟨?_, s.dropLast, s.getLast hne, (List.dropLast_append_getLast hne).symm,
      .inl (hs _ (List.getLast_mem hne))⟩
    obtain ⟨c, s, rfl⟩ := List.exists_cons_of_ne_nil hne
    exact ⟨c, s, rfl, .inl (hs c (by simp))⟩
  | tag body hne hbody =>
    rw [Item.guarded_tag]
    exact ⟨⟨_, _, rfl, .inr rfl⟩, _, '}', (List.append_assoc _ _ _).symm, .inr rfl⟩

/-- At signs are braced in an item and in what follows it. -/
theorem Item.atSignsBraced_append (item : Item) {t : Text} (ht : BareLink.AtSignsBraced t)
    (hhead : t.head? ≠ some '@') : BareLink.AtSignsBraced (item.guarded ++ t) := by
  refine BareLink.AtSignsBraced.append ?_ ht hhead
  cases item with
  | word s _ hs => exact BareLink.atSignsBraced_of_notMem (hs.notMem (by decide))
  | tag body hne hbody =>
    have hmem : '@' ∉ body := fun hmem => absurd (hbody _ hmem) (by decide)
    have hguarded : '@' ∉ guardUnderscores false body ++ ['}'] := by
      refine Text.within_ne_iff.1 (Text.Within.append ?_ (Text.within_ne_iff.2 (by decide)))
      exact guardUnderscores_within (by decide) false (Text.within_ne_iff.2 hmem)
    rw [Item.guarded_tag]
    refine BareLink.AtSignsBraced.append ?_ (BareLink.atSignsBraced_of_notMem hguarded) ?_
    · exact List.isChain_pair.2 fun _ => rfl
    · exact fun hhead => hguarded (List.mem_of_mem_head? hhead)

/-- What follows the first item begins with a space, if there is anything. -/
theorem head?_flatMap_items (f : Item → Text) (rest : List Item) :
    ∀ c ∈ (rest.flatMap fun item => ' ' :: f item).head?, c = ' ' := by
  cases rest with
  | nil => simp
  | cons item rest => simp [List.flatMap_cons]

/-- No address is found in the line. -/
theorem isAddressless_guardedLine (first : Item) (rest : List Item) :
    BareLink.IsAddressless (guardedLine first rest) := by
  have hreads := reads_guardedLine first rest
  refine ⟨hreads.notMem (by decide) (by decide) (by decide), hreads.ascii, ?_⟩
  have hhead : ∀ rest : List Item,
      (rest.flatMap fun item => ' ' :: item.guarded).head? ≠ some '@' := by
    intro rest h
    exact absurd (head?_flatMap_items Item.guarded rest _ h) (by decide)
  have hrest : BareLink.AtSignsBraced (rest.flatMap fun item => ' ' :: item.guarded) := by
    clear hreads
    induction rest with
    | nil => exact .nil
    | cons item rest ih =>
      have hitem := item.atSignsBraced_append ih (hhead rest)
      refine BareLink.AtSignsBraced.append (s := [' ']) (.singleton _) hitem ?_
      obtain ⟨⟨c, s, heq, hc⟩, -⟩ := item.exists_ends
      rw [heq]
      rintro hc'
      obtain rfl : c = '@' := Option.some.inj hc'
      exact absurd hc (by decide)
  rw [guardedLine, join_map_items]
  exact first.atSignsBraced_append hrest (hhead rest)

/-- After the digits at its start an item goes on with a letter or a brace, or ends. -/
theorem Item.head?_dropWhile_isDigit (item : Item) :
    ∀ c ∈ (item.guarded.dropWhile Char.isDigit).head?, c.isAlphanum = true ∨ c = '{' := by
  cases item with
  | word s _ hs =>
    exact fun c hc => .inl (hs c ((List.dropWhile_sublist _).subset (List.mem_of_mem_head? hc)))
  | tag body hne hbody =>
    rw [Item.guarded_tag, opening, List.cons_append, List.dropWhile_cons_of_neg (by decide)]
    exact fun c hc => .inr (Option.some.inj hc).symm

/-- The line does not look like an item of a list: after the digits at its start comes a letter, a
    brace, a space or nothing. -/
theorem marker?_guardedLine (first : Item) (rest : List Item) :
    marker? (guardedLine first rest) = none := by
  obtain ⟨⟨c, s, heq, hc⟩, -⟩ := first.exists_ends
  have hmarks : ∀ d ∈ ['*', '-', '+', '.', ')'], ¬ (Char.isAlphanum d = true ∨ d = '{') :=
    List.all_iff_forall_prop.1 (by decide)
  have hline : guardedLine first rest =
      first.guarded ++ rest.flatMap fun item => ' ' :: item.guarded :=
    join_map_items Item.guarded first rest
  rw [hline, heq, List.cons_append]
  refine marker?_eq_none
    (fun hmem => hmarks c (List.mem_append_left ['.', ')'] hmem) hc) fun d hd hmem => ?_
  have hmark := hmarks d (List.mem_append_right ['*', '-', '+'] hmem)
  rw [← List.cons_append, ← heq, List.dropWhile_append] at hd
  split at hd
  · have hhead := head?_flatMap_items Item.guarded rest
    cases hrest : rest.flatMap fun item => ' ' :: item.guarded with
    | nil => simp [hrest] at hd
    | cons e t =>
      obtain rfl : e = ' ' := hhead e (by rw [hrest]; rfl)
      rw [hrest, List.dropWhile_cons_of_neg (by decide)] at hd
      obtain rfl : ' ' = d := Option.some.inj hd
      exact absurd hmem (by decide)
  · rename_i hne
    refine hmark (first.head?_dropWhile_isDigit d ?_)
    rwa [List.head?_append_of_ne_nil _ (by simpa using hne)] at hd

/-- Markdown reads the line as a paragraph. -/
theorem isPlainLine_guardedLine (first : Item) (rest : List Item) :
    IsPlainLine (guardedLine first rest) := by
  have hreads := reads_guardedLine first rest
  refine ⟨?_, ?_, marker?_guardedLine first rest, fun c hc => ⟨?_, ?_⟩,
    hreads.notMem (by decide) (by decide) (by decide)⟩
  · obtain ⟨⟨c, s, heq, hc⟩, -⟩ := first.exists_ends
    rw [guardedLine, join_map_items, heq]
    exact ⟨c, _, rfl, hc⟩
  · rw [guardedLine, join_map_items]
    obtain rfl | ⟨front, item, rfl⟩ := List.eq_nil_or_concat' rest
    · obtain ⟨-, s, c, heq, hc⟩ := first.exists_ends
      exact ⟨s, c, by rw [heq]; simp, hc⟩
    · obtain ⟨-, s, c, heq, hc⟩ := item.exists_ends
      refine ⟨first.guarded ++ (front.flatMap fun item => ' ' :: item.guarded) ++ ' ' :: s, c, ?_,
        hc⟩
      rw [List.flatMap_append, List.flatMap_singleton, heq]
      simp only [List.append_assoc, List.cons_append]
  · rintro rfl
    exact hreads.notMem (by decide) (by decide) (by decide) hc
  · rintro rfl
    exact hreads.notMem (by decide) (by decide) (by decide) hc

/-! ### Rendering -/

/-- Markdown writes the line as a paragraph, with or without a highlighter. -/
theorem Renderer.engine_guardedLine (r : Renderer) (i : Installation) (state : LoadState)
    (first : Item) (rest : List Item) :
    (r.engine i state (guardedLine first rest)).html =
      .ok ("<p>".toList ++ Html.escape (literalLine first rest) ++ "</p>\n".toList) := by
  have hreads := reads_guardedLine first rest
  have hevents : r.config.document (guardedLine first rest) =
      Event.leaf (.paragraph false) (quietSpans [] (guardedLine first rest)) := by
    rw [MarkdownConfig.document, document_of_reads (isPlainLine_guardedLine first rest) hreads
      (isAddressless_guardedLine first rest)]
    split <;> rfl
  have hwrite := writeDocument_of_reads r.config.hardwrap hreads
  rw [Renderer.engine, ← hwrite, ← hevents]
  cases r.backend i with
  | none => rfl
  | some backend =>
    have hfences : fences (r.config.document (guardedLine first rest)) = [] := by
      rw [hevents]
      rfl
    simp only [Renderer.engineWith, hfences, highlightAll, Except.map]

/-- The steps after Markdown give the line back. -/
theorem restore_literalLine (first : Item) (rest : List Item) :
    restore ("<p>".toList ++ Html.escape (literalLine first rest) ++ "</p>\n".toList) =
      "<p>".toList ++ literalLine first rest ++ "</p>".toList := by
  have hopen : "<p>".toList = ['<', 'p', '>'] := by decide
  have hclose : "</p>".toList = '<' :: ['/', 'p', '>'] := by decide
  have hend : "</p>\n".toList = ['<', '/', 'p'] ++ '>' :: ['\n'] := by decide
  have hslash : '/' ∉ Html.escape (literalLine first rest) :=
    Html.notMem_escape (by decide)
      ((reads_guardedLine first rest).notMem_shown (by decide) (by decide))
  generalize hline : Html.escape (literalLine first rest) = html
  have htrim : trimBlankEnd ("<p>".toList ++ html ++ "</p>\n".toList) =
      "<p>".toList ++ html ++ "</p>".toList := by
    rw [hend, ← List.append_assoc, trimBlankEnd, trimEnd_append_cons (by decide)
      (List.all_eq_true.1 (by decide)), hclose]
    simp
  have happly : Html.decodeApostrophes ("<p>".toList ++ html ++ "</p>".toList) =
      "<p>".toList ++ html ++ "</p>".toList := by
    have hpart : "&#39;".toList = '&' :: "#39;".toList := by decide
    refine replaceAll_of_not_hasPart ?_
    rw [hpart, hclose, hasPart_append_cons (by decide), hopen,
      hasPart_append_of_notMem (by decide), ← hpart, ← hline,
      Html.hasPart_apostrophe_escape, Bool.false_or]
    decide
  have hshow : Url.showSlashes ("<p>".toList ++ html ++ "</p>".toList) =
      "<p>".toList ++ html ++ "</p>".toList := by
    have hlead : '/' ∉ "<p>".toList ++ html := by
      rw [List.mem_append, not_or]
      exact ⟨by decide, hline ▸ hslash⟩
    have hshown : Url.showSlashes ("<p>".toList ++ html) = "<p>".toList ++ html :=
      Url.substitute_separatorTo_of_notMem (by decide) hlead
    have hrest : Url.showSlashes ['/', 'p', '>'] = ['/', 'p', '>'] := by decide
    rw [hclose, Url.showSlashes_append_cons (by decide), hshown, hrest]
  rw [restore, htrim, happly, hshow, ← hline, List.append_assoc]
  exact (mapTags_append_of_notMem (by decide) _).trans (congrArg ("<p>".toList ++ ·)
    (decodeQuotes_escape_literalLine_append first rest _))

/-- A line of words and inline tags is rendered as it was written, in a paragraph. -/
theorem Renderer.render_literalLine (r : Renderer) (i : Installation) (state : LoadState)
    (first : Item) (rest : List Item) :
    (r.render i state (literalLine first rest)).html =
      .ok ("<p>".toList ++ literalLine first rest ++ "</p>".toList) := by
  have hslash : '/' ∉ guardedLine first rest :=
    (reads_guardedLine first rest).notMem (by decide) (by decide) (by decide)
  rw [Renderer.html_render, protect, escapeUnderscores_literalLine,
    Url.hideSlashes, Url.substitute_separatorTo_of_notMem (d := '/') (by decide) hslash,
    Renderer.engine_guardedLine, Except.map, restore_literalLine]

end Docpress
