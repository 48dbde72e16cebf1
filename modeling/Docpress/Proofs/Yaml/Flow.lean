import Docpress.Proofs.Yaml.Lookahead
import Docpress.Proofs.Yaml.Plain
/-!
Scanning within brackets. One step goes past what stands between tokens and reads one of them; a
colon shows that what was read before it was a key, if that is in the same line and not too far
away.
-/

namespace Docpress.Yaml

/-- The text begins with something that is not passed over. -/
def IsSolid (s : Text) : Prop :=
  ∀ c ∈ s.head?, c ≠ ' ' ∧ c ≠ '#' ∧ isBreak c = false ∧ c.toNat ≠ 0xFEFF

theorem IsSolid.peek {s : Text} (h : IsSolid s) (m : Mark) :
    Cursor.peek ⟨m, s⟩ 0 ≠ '#' ∧ isBreak (Cursor.peek ⟨m, s⟩ 0) = false ∧
      (Cursor.peek ⟨m, s⟩ 0).toNat ≠ 0xFEFF := by
  cases s with
  | nil => exact ⟨by simp [endChar], by simp [endChar, isBreak], by simp [endChar]⟩
  | cons c s => exact (h c rfl).2

theorem Closes.isSolid {s : Text} (h : Closes s) : IsSolid s := by
  intro c hc
  rcases h c hc with rfl | rfl | rfl <;> decide

namespace Scanner

open Reader

/-! ### Between tokens -/

theorem lineGap_spaces {spaces s : Text} (hspaces : ∀ c ∈ spaces, (c == ' ') = true)
    (hs : IsSolid s) (m : Mark) :
    lineGap ⟨m, spaces ++ s⟩ = .ok ([], ⟨m.pastAll spaces, s⟩) := by
  have hend : ∀ c ∈ s.head?, (c == ' ') = false := fun c hc => by simpa using (hs c hc).1
  obtain ⟨hcomment, hbreak, -⟩ := hs.peek (m.pastAll spaces)
  have hno : skipComment ⟨m.pastAll spaces, s⟩ = .ok ((), ⟨m.pastAll spaces, s⟩) := by
    rw [skipComment, peek_bind, if_neg (by simpa using hcomment)]
    rfl
  rw [lineGap, bind_of_ok (skipWhile_append hspaces hend m), bind_of_ok hno, takeBreak, peek_bind,
    if_pos (by simpa using hbreak)]
  rfl

theorem lineGap_line {spaces : Text} (hspaces : ∀ c ∈ spaces, (c == ' ') = true) (s : Text)
    (m : Mark) :
    lineGap ⟨m, spaces ++ '\n' :: s⟩ = .ok (['\n'], ⟨(m.pastAll spaces).past '\n', s⟩) := by
  have hend : ∀ c ∈ ('\n' :: s).head?, (c == ' ') = false := by
    rintro c ⟨⟩
    rfl
  rw [lineGap, bind_of_ok (skipWhile_append hspaces hend m)]
  rfl

theorem skipLines_loose {gap s : Text} (hgap : IsLoose gap) (hs : IsSolid s) (scanner : Scanner)
    (hrest : scanner.cursor.rest = gap ++ s) (fuel : Nat) (hfuel : gap.length < fuel) :
    ∃ allowed, (scanner.keyAllowed = true → allowed = true) ∧ skipLines fuel scanner =
      { scanner with cursor := ⟨scanner.cursor.mark.pastAll gap, s⟩, keyAllowed := allowed } := by
  induction fuel generalizing gap scanner with
  | zero => omega
  | succ fuel ih =>
    have hcursor : scanner.cursor = ⟨scanner.cursor.mark, gap ++ s⟩ := by rw [← hrest]
    obtain ⟨spaces, tail, rfl, hspaces, rfl | ⟨lines, rfl, hlines⟩⟩ := hgap.exists_spaces
    · refine ⟨scanner.keyAllowed, id, ?_⟩
      rw [skipLines_succ, hcursor, List.append_nil, lineGap_spaces hspaces hs]
    · obtain ⟨allowed, hallowed, hskip⟩ := ih hlines
        { scanner with
          cursor := ⟨(scanner.cursor.mark.pastAll spaces).past '\n', lines ++ s⟩
          keyAllowed := scanner.keyAllowed || !scanner.inFlow } rfl
        (by simp only [List.length_append, List.length_cons] at hfuel; omega)
      refine ⟨allowed, fun h => hallowed (by rw [h]; rfl), ?_⟩
      rw [skipLines_succ, hcursor, List.append_assoc, List.cons_append, lineGap_line hspaces]
      refine hskip.trans ?_
      rw [Mark.pastAll_append]
      rfl

/-- The state when the next token has been reached. -/
def arrive (s : Scanner) (cursor : Cursor) (keyAllowed : Bool) : Scanner :=
  let there := { s with cursor, keyAllowed }
  { there with keys := s.keys.filter fun (_, key) => !there.isStale key }

/-- One step goes to the next token and reads it. -/
theorem fetch_of_loose {s : Scanner} {gap text : Text} (hpassed : s.KeysPassed)
    (houter : s.outer = []) (hgap : IsLoose gap) (htext : IsSolid text)
    (hrest : s.cursor.rest = gap ++ text) :
    ∃ allowed, (s.keyAllowed = true → allowed = true) ∧
      s.fetch = dispatch (s.arrive ⟨s.cursor.mark.pastAll gap, text⟩ allowed) := by
  have hmark : pastOrderMark s.cursor = s.cursor := by
    refine if_neg ?_
    have hne : (s.cursor.peek 0).toNat ≠ 0xFEFF := by
      have hcursor : s.cursor = ⟨s.cursor.mark, gap ++ text⟩ := by rw [← hrest]
      rw [hcursor]
      cases gap with
      | nil => exact (htext.peek _).2.2
      | cons c gap => rcases hgap c List.mem_cons_self with rfl | rfl <;> simp
    simp [hne]
  obtain ⟨allowed, hallowed, hskip⟩ := skipLines_loose hgap htext s hrest
    (s.cursor.rest.length + 1) (by rw [hrest, List.length_append]; omega)
  have hthere : s.skipToToken =
      { s with cursor := ⟨s.cursor.mark.pastAll gap, text⟩, keyAllowed := allowed } := by
    rw [skipToToken_eq, hmark]
    exact hskip
  have hdrop : s.skipToToken.dropStale =
      .ok (s.arrive ⟨s.cursor.mark.pastAll gap, text⟩ allowed) := by
    rw [dropStale_of_passed hpassed.skipToToken, hthere]
    rfl
  -- Outside of all blocks there is nothing to close.
  have hunwind : ∀ (t : Scanner) (column : Int), t.outer = [] → t.unwind column = t := by
    intro t column ht
    unfold unwind
    rw [ht]
    split <;> rfl
  refine ⟨allowed, hallowed, ?_⟩
  rw [fetch_eq, hdrop]
  exact congrArg dispatch (hunwind (s.arrive _ allowed) _ houter)

/-! ### States within brackets -/

/-- Scanning stands before a text, with so many brackets open and no blocks. No token was taken, and
    no possible key has to be one. -/
structure Ready (depth : Nat) (text : Text) (s : Scanner) : Prop where
  going : s.finished = false
  untaken : s.taken = 0
  depth_eq : s.depth = depth
  indent_eq : s.indent = -1
  outer_eq : s.outer = []
  passed : s.KeysPassed
  rest : ∃ gap, IsLoose gap ∧ s.cursor.rest = gap ++ text

/-- From one state to another, tokens of some kinds are read, each of which takes up characters. The
    second state stands before a text. -/
structure Reads (kinds : List TokenKind) (depth : Nat) (text : Text) (s s' : Scanner) : Prop where
  fetches : Fetches s s'
  waiting : s'.waiting.map Token.kind = s.waiting.map Token.kind ++ kinds
  spent : s'.cursor.rest.length + kinds.length ≤ s.cursor.rest.length
  ready : Ready depth text s'

theorem Reads.trans {kinds kinds' : List TokenKind} {depth depth' : Nat} {text text' : Text}
    {s s' s'' : Scanner} (h : Reads kinds depth text s s')
    (h' : Reads kinds' depth' text' s' s'') : Reads (kinds ++ kinds') depth' text' s s'' := by
  refine ⟨h.fetches.trans h'.fetches, ?_, ?_, h'.ready⟩
  · rw [h'.waiting, h.waiting, List.append_assoc]
  · have := h.spent
    have := h'.spent
    rw [List.length_append]
    omega

/-- A gap may come first. -/
theorem Ready.skip {depth : Nat} {gap text : Text} {s : Scanner} (h : Ready depth (gap ++ text) s)
    (hgap : IsLoose gap) : Ready depth text s := by
  obtain ⟨before, hbefore, hrest⟩ := h.rest
  exact { h with rest := ⟨before ++ gap, hbefore.append hgap, by rw [hrest, List.append_assoc]⟩ }

theorem Reads.skip {kinds : List TokenKind} {depth : Nat} {gap text : Text} {s s' : Scanner}
    (h : Reads kinds depth (gap ++ text) s s') (hgap : IsLoose gap) :
    Reads kinds depth text s s' :=
  { h with ready := h.ready.skip hgap }

theorem KeysPassed.mono {s s' : Scanner} (h : s.KeysPassed) (hleads : s.cursor.Leads s'.cursor)
    (hkeys : ∀ entry ∈ s'.keys, entry ∈ s.keys ∨
      (entry.2.required = false ∧ entry.2.mark = s.mark)) : s'.KeysPassed := by
  intro entry hentry
  rcases hkeys entry hentry with hold | ⟨hrequired, hmark⟩
  · exact ⟨(h entry hold).1, Nat.le_trans (h entry hold).2 hleads.line_le⟩
  · exact ⟨hrequired, hmark ▸ hleads.line_le⟩

/-- Further on the state is as before, but for the keys that can no longer be keys. -/
theorem Ready.arrive {depth : Nat} {text : Text} {s : Scanner} (h : Ready depth text s)
    {cursor : Cursor} (hleads : s.cursor.Leads cursor) (allowed : Bool) :
    Ready depth cursor.rest (s.arrive cursor allowed) :=
  ⟨h.going, h.untaken, h.depth_eq, h.indent_eq, h.outer_eq,
    h.passed.mono hleads fun _ hentry => .inl (List.mem_filter.1 hentry).1, [], isLoose_nil, rfl⟩

/-- One step leads to a state at the next token, and what is read there comes next. -/
structure Arrives (depth : Nat) (text : Text) (s there : Scanner) : Prop where
  fetch : s.fetch = dispatch there
  ready : Ready depth text there
  rest : there.cursor.rest = text
  waiting : there.waiting = s.waiting
  length_le : text.length ≤ s.cursor.rest.length
  allowed : s.keyAllowed = true → there.keyAllowed = true

theorem Ready.arrives {depth : Nat} {text : Text} {s : Scanner} (h : Ready depth text s)
    (htext : IsSolid text) : ∃ there, Arrives depth text s there := by
  obtain ⟨gap, hgap, hrest⟩ := h.rest
  obtain ⟨allowed, hallowed, hfetch⟩ := fetch_of_loose h.passed h.outer_eq hgap htext hrest
  have hlength : text.length ≤ s.cursor.rest.length := by
    rw [hrest, List.length_append]
    omega
  exact ⟨_, hfetch, h.arrive (Cursor.leads_of_append hrest) allowed, rfl, rfl, hlength, hallowed⟩

/-- One step reads tokens of some kinds. -/
theorem Reads.single {depth depth' : Nat} {text text' : Text} {s s' : Scanner} {kind : TokenKind}
    (h : Ready depth text s) (hfetch : s.fetch = .ok s') (hready : Ready depth' text' s')
    (hwaiting : s'.waiting.map Token.kind = s.waiting.map Token.kind ++ [kind])
    (hspent : s'.cursor.rest.length < s.cursor.rest.length) : Reads [kind] depth' text' s s' :=
  ⟨.step h.going h.passed hfetch (.inl hspent) (.refl s'), hwaiting, hspent, hready⟩

/-! ### Possible keys -/

/-- Where no key has to be one, the possible key at this depth is given up. -/
theorem dropKey_of_passed {s : Scanner} (h : s.KeysPassed) :
    s.dropKey = .ok { s with keys := s.keys.filter (·.1 != s.depth) } := by
  unfold dropKey
  cases hlookup : s.keys.lookup s.depth with
  | none =>
    have hsame : s.keys.filter (·.1 != s.depth) = s.keys := by
      refine List.filter_eq_self.2 fun entry hentry => ?_
      have hne := List.lookup_eq_none_iff.1 hlookup entry hentry
      exact bne_iff_ne.2 fun heq => by simp [heq] at hne
    rw [hsame]
  | some key =>
    have hrequired : key.required = false := (h _ (lookup_mem hlookup)).1
    simp only [hrequired, Bool.false_eq_true, if_false]

/-- Where a key may begin, the next token is kept in mind as the possible key at this depth. -/
theorem saveKey_of_allowed {s : Scanner} (h : s.KeysPassed) (hindent : s.indent = -1)
    (hallowed : s.keyAllowed = true) :
    s.saveKey = .ok { s with keys := s.keys.filter (·.1 != s.depth) ++
      [(s.depth, ⟨s.taken + s.waiting.length, false, s.mark⟩)] } := by
  have hrequired : (!s.inFlow && s.indent == s.mark.column) = false := by
    have hne : s.indent ≠ s.mark.column := by omega
    simp [hne]
  unfold saveKey
  rw [if_neg (by simp [hallowed]), hrequired, dropKey_of_passed h]
  rfl

theorem saveKey_of_passed {s : Scanner} (h : s.KeysPassed) (hindent : s.indent = -1) :
    ∃ keys, s.saveKey = .ok { s with keys } ∧
      ∀ entry ∈ keys, entry ∈ s.keys ∨ (entry.2.required = false ∧ entry.2.mark = s.mark) := by
  by_cases hallowed : s.keyAllowed = true
  · refine ⟨_, saveKey_of_allowed h hindent hallowed, fun entry hentry => ?_⟩
    rcases List.mem_append.1 hentry with hold | hnew
    · exact .inl (List.mem_filter.1 hold).1
    · rw [List.mem_singleton.1 hnew]
      exact .inr ⟨rfl, rfl⟩
  · refine ⟨s.keys, ?_, fun entry hentry => .inl hentry⟩
    rw [saveKey, if_pos (by simpa using hallowed)]

/-! ### Brackets and commas -/

/-- A token of one character is read. -/
theorem Arrives.reads_next {depth depth' : Nat} {c : Char} {rest : Text} {s there : Scanner}
    {keys : List (Int × PossibleKey)} {depthNow : Int} {allowed : Bool} {kind : TokenKind}
    (h : Ready depth (c :: rest) s) (ha : Arrives depth (c :: rest) s there)
    (hdispatch : dispatch there =
      .ok (emitNext { there with keys, depth := depthNow, keyAllowed := allowed } kind 1))
    (hdepth : depthNow = depth')
    (hkeys : ∀ entry ∈ keys, entry ∈ there.keys ∨
      (entry.2.required = false ∧ entry.2.mark = there.mark)) :
    Reads [kind] depth' rest s
      (emitNext { there with keys, depth := depthNow, keyAllowed := allowed } kind 1) := by
  have hafter : (there.cursor.advance 1).rest = rest := by
    have hhere : there.cursor = ⟨there.cursor.mark, c :: rest⟩ := by rw [← ha.rest]
    rw [hhere, Cursor.advance_one]
  have hlength := ha.length_le
  refine .single h (ha.fetch.trans hdispatch) ⟨ha.ready.going, ha.ready.untaken, hdepth,
    ha.ready.indent_eq, ha.ready.outer_eq, ?_, [], isLoose_nil, hafter⟩ ?_ ?_
  · exact ha.ready.passed.mono ⟨1, rfl⟩ hkeys
  · simp [emitNext, emit, ha.waiting]
  · change (there.cursor.advance 1).rest.length < _
    rw [hafter]
    rw [List.length_cons] at hlength
    omega

theorem Arrives.peek {depth : Nat} {c : Char} {rest : Text} {s there : Scanner}
    (ha : Arrives depth (c :: rest) s there) : there.cursor.peek 0 = c := by
  simp [Cursor.peek, ha.rest]

/-- The token that a bracket opens with. -/
def IsOpening (c : Char) (kind : TokenKind) : Prop :=
  (c = '[' ∧ kind = .flowSequenceStart) ∨ (c = '\x7b' ∧ kind = .flowMappingStart)

/-- The token that a bracket closes with. -/
def IsClosing (c : Char) (kind : TokenKind) : Prop :=
  (c = ']' ∧ kind = .flowSequenceEnd) ∨ (c = '\x7d' ∧ kind = .flowMappingEnd)

theorem reads_opening {depth : Nat} {c : Char} {kind : TokenKind} {rest : Text} {s : Scanner}
    (hc : IsOpening c kind) (h : Ready depth (c :: rest) s) :
    ∃ s', Reads [kind] (depth + 1) rest s s' ∧ s'.keyAllowed = true := by
  have hsolid : IsSolid (c :: rest) := by
    rintro d ⟨⟩
    rcases hc with ⟨rfl, -⟩ | ⟨rfl, -⟩ <;> decide
  obtain ⟨there, ha⟩ := h.arrives hsolid
  have hdispatch : dispatch there = there.fetchFlowStart kind := by
    rcases hc with ⟨rfl, rfl⟩ | ⟨rfl, rfl⟩ <;>
      simp [dispatch, ha.peek, Cursor.hasMarker, endChar]
  obtain ⟨keys, hsave, hkeys⟩ := saveKey_of_passed ha.ready.passed ha.ready.indent_eq
  have hopened : dispatch there = .ok (emitNext
      { there with keys, depth := there.depth + 1, keyAllowed := true } kind 1) := by
    rw [hdispatch, fetchFlowStart, hsave]
    rfl
  exact ⟨_, ha.reads_next h hopened (by rw [ha.ready.depth_eq]; rfl) hkeys, rfl⟩

theorem reads_closing {depth : Nat} {c : Char} {kind : TokenKind} {rest : Text} {s : Scanner}
    (hc : IsClosing c kind) (h : Ready (depth + 1) (c :: rest) s) :
    ∃ s', Reads [kind] depth rest s s' := by
  have hsolid : IsSolid (c :: rest) := by
    rintro d ⟨⟩
    rcases hc with ⟨rfl, -⟩ | ⟨rfl, -⟩ <;> decide
  obtain ⟨there, ha⟩ := h.arrives hsolid
  have hclosed : dispatch there = .ok (emitNext
      { there with keys := there.keys.filter (·.1 != there.depth), depth := there.depth - 1
                   keyAllowed := false } kind 1) := by
    have hdispatch : dispatch there = there.fetchFlowEnd kind := by
      rcases hc with ⟨rfl, rfl⟩ | ⟨rfl, rfl⟩ <;>
        simp [dispatch, ha.peek, Cursor.hasMarker, endChar]
    rw [hdispatch, fetchFlowEnd, dropKey_of_passed ha.ready.passed]
    rfl
  exact ⟨_, ha.reads_next h hclosed (by rw [ha.ready.depth_eq]; omega)
    fun entry hentry => .inl (List.mem_filter.1 hentry).1⟩

theorem reads_comma {depth : Nat} {rest : Text} {s : Scanner} (h : Ready depth (',' :: rest) s) :
    ∃ s', Reads [.flowEntry] depth rest s s' ∧ s'.keyAllowed = true := by
  have hsolid : IsSolid (',' :: rest) := by
    rintro d ⟨⟩
    decide
  obtain ⟨there, ha⟩ := h.arrives hsolid
  have hcomma : dispatch there = .ok (emitNext
      { there with keys := there.keys.filter (·.1 != there.depth), depth := there.depth
                   keyAllowed := true } .flowEntry 1) := by
    have hdispatch : dispatch there = there.fetchFlowEntry := by
      simp [dispatch, ha.peek, Cursor.hasMarker, endChar]
    rw [hdispatch, fetchFlowEntry,
      dropKey_of_passed (s := { there with keyAllowed := true }) ha.ready.passed]
    rfl
  exact ⟨_, ha.reads_next h hcomma ha.ready.depth_eq
    fun entry hentry => .inl (List.mem_filter.1 hentry).1, rfl⟩

/-! ### Scalars and keys -/

/-- The text is a scalar in double quotes within one line. -/
structure IsQuoted (q chars : Text) : Prop where
  head_eq : q.head? = some '"'
  two_le : 2 ≤ q.length
  oneLine : ∀ c ∈ q, isBreak c = false
  read : ∀ m rest, quotedScalar ⟨m, q ++ rest⟩ =
    .ok (⟨.scalar { chars } false, m, m.pastAll q⟩, ⟨m.pastAll q, rest⟩)

/-- A quoted scalar is read as a whole. No key may follow it. -/
theorem dispatch_quoted {q chars rest : Text} (hq : IsQuoted q chars) {s : Scanner}
    (hrest : s.cursor.rest = q ++ rest) {keys : List (Int × PossibleKey)}
    (hsave : s.saveKey = .ok { s with keys }) :
    dispatch s = .ok { s with
      keys
      keyAllowed := false
      cursor := ⟨s.mark.pastAll q, rest⟩
      waiting := s.waiting ++ [⟨.scalar { chars } false, s.mark, s.mark.pastAll q⟩] } := by
  obtain ⟨after, rfl⟩ := List.head?_eq_some_iff.1 hq.head_eq
  have hpeek : s.cursor.peek 0 = '"' := by simp [Cursor.peek, hrest]
  have hdispatch : dispatch s = s.fetchKeyable quotedScalar := by
    simp [dispatch, hpeek, Cursor.hasMarker, endChar]
  have hread : quotedScalar s.cursor = .ok (⟨.scalar { chars } false, s.mark,
      s.mark.pastAll ('"' :: after)⟩, ⟨s.mark.pastAll ('"' :: after), rest⟩) := by
    have hhere : s.cursor = ⟨s.mark, '"' :: after ++ rest⟩ := by rw [← hrest]; rfl
    rw [hhere]
    exact hq.read s.mark rest
  rw [hdispatch, fetchKeyable, hsave]
  change (run _ quotedScalar).map _ = _
  simp only [run, hread]
  rfl

theorem IsQuoted.isSolid {q chars : Text} (hq : IsQuoted q chars) (rest : Text) :
    IsSolid (q ++ rest) := by
  obtain ⟨after, rfl⟩ := List.head?_eq_some_iff.1 hq.head_eq
  rintro c ⟨⟩
  decide

theorem reads_quoted {depth : Nat} {q chars rest : Text} (hq : IsQuoted q chars) {s : Scanner}
    (h : Ready depth (q ++ rest) s) :
    ∃ s', Reads [.scalar { chars } false] depth rest s s' := by
  obtain ⟨there, ha⟩ := h.arrives (hq.isSolid rest)
  obtain ⟨keys, hsave, hkeys⟩ := saveKey_of_passed ha.ready.passed ha.ready.indent_eq
  have hread := dispatch_quoted hq ha.rest hsave
  have hlength := ha.length_le
  have htwo := hq.two_le
  have hleads : there.cursor.Leads ⟨there.mark.pastAll q, rest⟩ := Cursor.leads_of_append ha.rest
  refine ⟨_, .single h (ha.fetch.trans hread) ⟨ha.ready.going, ha.ready.untaken, ha.ready.depth_eq,
    ha.ready.indent_eq, ha.ready.outer_eq, ha.ready.passed.mono hleads hkeys, [], isLoose_nil, rfl⟩
    ?_ ?_⟩
  · simp [ha.waiting]
  · rw [List.length_append] at hlength
    change rest.length < _
    omega

/-- What is in the same line as a key and not too far behind it comes while it can still be one. -/
theorem isStale_eq_false {s : Scanner} {key : PossibleKey} (text : Text)
    (hmark : s.mark = key.mark.pastAll text) (hline : ∀ c ∈ text, isBreak c = false)
    (hlength : text.length ≤ 1024) : s.isStale key = false := by
  unfold isStale
  rw [hmark, Mark.line_pastAll hline, Mark.index_pastAll]
  simp
  omega

/-- A colon after a possible key of the same depth, which was read last, shows that it was one. -/
theorem dispatch_colon {depth : Nat} {rest : Text} {s : Scanner} {others : List (Int × PossibleKey)}
    {key : PossibleKey} {before : List Token} {t : Token} (h : Ready (depth + 1) (':' :: rest) s)
    (hrest : s.cursor.rest = ':' :: rest) (hkeys : s.keys = others ++ [(s.depth, key)])
    (hothers : ∀ entry ∈ others, entry.1 ≠ s.depth) (hwaiting : s.waiting = before ++ [t])
    (hnumber : key.number = before.length) :
    dispatch s = .ok { s with
      keys := others
      keyAllowed := false
      cursor := s.cursor.advance 1
      waiting := before ++ [⟨.key, key.mark, key.mark⟩, t] ++
        [⟨.value, s.mark, (s.cursor.advance 1).mark⟩] } := by
  have hpeek : s.cursor.peek 0 = ':' := by simp [Cursor.peek, hrest]
  have hflow : s.inFlow = true := by
    rw [inFlow, h.depth_eq, bne_iff_ne]
    omega
  have hdispatch : dispatch s = s.fetchValue := by
    simp [dispatch, hpeek, Cursor.hasMarker, endChar, hflow]
  have hkept : others.filter (·.1 != s.depth) = others :=
    List.filter_eq_self.2 fun entry hentry => bne_iff_ne.2 (hothers entry hentry)
  have hlookup : s.keys.lookup s.depth = some key := by
    have hnone : others.lookup s.depth = none :=
      List.lookup_eq_none_iff.2 fun entry hentry => by simpa using (hothers entry hentry).symm
    rw [hkeys, List.lookup_append, hnone]
    simp
  have hdropped : s.keys.filter (·.1 != s.depth) = others := by
    rw [hkeys, List.filter_append, hkept]
    simp
  rw [hdispatch, fetchValue_of_some hlookup, fetchValueOf_of_within (.inl hflow), hdropped]
  have hinsert : s.waiting.take (key.number - s.taken) ++ [⟨.key, key.mark, key.mark⟩] ++
      s.waiting.drop (key.number - s.taken) = before ++ [⟨.key, key.mark, key.mark⟩, t] := by
    rw [h.untaken, hnumber, hwaiting]
    simp
  rw [← hinsert]
  rfl

/-- A quoted scalar where a key may begin is kept in mind. -/
theorem fetch_quoted {depth : Nat} {q chars rest : Text} (hq : IsQuoted q chars) {s : Scanner}
    (h : Ready depth (q ++ rest) s) (hallowed : s.keyAllowed = true) :
    ∃ (after : Scanner) (others : List (Int × PossibleKey)) (m : Mark) (t : Token),
      s.fetch = .ok after ∧ Ready depth rest after ∧ after.cursor = ⟨m.pastAll q, rest⟩ ∧
      after.keys = others ++ [(after.depth, ⟨s.waiting.length, false, m⟩)] ∧
      (∀ entry ∈ others, entry.1 ≠ after.depth) ∧ after.waiting = s.waiting ++ [t] ∧
      t.kind = .scalar { chars } false ∧ (q ++ rest).length ≤ s.cursor.rest.length := by
  obtain ⟨there, ha⟩ := h.arrives (hq.isSolid rest)
  have hsave := saveKey_of_allowed ha.ready.passed ha.ready.indent_eq (ha.allowed hallowed)
  have hread := dispatch_quoted hq ha.rest hsave
  have hleads : there.cursor.Leads ⟨there.mark.pastAll q, rest⟩ := Cursor.leads_of_append ha.rest
  refine ⟨_, there.keys.filter (·.1 != there.depth), there.mark,
    ⟨.scalar { chars } false, there.mark, there.mark.pastAll q⟩, ha.fetch.trans hread,
    ⟨ha.ready.going, ha.ready.untaken, ha.ready.depth_eq, ha.ready.indent_eq, ha.ready.outer_eq,
      ?_, [], isLoose_nil, rfl⟩, rfl, ?_, ?_, ?_, rfl, ha.length_le⟩
  · refine ha.ready.passed.mono hleads fun entry hentry => ?_
    rcases List.mem_append.1 hentry with hold | hnew
    · exact .inl (List.mem_filter.1 hold).1
    · rw [List.mem_singleton.1 hnew]
      exact .inr ⟨rfl, rfl⟩
  · rw [← ha.waiting, ha.ready.untaken, Nat.zero_add]
  · exact fun entry hentry => bne_iff_ne.1 (List.mem_filter.1 hentry).2
  · rw [← ha.waiting]

/-- The key that was saved last is kept if it can still be one. -/
theorem exists_arrive_keys {s : Scanner} {others : List (Int × PossibleKey)} {depth : Int}
    {key : PossibleKey} (hkeys : s.keys = others ++ [(depth, key)]) {cursor : Cursor} {allowed : Bool}
    (hfresh : (s.arrive cursor allowed).isStale key = false) :
    ∃ kept, (s.arrive cursor allowed).keys = kept ++ [(depth, key)] ∧ kept ⊆ others := by
  refine ⟨others.filter fun (_, key) => !(s.arrive cursor allowed).isStale key, ?_,
    fun entry hentry => (List.mem_filter.1 hentry).1⟩
  have hsplit : ∀ p : Int × PossibleKey → Bool, p (depth, key) = true →
      s.keys.filter p = others.filter p ++ [(depth, key)] := by
    intro p hp
    rw [hkeys, List.filter_append, List.filter_cons_of_pos hp]
    rfl
  exact hsplit (fun (_, key) => !(s.arrive cursor allowed).isStale key) (by simp [hfresh])

/-- A quoted scalar before a colon is a key. -/
theorem reads_name {depth : Nat} {q chars spaces rest : Text} (hq : IsQuoted q chars)
    (hspaces : ∀ c ∈ spaces, c = ' ') (hlength : q.length + spaces.length ≤ 1024) {s : Scanner}
    (h : Ready (depth + 1) (q ++ (spaces ++ ':' :: rest)) s) (hallowed : s.keyAllowed = true) :
    ∃ s', Reads [.key, .scalar { chars } false, .value] (depth + 1) rest s s' := by
  obtain ⟨after, others, m, t, hfetch, hready, hcursor, hkeys, hothers, hwaiting, ht, hspent⟩ :=
    fetch_quoted hq h hallowed
  have hloose : IsLoose spaces := fun c hc => .inl (hspaces c hc)
  have hline : ∀ c ∈ q ++ spaces, isBreak c = false := by
    refine List.forall_mem_append.2 ⟨hq.oneLine, fun c hc => ?_⟩
    rw [hspaces c hc]
    decide
  have hsolid : IsSolid (':' :: rest) := by
    rintro c ⟨⟩
    decide
  obtain ⟨allowed, -, hnext⟩ := fetch_of_loose hready.passed hready.outer_eq hloose hsolid
    (by rw [hcursor])
  have hleads := Cursor.leads_of_append (congrArg Cursor.rest hcursor)
  have hfresh : (after.arrive ⟨after.cursor.mark.pastAll spaces, ':' :: rest⟩ allowed).isStale
      ⟨s.waiting.length, false, m⟩ = false := by
    refine isStale_eq_false (q ++ spaces) ?_ hline (by rw [List.length_append]; omega)
    change after.cursor.mark.pastAll spaces = m.pastAll (q ++ spaces)
    rw [hcursor, Mark.pastAll_append]
  obtain ⟨kept, hkept, hsubset⟩ := exists_arrive_keys hkeys hfresh
  have hthere := hready.arrive hleads allowed
  have hcolon := dispatch_colon hthere rfl hkept (fun entry hentry => hothers entry (hsubset hentry))
    hwaiting rfl
  have htwo := hq.two_le
  simp only [List.length_append, List.length_cons] at hspent
  have hless : after.cursor.rest.length < s.cursor.rest.length := by
    rw [hcursor]
    simp only [List.length_append, List.length_cons]
    omega
  have hless' : rest.length < after.cursor.rest.length := by
    rw [hcursor]
    simp only [List.length_append, List.length_cons]
    omega
  refine ⟨_, .step h.going h.passed hfetch (.inl hless)
    (.step hready.going hready.passed (hnext.trans hcolon) (.inl hless') (.refl _)), ?_, ?_,
    hthere.going, hthere.untaken, hthere.depth_eq, hthere.indent_eq, hthere.outer_eq, ?_,
    [], isLoose_nil, rfl⟩
  · simp [ht]
  · change rest.length + 3 ≤ _
    omega
  · exact hthere.passed.mono ⟨1, rfl⟩ fun entry hentry =>
      .inl (hkept ▸ List.mem_append_left _ hentry)

/-- The text is a plain scalar of one word: it begins with a letter or a digit, perhaps after a minus
    sign. -/
structure IsWord (w : Text) : Prop where
  isWordChar : ∀ c ∈ w, isWordChar c = true
  begins : ∃ c s, w = c :: s ∧
    (c.isAlphanum = true ∨ c = '-' ∧ ∃ d ∈ s.head?, d.isAlphanum = true)

/-- A word begins a plain scalar and nothing else. -/
theorem dispatch_word {w rest : Text} (hw : IsWord w) {s : Scanner}
    (hrest : s.cursor.rest = w ++ rest) : dispatch s = s.fetchPlain := by
  obtain ⟨c, after, rfl, hc⟩ := hw.begins
  have hpeek : s.cursor.peek 0 = c := by simp [Cursor.peek, hrest]
  have hmark : ∀ {c d : Char}, c.isAlphanum = true → d.isAlphanum = false → c ≠ d := by
    rintro c d hc hd rfl
    simp [hc] at hd
  rcases hc with hc | ⟨rfl, d, hd, hdigit⟩
  · have hne : ∀ d : Char, d.isAlphanum = false → c ≠ d := fun d hd => hmark hc hd
    have hgap := (isWordChar_spec (hw.isWordChar c List.mem_cons_self)).1
    have hplain : canBePlain s.inFlow c (s.cursor.peek 1) = true := by
      simp [canBePlain, hgap, hne]
    simp [dispatch, hpeek, Cursor.hasMarker, hne, endChar, hplain]
  · obtain ⟨after, rfl⟩ := List.head?_eq_some_iff.1 (Option.mem_def.1 hd)
    have hnext : s.cursor.peek 1 = d := by simp [Cursor.peek, hrest]
    have hgap := (isWordChar_spec (hw.isWordChar d (by simp))).1
    have hplain : canBePlain s.inFlow '-' d = true := by
      simp [canBePlain, hgap]
    simp [dispatch, hpeek, hnext, Cursor.hasMarker, hmark hdigit, endChar, hgap, hplain]

theorem IsWord.isSolid {w : Text} (hw : IsWord w) (rest : Text) : IsSolid (w ++ rest) := by
  obtain ⟨c, after, rfl, -⟩ := hw.begins
  have hc := hw.isWordChar c List.mem_cons_self
  obtain ⟨hgap, -, -, -, hcomment⟩ := isWordChar_spec hc
  have hlt := toNat_lt_of_isWordChar hc
  simp only [isGapOrEnd, isSpaceOrEnd, isBreakOrEnd, Bool.or_eq_false_iff, beq_eq_false_iff_ne]
    at hgap
  rintro d ⟨⟩
  exact ⟨hgap.1.2, hcomment, hgap.1.1.1, by omega⟩

theorem reads_word {depth : Nat} {w gap rest : Text} (hw : IsWord w) (hgap : IsLoose gap)
    (hrest : Closes rest) (hflow : 0 < depth ∨ rest = []) {s : Scanner}
    (h : Ready depth (w ++ (gap ++ rest)) s) :
    ∃ s', Reads [.scalar { chars := w } true] depth rest s s' := by
  obtain ⟨there, ha⟩ := h.arrives (hw.isSolid _)
  obtain ⟨keys, hsave, hkeys⟩ := saveKey_of_passed ha.ready.passed ha.ready.indent_eq
  have hne : w ≠ [] := by
    obtain ⟨c, after, rfl, -⟩ := hw.begins
    exact List.cons_ne_nil _ _
  have hinFlow : there.inFlow = true ∨ rest = [] := by
    refine hflow.imp_left fun hpos => ?_
    rw [inFlow, ha.ready.depth_eq, bne_iff_ne]
    omega
  obtain ⟨stop, lineEnd, hscalar⟩ := plainScalar_word hw.isWordChar hne hgap hrest hinFlow
    (there.indent + 1).toNat there.mark
  have hread : dispatch there = .ok { there with
      keys
      keyAllowed := lineEnd
      cursor := ⟨(there.mark.pastAll w).pastAll gap, rest⟩
      waiting := there.waiting ++ [⟨.scalar { chars := w } true, there.mark, stop⟩] } := by
    have hhere : there.cursor = ⟨there.mark, w ++ (gap ++ rest)⟩ := by rw [← ha.rest]; rfl
    rw [dispatch_word hw ha.rest, fetchPlain, hsave]
    change (run _ (plainScalar there.inFlow (there.indent + 1).toNat) >>= _) = _
    simp only [run, hhere, hscalar]
    rfl
  have hleads : there.cursor.Leads ⟨(there.mark.pastAll w).pastAll gap, rest⟩ := by
    rw [← Mark.pastAll_append]
    exact Cursor.leads_of_append (by rw [ha.rest, List.append_assoc])
  have hlength := ha.length_le
  have hpos := List.length_pos_iff.2 hne
  refine ⟨_, .single h (ha.fetch.trans hread) ⟨ha.ready.going, ha.ready.untaken, ha.ready.depth_eq,
    ha.ready.indent_eq, ha.ready.outer_eq, ha.ready.passed.mono hleads hkeys, [], isLoose_nil, rfl⟩
    ?_ ?_⟩
  · simp [ha.waiting]
  · simp only [List.length_append] at hlength
    change rest.length < _
    omega

/-! ### The end -/

theorem reads_end {s : Scanner} (h : Ready 0 [] s) :
    ∃ s', Fetches s s' ∧ s'.finished = true ∧ s'.keys = [] ∧
      s'.waiting.map Token.kind = s.waiting.map Token.kind ++ [.streamEnd] := by
  have hempty : IsSolid [] := fun c hc => by cases hc
  obtain ⟨there, ha⟩ := h.arrives hempty
  have hpeek : there.cursor.peek 0 = endChar := by simp [Cursor.peek, ha.rest]
  have hunwind : there.unwind (-1) = there := by
    unfold unwind
    rw [ha.ready.outer_eq]
    split <;> rfl
  have hread : dispatch there = .ok (emitHere { there with
      keyAllowed := false, keys := [], finished := true } .streamEnd) := by
    have hdispatch : dispatch there = there.fetchStreamEnd := by simp [dispatch, hpeek]
    rw [hdispatch, fetchStreamEnd, hunwind, dropKey_of_passed ha.ready.passed]
    rfl
  refine ⟨_, .step h.going h.passed (ha.fetch.trans hread) (.inr rfl) (.refl _), rfl, rfl, ?_⟩
  simp [emitHere, emit, ha.waiting]

end Scanner

/-- The tokens of a text that is read to its end. -/
theorem Token.ofText_of_reads {text : Text} {kinds : List TokenKind}
    (hallowed : ∀ c ∈ text, isAllowed c = true)
    (hreads : ∀ s, Scanner.Ready 0 text s → ∃ s', Scanner.Reads kinds 0 [] s s') :
    ∃ tokens, Token.ofText text = (tokens, none) ∧
      tokens.map Token.kind = .streamStart :: kinds ++ [.streamEnd] := by
  have hforbidden : forbidden? text = none := by
    unfold forbidden?
    rw [List.findIdx?_eq_none_iff.2 fun c hc => by simp [hallowed c hc]]
    rfl
  have hready : Scanner.Ready 0 text (Scanner.emitHere { cursor := { rest := text } } .streamStart) :=
    ⟨rfl, rfl, rfl, rfl, rfl, List.forall_mem_nil _, [], isLoose_nil, rfl⟩
  obtain ⟨s', hread⟩ := hreads _ hready
  obtain ⟨final, hend, hfinished, hkeys, hwaiting⟩ := Scanner.reads_end hread.ready
  rw [hread.waiting] at hwaiting
  have hlength : final.waiting.length ≤ text.length + 2 := by
    have hspent : s'.cursor.rest.length + kinds.length ≤ text.length := hread.spent
    have hcount := congrArg List.length hwaiting
    simp [Scanner.emitHere, Scanner.emit] at hcount
    omega
  refine ⟨final.waiting, ?_, hwaiting⟩
  unfold Token.ofText
  rw [hforbidden]
  exact Scanner.tokens_of_fetches (hread.fetches.trans hend) hfinished hkeys (List.forall_mem_nil _)
    (by omega)

end Docpress.Yaml
