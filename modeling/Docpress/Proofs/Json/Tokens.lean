import Docpress.Proofs.Json.Number
import Docpress.Proofs.Json.Quoted
import Docpress.Proofs.Yaml.Flow
/-!
The tokens of a JSON document. Its brackets, commas and colons are those of YAML, its names are keys,
and its leaves are scalars.
-/

namespace Docpress.Json

open Yaml Yaml.Scanner

/-! ### Leaves -/

/-- The text of a leaf as a scalar. -/
def Leaf.chars : Leaf → Text
  | .string s => s.map StringChar.value
  | l => l.text

/-- The leaf has no quotes. -/
def Leaf.isPlain : Leaf → Bool
  | .string _ => false
  | _ => true

/-- The characters of a string that YAML reads as JSON does end no line, and documents may hold
    them. -/
theorem StringChar.forall_text {x : StringChar} (h : x.isYaml = true) :
    ∀ c ∈ x.text, isAllowed c = true ∧ isBreak c = false := by
  have hdigit : ∀ d : HexDigit, isAllowed d.char = true ∧ isBreak d.char = false := fun d =>
    Text.forall_of_toNat_lt (P := fun c => (Text.hexDigit? c).isSome = true →
      isAllowed c = true ∧ isBreak c = false) (by decide +kernel) d.toNat_lt d.isHex
  cases x with
  | plain c hc =>
    intro d hd
    rw [List.mem_singleton.1 hd]
    simpa [isYaml] using h
  | letter l =>
    cases l <;> exact Text.forall_of_all (by decide)
  | code q hq =>
    simp only [text, Quad.text, List.forall_mem_cons]
    exact ⟨by decide, by decide, hdigit _, hdigit _, hdigit _, hdigit _, List.forall_mem_nil _⟩
  | pair high low hhigh hlow => cases h

theorem forall_quotedText {s : List StringChar} (h : s.all StringChar.isYaml = true) :
    ∀ c ∈ quotedText s, isAllowed c = true ∧ isBreak c = false := by
  simp only [quotedText, List.forall_mem_append, List.forall_mem_cons]
  refine ⟨⟨by decide, fun c hc => ?_⟩, by decide, List.forall_mem_nil _⟩
  obtain ⟨x, hx, hmem⟩ := List.mem_flatMap.1 hc
  exact x.forall_text (List.all_eq_true.1 h x hx) c hmem

/-- A string in its quotes is a quoted scalar within one line. -/
theorem isQuoted_quotedText {s : List StringChar} (h : s.all StringChar.isYaml = true) :
    IsQuoted (quotedText s) (s.map StringChar.value) :=
  ⟨rfl, by simp [quotedText], fun c hc => (forall_quotedText h c hc).2,
    fun m rest => quotedScalar_string (List.all_eq_true.1 h) m rest⟩

theorem Number.isWord_text (n : Number) : IsWord n.text := by
  refine ⟨fun c hc => ?_, ?_⟩
  · have hword : ∀ c ∈ numberChars, isWordChar c = true := Text.forall_of_all (by decide)
    exact hword c (n.text_within c hc)
  · obtain ⟨c, s, hbody, hc⟩ := n.exists_body_cons
    have hdigit : c.isAlphanum = true := by simp [Char.isAlphanum, hc]
    unfold text
    split
    · exact ⟨'-', _, rfl, .inr ⟨rfl, c, by rw [hbody]; rfl, hdigit⟩⟩
    · exact ⟨c, s, hbody, .inl hdigit⟩

/-- A leaf without quotes is one word. -/
theorem Leaf.isWord {l : Leaf} (h : l.isPlain = true) : IsWord l.text := by
  cases l with
  | null => exact ⟨Text.forall_of_all (by decide), 'n', _, rfl, .inl (by decide)⟩
  | flag b =>
    cases b with
    | true => exact ⟨Text.forall_of_all (by decide), 't', _, rfl, .inl (by decide)⟩
    | false => exact ⟨Text.forall_of_all (by decide), 'f', _, rfl, .inl (by decide)⟩
  | number n => exact n.isWord_text
  | string s => cases h

/-- The characters of a leaf that YAML reads as JSON does end no line, and documents may hold
    them. -/
theorem Leaf.forall_text {l : Leaf} (hl : l.isYaml = true) :
    ∀ c ∈ l.text, isAllowed c = true ∧ isBreak c = false := by
  by_cases hplain : l.isPlain = true
  · intro c hc
    have hword := (l.isWord hplain).isWordChar c hc
    exact Text.forall_of_toNat_lt (P := fun c => isWordChar c = true →
      isAllowed c = true ∧ isBreak c = false) (by decide +kernel) (toNat_lt_of_isWordChar hword) hword
  · cases l with
    | string s => exact forall_quotedText hl
    | _ => exact absurd rfl hplain

theorem Leaf.text_ne_nil (l : Leaf) : l.text ≠ [] := by
  by_cases hplain : l.isPlain = true
  · obtain ⟨c, s, htext, -⟩ := (l.isWord hplain).begins
    rw [htext]
    exact List.cons_ne_nil _ _
  · cases l with
    | string s => exact List.cons_ne_nil _ _
    | _ => exact absurd rfl hplain

/-! ### Gaps -/

/-- A gap as it is read from a file. -/
def Gap.unified (gap : Gap) : Text :=
  Text.unifyLineEnds gap.text

theorem Gap.isLoose_unified {gap : Gap} (h : gap.isYaml = true) : IsLoose gap.unified := by
  intro c hc
  rcases Text.mem_unifyLineEnds hc with hline | ⟨hmem, hcarriage⟩
  · exact .inr hline
  · obtain ⟨blank, hblank, rfl⟩ := List.mem_map.1 hmem
    cases blank with
    | space => exact .inl rfl
    | tab => simp [Gap.isYaml, hblank] at h
    | lineFeed => exact .inr rfl
    | carriageReturn => exact absurd rfl hcarriage

/-- Spaces stay as they are. -/
theorem Gap.unified_spaces {gap : Gap} (h : gap.all (· == .space) = true) :
    (∀ c ∈ gap.unified, c = ' ') ∧ gap.unified.length = gap.length := by
  have hspaces : ∀ c ∈ gap.text, c = ' ' := by
    intro c hc
    obtain ⟨blank, hblank, rfl⟩ := List.mem_map.1 hc
    rw [beq_iff_eq.1 (List.all_eq_true.1 h blank hblank)]
    rfl
  have hsame : gap.unified = gap.text := by
    have hunify := Text.unifyLineEnds_of_notMem (s := gap.text)
      (fun hc => absurd (hspaces _ hc) (by decide)) []
    rwa [List.append_nil, Text.unifyLineEnds, List.append_nil] at hunify
  rw [hsame]
  exact ⟨hspaces, List.length_map _⟩

/-! ### Values -/

/-- The tokens of a name, up to its colon. -/
def Name.kinds (name : Name) : List TokenKind :=
  [.key, .scalar { chars := name.chars.map StringChar.value } false, .value]

mutual

/-- The tokens of a value. -/
def Written.kinds : Written → List TokenKind
  | .leaf l => [.scalar { chars := l.chars } l.isPlain]
  | .emptyArray _ => [.flowSequenceStart, .flowSequenceEnd]
  | .array items => .flowSequenceStart :: items.kinds ++ [.flowSequenceEnd]
  | .emptyObject _ => [.flowMappingStart, .flowMappingEnd]
  | .object members => .flowMappingStart :: members.kinds ++ [.flowMappingEnd]

/-- The tokens of items. -/
def Items.kinds : Items → List TokenKind
  | .one _ item _ => item.kinds
  | .more _ item _ rest => item.kinds ++ .flowEntry :: rest.kinds

/-- The tokens of members. -/
def Members.kinds : Members → List TokenKind
  | .one name _ value _ => name.kinds ++ value.kinds
  | .more name _ value _ rest => name.kinds ++ value.kinds ++ .flowEntry :: rest.kinds

end

theorem closes_comma (rest : Text) : Closes (',' :: rest) := by
  rintro c ⟨⟩
  exact .inl rfl

theorem closes_closing {c : Char} {kind : TokenKind} (hc : IsClosing c kind) (rest : Text) :
    Closes (c :: rest) := by
  rintro d ⟨⟩
  exact .inr (hc.imp And.left And.left)

/-- What stands between brackets is read within them. -/
theorem reads_between {depth : Nat} {opening closing : Char} {first last : TokenKind}
    {kinds : List TokenKind} {inner gap rest : Text} (hopening : IsOpening opening first)
    (hclosing : IsClosing closing last) (hgap : IsLoose gap)
    (hinner : ∀ s, s.keyAllowed = true → Ready (depth + 1) (inner ++ closing :: (gap ++ rest)) s →
      ∃ s', Reads kinds (depth + 1) (closing :: (gap ++ rest)) s s') {s : Scanner}
    (h : Ready depth (opening :: inner ++ [closing] ++ (gap ++ rest)) s) :
    ∃ s', Reads (first :: kinds ++ [last]) depth rest s s' := by
  have htext : opening :: inner ++ [closing] ++ (gap ++ rest) =
      opening :: (inner ++ closing :: (gap ++ rest)) := by simp
  rw [htext] at h
  obtain ⟨opened, hopen, hallowed⟩ := reads_opening hopening h
  obtain ⟨through, hthrough⟩ := hinner opened hallowed hopen.ready
  obtain ⟨s', hclose⟩ := reads_closing hclosing hthrough.ready
  exact ⟨s', ((hopen.trans hthrough).trans hclose).skip hgap⟩

/-- Between brackets there may be nothing but a gap. -/
theorem reads_empty {depth : Nat} {gap rest : Text} (hgap : IsLoose gap) (s : Scanner)
    (_ : s.keyAllowed = true) (h : Ready (depth + 1) (gap ++ rest) s) :
    ∃ s', Reads [] (depth + 1) rest s s' :=
  ⟨s, .refl s, (List.append_nil _).symm, Nat.le_refl _, h.skip hgap⟩

theorem Leaf.reads {l : Leaf} (hl : l.isYaml = true) {depth : Nat} {gap rest : Text}
    (hgap : IsLoose gap) (hrest : Closes rest) (hflow : 0 < depth ∨ rest = []) {s : Scanner}
    (h : Ready depth (l.text ++ (gap ++ rest)) s) :
    ∃ s', Reads [.scalar { chars := l.chars } l.isPlain] depth rest s s' := by
  by_cases hplain : l.isPlain = true
  · have hchars : l.chars = l.text := by
      cases l with
      | string s => cases hplain
      | _ => rfl
    rw [hchars, hplain]
    exact reads_word (l.isWord hplain) hgap hrest hflow h
  · cases l with
    | string chars =>
      obtain ⟨s', hread⟩ := reads_quoted (isQuoted_quotedText hl) h
      exact ⟨s', hread.skip hgap⟩
    | _ => exact absurd rfl hplain

theorem Name.reads {name : Name} (hname : name.isYaml = true) {depth : Nat} {rest : Text}
    {s : Scanner} (hallowed : s.keyAllowed = true) (h : Ready (depth + 1)
      (name.before.unified ++ quotedText name.chars ++ name.after.unified ++ ':' :: rest) s) :
    ∃ s', Reads name.kinds (depth + 1) rest s s' := by
  simp only [Name.isYaml, Bool.and_eq_true, decide_eq_true_eq] at hname
  obtain ⟨⟨⟨hbefore, hchars⟩, hafter⟩, hlength⟩ := hname
  obtain ⟨hspaces, hspan⟩ := Gap.unified_spaces hafter
  rw [List.append_assoc, List.append_assoc] at h
  exact reads_name (isQuoted_quotedText hchars) hspaces (by omega)
    (h.skip (Gap.isLoose_unified hbefore)) hallowed

mutual

/-- A value is read up to what closes it, or to the end of the text. -/
theorem Written.reads (w : Written) (hw : w.isYaml = true) {depth : Nat} {gap rest : Text}
    (hgap : IsLoose gap) (hrest : Closes rest) (hflow : 0 < depth ∨ rest = []) {s : Scanner}
    (h : Ready depth (w.write Gap.unified ++ (gap ++ rest)) s) :
    ∃ s', Reads w.kinds depth rest s s' :=
  match w with
  | .leaf _ => Leaf.reads hw hgap hrest hflow h
  | .emptyArray _ =>
    reads_between (.inl ⟨rfl, rfl⟩) (.inl ⟨rfl, rfl⟩) hgap
      (reads_empty (Gap.isLoose_unified hw)) h
  | .array items =>
    reads_between (.inl ⟨rfl, rfl⟩) (.inl ⟨rfl, rfl⟩) hgap
      (fun _ _ => items.reads hw (closes_closing (.inl ⟨rfl, rfl⟩) _)) h
  | .emptyObject _ =>
    reads_between (.inr ⟨rfl, rfl⟩) (.inr ⟨rfl, rfl⟩) hgap
      (reads_empty (Gap.isLoose_unified hw)) h
  | .object members =>
    reads_between (.inr ⟨rfl, rfl⟩) (.inr ⟨rfl, rfl⟩) hgap
      (fun _ hallowed => members.reads hw (closes_closing (.inr ⟨rfl, rfl⟩) _) hallowed) h

/-- Items are read up to the bracket that closes them. -/
theorem Items.reads (items : Items) (hitems : items.isYaml = true) {depth : Nat} {rest : Text}
    (hrest : Closes rest) {s : Scanner}
    (h : Ready (depth + 1) (items.write Gap.unified ++ rest) s) :
    ∃ s', Reads items.kinds (depth + 1) rest s s' := by
  cases items with
  | one before item after =>
    simp only [Items.isYaml, Bool.and_eq_true] at hitems
    simp only [Items.write, List.append_assoc] at h
    exact item.reads hitems.1.2 (Gap.isLoose_unified hitems.2) hrest (.inl (Nat.succ_pos _))
      (h.skip (Gap.isLoose_unified hitems.1.1))
  | more before item after others =>
    simp only [Items.isYaml, Bool.and_eq_true] at hitems
    simp only [Items.write, List.append_assoc] at h
    obtain ⟨there, hitem⟩ := item.reads hitems.1.1.2 (Gap.isLoose_unified hitems.1.2)
      (closes_comma _) (.inl (Nat.succ_pos _)) (h.skip (Gap.isLoose_unified hitems.1.1.1))
    obtain ⟨next, hcomma, -⟩ := reads_comma hitem.ready
    obtain ⟨s', hothers⟩ := others.reads hitems.2 hrest hcomma.ready
    exact ⟨s', hitem.trans (hcomma.trans hothers)⟩

/-- Members are read up to the bracket that closes them. -/
theorem Members.reads (members : Members) (hmembers : members.isYaml = true) {depth : Nat}
    {rest : Text} (hrest : Closes rest) {s : Scanner} (hallowed : s.keyAllowed = true)
    (h : Ready (depth + 1) (members.write Gap.unified ++ rest) s) :
    ∃ s', Reads members.kinds (depth + 1) rest s s' := by
  cases members with
  | one name before value after =>
    simp only [Members.isYaml, Bool.and_eq_true] at hmembers
    simp only [Members.write, List.append_assoc] at h
    obtain ⟨there, hname⟩ := Name.reads hmembers.1.1.1 hallowed (by simpa using h)
    obtain ⟨s', hvalue⟩ := value.reads hmembers.1.2 (Gap.isLoose_unified hmembers.2) hrest
      (.inl (Nat.succ_pos _)) (hname.ready.skip (Gap.isLoose_unified hmembers.1.1.2))
    exact ⟨s', hname.trans hvalue⟩
  | more name before value after others =>
    simp only [Members.isYaml, Bool.and_eq_true] at hmembers
    simp only [Members.write, List.append_assoc] at h
    obtain ⟨there, hname⟩ := Name.reads hmembers.1.1.1.1 hallowed (by simpa using h)
    obtain ⟨behind, hvalue⟩ := value.reads hmembers.1.1.2 (Gap.isLoose_unified hmembers.1.2)
      (closes_comma _) (.inl (Nat.succ_pos _))
      (hname.ready.skip (Gap.isLoose_unified hmembers.1.1.1.2))
    obtain ⟨next, hcomma, hallowed⟩ := reads_comma hvalue.ready
    obtain ⟨s', hothers⟩ := others.reads hmembers.2 hrest hallowed hcomma.ready
    exact ⟨s', (hname.trans hvalue).trans (hcomma.trans hothers)⟩

end

/-! ### Line ends -/

theorem ne_of_isBreak {c : Char} (h : isBreak c = false) : c ≠ '\r' ∧ c ≠ '\n' := by
  constructor <;> rintro rfl <;> cases h

/-- A value does not begin with a line end. -/
theorem Written.head_ne (w : Written) (hw : w.isYaml = true) (g : Gap → Text) (t : Text) :
    ∀ c ∈ (w.write g ++ t).head?, c ≠ '\n' := by
  cases w with
  | leaf l =>
    obtain ⟨c, s, htext⟩ := List.exists_cons_of_ne_nil l.text_ne_nil
    have hc := (Leaf.forall_text hw c (by rw [htext]; exact List.mem_cons_self)).2
    rw [Written.write, htext]
    rintro d ⟨⟩
    exact (ne_of_isBreak hc).2
  | _ =>
    rintro d ⟨⟩
    decide

/-- Line ends within a gap do not depend on what follows, unless that begins with one. -/
theorem Gap.unify (gap : Gap) {t : Text} (ht : ∀ c ∈ t.head?, c ≠ '\n') :
    Text.unifyLineEnds (gap.text ++ t) = gap.unified ++ Text.unifyLineEnds t :=
  Text.unifyLineEnds_append _ ht

theorem unify_of_isBreak {s : Text} (hs : ∀ c ∈ s, isBreak c = false) (t : Text) :
    Text.unifyLineEnds (s ++ t) = s ++ Text.unifyLineEnds t :=
  Text.unifyLineEnds_of_notMem (fun h => (ne_of_isBreak (hs _ h)).1 rfl) t

theorem unify_cons {c : Char} (hc : isBreak c = false) (t : Text) :
    Text.unifyLineEnds (c :: t) = c :: Text.unifyLineEnds t :=
  unify_of_isBreak (s := [c]) (List.forall_mem_singleton.2 hc) t

theorem head_cons_ne {c : Char} (hc : isBreak c = false) (t : Text) :
    ∀ d ∈ (c :: t).head?, d ≠ '\n' := by
  rintro d ⟨⟩
  exact (ne_of_isBreak hc).2

theorem Name.unify {name : Name} (hname : name.isYaml = true) (t : Text) :
    Text.unifyLineEnds (name.before.text ++ (quotedText name.chars ++ (name.after.text ++ ':' :: t)))
      = name.before.unified ++ (quotedText name.chars ++
        (name.after.unified ++ ':' :: Text.unifyLineEnds t)) := by
  simp only [Name.isYaml, Bool.and_eq_true] at hname
  have hchars := forall_quotedText hname.1.1.2
  have hquote : ∀ s : Text, ∀ c ∈ (quotedText name.chars ++ s).head?, c ≠ '\n' :=
    fun _ => head_cons_ne (by decide) _
  rw [Gap.unify _ (hquote _), unify_of_isBreak fun c hc => (hchars c hc).2,
    Gap.unify _ (head_cons_ne (by decide) _), unify_cons (by decide)]

mutual

/-- The line ends of a value are those of its gaps. -/
theorem Written.unify (w : Written) (hw : w.isYaml = true) (t : Text) :
    Text.unifyLineEnds (w.write Gap.text ++ t) = w.write Gap.unified ++ Text.unifyLineEnds t := by
  cases w with
  | leaf l => exact unify_of_isBreak (fun c hc => (Leaf.forall_text hw c hc).2) t
  | emptyArray gap =>
    simp only [Written.write, List.append_assoc, List.cons_append, List.nil_append]
    rw [unify_cons (by decide), Gap.unify _ (head_cons_ne (by decide) _), unify_cons (by decide)]
  | array items =>
    simp only [Written.write, List.append_assoc, List.cons_append, List.nil_append]
    rw [unify_cons (by decide), items.unify hw (head_cons_ne (by decide) _), unify_cons (by decide)]
  | emptyObject gap =>
    simp only [Written.write, List.append_assoc, List.cons_append, List.nil_append]
    rw [unify_cons (by decide), Gap.unify _ (head_cons_ne (by decide) _), unify_cons (by decide)]
  | object members =>
    simp only [Written.write, List.append_assoc, List.cons_append, List.nil_append]
    rw [unify_cons (by decide), members.unify hw (head_cons_ne (by decide) _),
      unify_cons (by decide)]

/-- The line ends of items. -/
theorem Items.unify (items : Items) (hitems : items.isYaml = true) {t : Text}
    (ht : ∀ c ∈ t.head?, c ≠ '\n') :
    Text.unifyLineEnds (items.write Gap.text ++ t) =
      items.write Gap.unified ++ Text.unifyLineEnds t := by
  cases items with
  | one before item after =>
    simp only [Items.isYaml, Bool.and_eq_true] at hitems
    simp only [Items.write, List.append_assoc]
    rw [Gap.unify _ (item.head_ne hitems.1.2 _ _), item.unify hitems.1.2, Gap.unify _ ht]
  | more before item after others =>
    simp only [Items.isYaml, Bool.and_eq_true] at hitems
    simp only [Items.write, List.append_assoc, List.cons_append]
    rw [Gap.unify _ (item.head_ne hitems.1.1.2 _ _), item.unify hitems.1.1.2,
      Gap.unify _ (head_cons_ne (by decide) _), unify_cons (by decide), others.unify hitems.2 ht]

/-- The line ends of members. -/
theorem Members.unify (members : Members) (hmembers : members.isYaml = true) {t : Text}
    (ht : ∀ c ∈ t.head?, c ≠ '\n') :
    Text.unifyLineEnds (members.write Gap.text ++ t) =
      members.write Gap.unified ++ Text.unifyLineEnds t := by
  cases members with
  | one name before value after =>
    simp only [Members.isYaml, Bool.and_eq_true] at hmembers
    simp only [Members.write, List.append_assoc, List.cons_append]
    rw [Name.unify hmembers.1.1.1, Gap.unify _ (value.head_ne hmembers.1.2 _ _),
      value.unify hmembers.1.2, Gap.unify _ ht]
  | more name before value after others =>
    simp only [Members.isYaml, Bool.and_eq_true] at hmembers
    simp only [Members.write, List.append_assoc, List.cons_append]
    rw [Name.unify hmembers.1.1.1.1, Gap.unify _ (value.head_ne hmembers.1.1.2 _ _),
      value.unify hmembers.1.1.2, Gap.unify _ (head_cons_ne (by decide) _),
      unify_cons (by decide), others.unify hmembers.2 ht]

end

/-! ### Characters -/

theorem Gap.allowed (gap : Gap) : ∀ c ∈ gap.text, isAllowed c = true := by
  intro c hc
  obtain ⟨blank, -, rfl⟩ := List.mem_map.1 hc
  cases blank <;> decide

theorem Name.allowed {name : Name} (hname : name.isYaml = true) :
    ∀ c ∈ quotedText name.chars, isAllowed c = true := by
  simp only [Name.isYaml, Bool.and_eq_true] at hname
  exact fun c hc => (forall_quotedText hname.1.1.2 c hc).1

mutual

/-- YAML documents may hold the characters of a value. -/
theorem Written.allowed (w : Written) (hw : w.isYaml = true) :
    ∀ c ∈ w.write Gap.text, isAllowed c = true := by
  cases w with
  | leaf l => exact fun c hc => (Leaf.forall_text hw c hc).1
  | emptyArray gap =>
    simp only [Written.write, List.forall_mem_append, List.forall_mem_cons]
    exact ⟨⟨by decide, gap.allowed⟩, by decide, List.forall_mem_nil _⟩
  | array items =>
    simp only [Written.write, List.forall_mem_append, List.forall_mem_cons]
    exact ⟨⟨by decide, items.allowed hw⟩, by decide, List.forall_mem_nil _⟩
  | emptyObject gap =>
    simp only [Written.write, List.forall_mem_append, List.forall_mem_cons]
    exact ⟨⟨by decide, gap.allowed⟩, by decide, List.forall_mem_nil _⟩
  | object members =>
    simp only [Written.write, List.forall_mem_append, List.forall_mem_cons]
    exact ⟨⟨by decide, members.allowed hw⟩, by decide, List.forall_mem_nil _⟩

theorem Items.allowed (items : Items) (hitems : items.isYaml = true) :
    ∀ c ∈ items.write Gap.text, isAllowed c = true := by
  cases items with
  | one before item after =>
    simp only [Items.isYaml, Bool.and_eq_true] at hitems
    simp only [Items.write, List.forall_mem_append]
    exact ⟨⟨before.allowed, item.allowed hitems.1.2⟩, after.allowed⟩
  | more before item after others =>
    simp only [Items.isYaml, Bool.and_eq_true] at hitems
    simp only [Items.write, List.forall_mem_append, List.forall_mem_cons]
    exact ⟨⟨⟨before.allowed, item.allowed hitems.1.1.2⟩, after.allowed⟩, by decide,
      others.allowed hitems.2⟩

theorem Members.allowed (members : Members) (hmembers : members.isYaml = true) :
    ∀ c ∈ members.write Gap.text, isAllowed c = true := by
  cases members with
  | one name before value after =>
    simp only [Members.isYaml, Bool.and_eq_true] at hmembers
    simp only [Members.write, List.forall_mem_append, List.forall_mem_cons]
    exact ⟨⟨⟨name.before.allowed, Name.allowed hmembers.1.1.1⟩, name.after.allowed⟩, by decide,
      ⟨before.allowed, value.allowed hmembers.1.2⟩, after.allowed⟩
  | more name before value after others =>
    simp only [Members.isYaml, Bool.and_eq_true] at hmembers
    simp only [Members.write, List.forall_mem_append, List.forall_mem_cons]
    exact ⟨⟨⟨name.before.allowed, Name.allowed hmembers.1.1.1.1⟩, name.after.allowed⟩, by decide,
      ⟨⟨before.allowed, value.allowed hmembers.1.1.2⟩, after.allowed⟩, by decide,
      others.allowed hmembers.2⟩

end

/-! ### Documents -/

/-- A document as it is read from a file. -/
theorem Document.unify {d : Document} (hd : d.isYaml = true) : Text.unifyLineEnds d.text =
    d.before.unified ++ (d.root.write Gap.unified ++ (d.after.unified ++ [])) := by
  simp only [Document.isYaml, Bool.and_eq_true] at hd
  have hafter : Text.unifyLineEnds d.after.text = d.after.unified ++ [] :=
    (List.append_nil _).symm
  rw [Document.text, List.append_assoc, Gap.unify _ (d.root.head_ne hd.1.2 _ _),
    d.root.unify hd.1.2, hafter]

theorem Document.allowed {d : Document} (hd : d.isYaml = true) :
    ∀ c ∈ Text.unifyLineEnds d.text, isAllowed c = true := by
  simp only [Document.isYaml, Bool.and_eq_true] at hd
  have htext : ∀ c ∈ d.text, isAllowed c = true := by
    simp only [Document.text, List.forall_mem_append]
    exact ⟨⟨d.before.allowed, d.root.allowed hd.1.2⟩, d.after.allowed⟩
  intro c hc
  rcases Text.mem_unifyLineEnds hc with rfl | ⟨hmem, -⟩
  · decide
  · exact htext c hmem

/-- The tokens of a document are those of its value. -/
theorem Document.tokens {d : Document} (hd : d.isYaml = true) :
    ∃ tokens, Token.ofText (Text.unifyLineEnds d.text) = (tokens, none) ∧
      tokens.map Token.kind = .streamStart :: d.root.kinds ++ [.streamEnd] := by
  refine Token.ofText_of_reads (Document.allowed hd) fun s h => ?_
  rw [Document.unify hd] at h
  simp only [Document.isYaml, Bool.and_eq_true] at hd
  have hend : Closes [] := fun c hc => by cases hc
  exact d.root.reads hd.1.2 (Gap.isLoose_unified hd.2) hend (.inr rfl)
    (h.skip (Gap.isLoose_unified hd.1.1))

end Docpress.Json
