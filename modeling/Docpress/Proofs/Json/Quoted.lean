import Docpress.Proofs.Json.Grammar
import Docpress.Proofs.Text.Utf8
import Docpress.Proofs.Text.Within
import Docpress.Proofs.Yaml.Cursor
import Docpress.Yaml.Quoted
/-!
Strings of JSON as scalars in double quotes. Their escapes are escapes of YAML, and within one line
YAML keeps white space as it is.
-/

namespace Docpress.Json

/-! ### Escapes -/

theorem HexDigit.toNat_lt (d : HexDigit) : d.char.toNat < 103 := by
  have hle : ∀ {a b : Char}, a ≤ b → a.toNat ≤ b.toNat := UInt32.le_iff_toNat_le.1
  have hhex := d.isHex
  unfold Text.hexDigit? at hhex
  split at hhex
  · have : d.char.toNat ≤ 57 := hle (of_decide_eq_true (Bool.and_eq_true_iff.1 ‹_›).2)
    omega
  split at hhex
  · have : d.char.toNat ≤ 102 := hle (And.right ‹_›)
    omega
  split at hhex
  · have : d.char.toNat ≤ 70 := hle (And.right ‹_›)
    omega
  · cases hhex

theorem HexDigit.getD_lt (d : HexDigit) : (Text.hexDigit? d.char).getD 0 < 16 :=
  Text.forall_of_toNat_lt (P := fun c => (Text.hexDigit? c).getD 0 < 16) (by decide +kernel)
    d.toNat_lt

theorem Quad.code_lt (q : Quad) : q.code < 0x10000 := by
  have hfirst := q.first.getD_lt
  have hsecond := q.second.getD_lt
  have hthird := q.third.getD_lt
  have hfourth := q.fourth.getD_lt
  simp only [code, text, Text.hexValue, List.foldl_cons, List.foldl_nil]
  omega

/-- A character that is written by its code has that code. -/
theorem toNat_value_code {q : Quad} (h : isSurrogate q.code = false) :
    (StringChar.code q h).value.toNat = q.code := by
  have hlt := q.code_lt
  simp only [isSurrogate, Bool.and_eq_false_iff, decide_eq_false_iff_not] at h
  exact Text.toNat_ofNat (by omega)

end Docpress.Json

namespace Docpress.Yaml

open Reader Json

theorem escape_letter (l : Letter) (start m : Mark) (s : Text) :
    escape start ⟨m, l.char :: s⟩ = .ok ([l.value.toNat], ⟨m.past l.char, s⟩) := by
  cases l <;> rfl

/-- Four digits are read as a code. -/
theorem hexEscape_quad (q : Quad) (start m : Mark) (s : Text) :
    hexEscape start 4 ⟨m, q.text ++ s⟩ = .ok (q.code, ⟨m.pastAll q.text, s⟩) := by
  have hsome : ∀ d : HexDigit, ¬ (Text.hexDigit? d.char).isNone = true :=
    fun d => by simpa using Option.isSome_iff_ne_none.1 d.isHex
  have hdigits : ([0, 1, 2, 3].find? fun k =>
      (Text.hexDigit? (Cursor.peek ⟨m, q.text ++ s⟩ k)).isNone) = none := by
    rw [List.find?_eq_none]
    simp only [List.forall_mem_cons]
    exact ⟨hsome q.first, hsome q.second, hsome q.third, hsome q.fourth, List.forall_mem_nil _⟩
  have hlt := q.code_lt
  have hcode : Text.hexValue ([0, 1, 2, 3].map (Cursor.peek ⟨m, q.text ++ s⟩)) = q.code := rfl
  have hrange : List.range 4 = [0, 1, 2, 3] := rfl
  unfold hexEscape
  rw [get_bind, hrange, hdigits]
  dsimp only
  rw [hcode, if_neg (by omega), if_neg (by omega)]
  rfl

theorem escape_code (q : Quad) (start m : Mark) (s : Text) :
    escape start ⟨m, 'u' :: q.text ++ s⟩ = .ok ([q.code], ⟨(m.past 'u').pastAll q.text, s⟩) := by
  have hread := hexEscape_quad q start (m.past 'u') s
  change (hexEscape start 4 >>= fun code => pure [code]) _ = _
  exact bind_of_ok hread _

/-! ### Runs without white space -/

/-- A character that stands for itself comes before what is read after it. -/
theorem quotedRun_cons {c : Char} (hc : stopsQuoted c = false) {start m : Mark} {s : Text}
    {fuel : Nat} {codes : List Nat} {cursor : Cursor}
    (h : quotedRun true start (fuel + 1) ⟨m.past c, s⟩ = .ok (codes, cursor)) :
    quotedRun true start (fuel + 1) ⟨m, c :: s⟩ = .ok (c.toNat :: codes, cursor) := by
  rw [quotedRun, takeWhile_bind] at h ⊢
  simp only [List.takeWhile_cons, hc, Bool.not_false, if_true, List.length_cons, Cursor.advance,
    List.map_cons]
  generalize Cursor.advance (s.takeWhile (!stopsQuoted ·)).length ⟨m.past c, s⟩ = after at h ⊢
  simp only [ite_run, peek_bind, skip_bind, Bool.not_true, Bool.false_and, Bool.true_and,
    Bool.false_eq_true, if_false, Bool.or_false] at h ⊢
  split at h
  · obtain ⟨more, after', hmore, h⟩ := exists_of_bind_ok h
    cases h
    rw [if_pos ‹_›, bind_of_ok hmore]
    rfl
  · split at h
    · obtain ⟨escaped, after', hescape, h⟩ := exists_of_bind_ok h
      obtain ⟨more, after'', hmore, h⟩ := exists_of_bind_ok h
      cases h
      rw [if_neg ‹_›, if_pos ‹_›, bind_of_ok hescape, bind_of_ok hmore]
      rfl
    · cases h
      rw [if_neg ‹_›, if_neg ‹_›]
      rfl

theorem quotedRun_apostrophe {start m : Mark} {s : Text} {fuel : Nat} {codes : List Nat}
    {cursor : Cursor} (h : quotedRun true start fuel ⟨m.past '\'', s⟩ = .ok (codes, cursor)) :
    quotedRun true start (fuel + 1) ⟨m, '\'' :: s⟩ = .ok ('\''.toNat :: codes, cursor) := by
  change (quotedRun true start fuel >>= fun more => pure ('\''.toNat :: more)) _ = _
  exact bind_of_ok h _

theorem quotedRun_escape {start m : Mark} {s : Text} {fuel : Nat} {escaped codes : List Nat}
    {c cursor : Cursor} (hescape : escape start ⟨m.past '\\', s⟩ = .ok (escaped, c))
    (h : quotedRun true start fuel c = .ok (codes, cursor)) :
    quotedRun true start (fuel + 1) ⟨m, '\\' :: s⟩ = .ok (escaped ++ codes, cursor) := by
  change (escape start >>= fun escaped => quotedRun true start fuel >>= fun more =>
    pure (escaped ++ more)) ⟨m.past '\\', s⟩ = _
  rw [bind_of_ok hescape, bind_of_ok h]
  rfl

/-- A space or the closing quote ends a run. -/
def EndsRun (s : Text) : Prop :=
  s.head? = some ' ' ∨ s.head? = some '"'

theorem quotedRun_of_endsRun {s : Text} (h : EndsRun s) (start m : Mark) (fuel : Nat) :
    quotedRun true start (fuel + 1) ⟨m, s⟩ = .ok ([], ⟨m, s⟩) := by
  rcases h with h | h
  all_goals
    obtain ⟨rest, rfl⟩ := List.head?_eq_some_iff.1 h
    rfl

/-- A space that is written as it is. -/
def isSpace (x : StringChar) : Bool :=
  x.text == [' ']

/-- What stands for itself in a string is neither a tab nor the end of the document. -/
theorem ne_of_le_toNat {c : Char} (hc : 0x20 ≤ c.toNat) : c ≠ '\t' ∧ c ≠ endChar := by
  constructor
  · rintro rfl
    exact absurd hc (by decide)
  · rintro rfl
    exact absurd hc (by decide)

/-- Nothing but a quote, a backslash or a space ends a run within a line. -/
theorem stopsQuoted_eq_false {c : Char} (hc : 0x20 ≤ c.toNat ∧ c ≠ '"' ∧ c ≠ '\\')
    (hbreak : isBreak c = false) (hspace : c ≠ ' ') (hquote : c ≠ '\'') :
    stopsQuoted c = false := by
  obtain ⟨htab, hend⟩ := ne_of_le_toNat hc.1
  simp [stopsQuoted, isGapOrEnd, isSpaceOrEnd, isBreakOrEnd, hquote, hc, hbreak, hend, hspace, htab]

/-- The characters of a string up to a space are one run. -/
theorem quotedRun_chars {cs : List StringChar} (hyaml : ∀ x ∈ cs, x.isYaml = true)
    (hspace : ∀ x ∈ cs, isSpace x = false) {rest : Text} (hrest : EndsRun rest)
    (start m : Mark) (fuel : Nat) (hfuel : cs.length < fuel) :
    quotedRun true start fuel ⟨m, cs.flatMap StringChar.text ++ rest⟩ =
      .ok (cs.map (·.value.toNat), ⟨m.pastAll (cs.flatMap StringChar.text), rest⟩) := by
  obtain ⟨fuel, rfl⟩ : ∃ n, fuel = n + 1 := ⟨fuel - 1, by omega⟩
  induction cs generalizing m fuel with
  | nil => exact quotedRun_of_endsRun hrest start m fuel
  | cons x cs ih =>
    obtain ⟨hx, hcs⟩ := List.forall_mem_cons.1 hyaml
    obtain ⟨hxspace, hcspace⟩ := List.forall_mem_cons.1 hspace
    rw [List.length_cons] at hfuel
    cases x with
    | plain c hc =>
      have hrun := ih hcs hcspace (m.past c) fuel (by omega)
      obtain ⟨-, hbreak⟩ := Bool.and_eq_true_iff.1 hx
      have hne : c ≠ ' ' := by
        rintro rfl
        cases hxspace
      by_cases hquote : c = '\''
      · subst hquote
        have hrun := ih hcs hcspace (m.past '\'') (fuel - 1) (by omega)
        rw [Nat.sub_add_cancel (by omega)] at hrun
        exact quotedRun_apostrophe hrun
      · exact quotedRun_cons (stopsQuoted_eq_false hc (by simpa using hbreak) hne hquote) hrun
    | letter l =>
      have hrun := ih hcs hcspace ((m.past '\\').past l.char) (fuel - 1) (by omega)
      rw [Nat.sub_add_cancel (by omega)] at hrun
      exact quotedRun_escape (escape_letter l start _ _) hrun
    | code q hq =>
      have hrun := ih hcs hcspace (((m.past '\\').past 'u').pastAll q.text) (fuel - 1) (by omega)
      rw [Nat.sub_add_cancel (by omega)] at hrun
      have hescape := escape_code q start (m.past '\\') (cs.flatMap StringChar.text ++ rest)
      have hread := quotedRun_escape hescape hrun
      rw [List.flatMap_cons, List.map_cons, toNat_value_code hq, Mark.pastAll_append]
      simpa [StringChar.text] using hread
    | pair high low hhigh hlow => cases hx

/-! ### White space -/

/-- What a character that is no space begins with. -/
theorem exists_text_cons {x : StringChar} (hx : x.isYaml = true) (hspace : isSpace x = false) :
    ∃ c s, x.text = c :: s ∧ c ≠ ' ' ∧ c ≠ '\t' ∧ c ≠ endChar ∧ isBreak c = false := by
  cases x with
  | plain c hc =>
    obtain ⟨-, hbreak⟩ := Bool.and_eq_true_iff.1 hx
    obtain ⟨htab, hend⟩ := ne_of_le_toNat hc.1
    refine ⟨c, [], rfl, ?_, htab, hend, by simpa using hbreak⟩
    rintro rfl
    cases hspace
  | letter l => exact ⟨'\\', _, rfl, by decide, by decide, by decide, rfl⟩
  | code q hq => exact ⟨'\\', _, rfl, by decide, by decide, by decide, rfl⟩
  | pair high low hhigh hlow => cases hx

theorem length_le_flatMap_text (cs : List StringChar) :
    cs.length ≤ (cs.flatMap StringChar.text).length := by
  induction cs with
  | nil => exact Nat.le_refl _
  | cons x cs ih =>
    have hpos : 1 ≤ x.text.length := by cases x <;> simp [StringChar.text]
    rw [List.flatMap_cons, List.length_append, List.length_cons]
    omega

theorem isSpace_iff {x : StringChar} (h : isSpace x = true) : x.text = [' '] ∧ x.value = ' ' := by
  have htext : x.text = [' '] := beq_iff_eq.1 h
  refine ⟨htext, ?_⟩
  cases x with
  | plain c hc => exact (List.cons.inj htext).1
  | letter l => cases htext
  | code q hq => cases htext
  | pair high low hhigh hlow => cases htext

theorem flatMap_text_of_spaces {cs : List StringChar} (h : ∀ x ∈ cs, isSpace x = true) :
    cs.flatMap StringChar.text = cs.map StringChar.value := by
  induction cs with
  | nil => rfl
  | cons x cs ih =>
    obtain ⟨hx, hcs⟩ := List.forall_mem_cons.1 h
    rw [List.flatMap_cons, List.map_cons, ih hcs, (isSpace_iff hx).1, (isSpace_iff hx).2]
    rfl

/-- A string that begins with a space begins with all its spaces up to a run, and goes on in the
    same way. -/
theorem exists_run {cs : List StringChar} {x : StringChar} (hx : cs.head? = some x)
    (hspace : isSpace x = true) :
    ∃ spaces run more, cs = spaces ++ run ++ more ∧ spaces ≠ [] ∧
      (∀ x ∈ spaces, isSpace x = true) ∧ (∀ x ∈ run, isSpace x = false) ∧
      (∀ x ∈ more.head?, isSpace x = true) ∧ (run = [] → more = []) := by
  obtain ⟨others, rfl⟩ := List.head?_eq_some_iff.1 hx
  refine ⟨(x :: others).takeWhile isSpace, ((x :: others).dropWhile isSpace).takeWhile (!isSpace ·),
    ((x :: others).dropWhile isSpace).dropWhile (!isSpace ·), ?_, ?_, ?_, ?_, ?_, ?_⟩
  · rw [List.append_assoc, List.takeWhile_append_dropWhile, List.takeWhile_append_dropWhile]
  · rw [List.takeWhile_cons, if_pos hspace]
    exact List.cons_ne_nil _ _
  · exact fun y hy => List.all_eq_true.1 List.all_takeWhile y hy
  · exact fun y hy => by simpa using List.all_eq_true.1 List.all_takeWhile y hy
  · intro y hy
    have := List.head?_dropWhile_not (!isSpace ·) ((x :: others).dropWhile isSpace)
    rw [Option.mem_def.1 hy] at this
    simpa using this
  · intro hrun
    cases htail : (x :: others).dropWhile isSpace with
    | nil => rfl
    | cons y tail =>
      have := List.head?_dropWhile_not isSpace (x :: others)
      rw [htail] at this hrun
      simp only [List.head?_cons] at this
      rw [List.takeWhile_cons, this] at hrun
      cases hrun

/-- Spaces within one line are kept. -/
theorem quotedGap_spaces {spaces s : Text} (hspaces : ∀ c ∈ spaces, c = ' ') {c : Char}
    (hs : s.head? = some c)
    (hc : c ≠ ' ' ∧ c ≠ '\t' ∧ c ≠ endChar ∧ isBreak c = false) (start m : Mark) :
    quotedGap start ⟨m, spaces ++ s⟩ = .ok (spaces, ⟨m.pastAll spaces, s⟩) := by
  obtain ⟨rest, rfl⟩ := List.head?_eq_some_iff.1 hs
  have hread : takeWhile (fun c => c == ' ' || c == '\t') ⟨m, spaces ++ c :: rest⟩ =
      .ok (spaces, ⟨m.pastAll spaces, c :: rest⟩) := by
    refine takeWhile_append (fun d hd => ?_) (fun d hd => ?_) m
    · rw [hspaces d hd]
      rfl
    · cases hd
      simp [hc.1, hc.2.1]
  have hend : (c == endChar) = false := by simpa using hc.2.2.1
  rw [quotedGap, bind_of_ok hread, peek_bind, Cursor.peek_cons_zero, hend, hc.2.2.2]
  rfl

/-- A space after a run, or the closing quote. -/
theorem endsRun_text {more : List StringChar} (hmore : ∀ x ∈ more.head?, isSpace x = true)
    (rest : Text) : EndsRun (more.flatMap StringChar.text ++ '"' :: rest) := by
  cases more with
  | nil => exact .inr rfl
  | cons y more =>
    refine .inl ?_
    rw [List.flatMap_cons, (isSpace_iff (hmore y rfl)).1]
    rfl

/-- A run, or the closing quote. -/
theorem exists_head_run {run more : List StringChar} (hyaml : ∀ x ∈ run, x.isYaml = true)
    (hrun : ∀ x ∈ run, isSpace x = false) (hlast : run = [] → more = []) (rest : Text) :
    ∃ c, (run.flatMap StringChar.text ++ (more.flatMap StringChar.text ++ '"' :: rest)).head? =
      some c ∧ c ≠ ' ' ∧ c ≠ '\t' ∧ c ≠ endChar ∧ isBreak c = false := by
  cases run with
  | nil =>
    rw [hlast rfl]
    exact ⟨'"', rfl, by decide, by decide, by decide, rfl⟩
  | cons y run =>
    obtain ⟨c, s, htext, hc⟩ := exists_text_cons (hyaml y List.mem_cons_self)
      (hrun y List.mem_cons_self)
    refine ⟨c, ?_, hc⟩
    rw [List.flatMap_cons, htext]
    rfl

/-- What comes after the first run: spaces, a run, and so on. -/
theorem quotedRest_chars {cs : List StringChar} (hyaml : ∀ x ∈ cs, x.isYaml = true)
    (hstart : ∀ x ∈ cs.head?, isSpace x = true) (rest : Text) (start m : Mark) (fuel : Nat)
    (hfuel : cs.length < fuel) :
    quotedRest '"' start fuel ⟨m, cs.flatMap StringChar.text ++ '"' :: rest⟩ =
      .ok (cs.map (·.value.toNat), ⟨m.pastAll (cs.flatMap StringChar.text), '"' :: rest⟩) := by
  induction fuel generalizing cs m with
  | zero => omega
  | succ fuel ih =>
    cases hfirst : cs.head? with
    | none =>
      rw [List.head?_eq_none_iff.1 hfirst]
      rfl
    | some x =>
      obtain ⟨spaces, run, more, rfl, hne, hspaces, hrun, hmore, hlast⟩ :=
        exists_run hfirst (hstart x hfirst)
      simp only [List.forall_mem_append] at hyaml
      obtain ⟨c, hhead, hc⟩ := exists_head_run hyaml.1.2 hrun hlast rest
      have hvalues : ∀ c ∈ spaces.map StringChar.value, c = ' ' := by
        intro c hmem
        obtain ⟨y, hy, rfl⟩ := List.mem_map.1 hmem
        exact (isSpace_iff (hspaces y hy)).2
      have hgap := quotedGap_spaces hvalues hhead hc start m
      have hlength := length_le_flatMap_text run
      have hread := quotedRun_chars hyaml.1.2 hrun (endsRun_text hmore rest) start
        (m.pastAll (spaces.map StringChar.value))
        ((run.flatMap StringChar.text ++
          (more.flatMap StringChar.text ++ '"' :: rest)).length + 1)
        (by simp only [List.length_append]; omega)
      have hpos := List.length_pos_iff.2 hne
      have hnext := ih hyaml.2 hmore ((m.pastAll (spaces.map StringChar.value)).pastAll
        (run.flatMap StringChar.text)) (by simp only [List.length_append] at hfuel; omega)
      obtain ⟨y, others, rfl⟩ := List.exists_cons_of_ne_nil hne
      have hopen : ∀ s, Cursor.peek ⟨m, (y :: others).map StringChar.value ++ s⟩ 0 = ' ' :=
        fun s => hvalues _ List.mem_cons_self
      rw [List.flatMap_append, List.flatMap_append, flatMap_text_of_spaces hspaces,
        List.append_assoc, List.append_assoc, quotedRest, peek_bind, hopen]
      change (quotedGap start >>= fun gap => Reader.fuel >>= fun fuel' =>
        quotedRun true start fuel' >>= fun run => quotedRest '"' start fuel >>= fun more =>
          pure (gap.map Char.toNat ++ run ++ more)) _ = _
      rw [bind_of_ok hgap, fuel_bind, bind_of_ok hread, bind_of_ok hnext, pure_run]
      simp [Mark.pastAll_append]

theorem ofCodes_map_toNat (s : Text) : ScalarText.ofCodes (s.map Char.toNat) = { chars := s } := by
  simp [ScalarText.ofCodes]

/-- A string in its quotes is a quoted scalar with its value. -/
theorem quotedScalar_string {cs : List StringChar} (hyaml : ∀ x ∈ cs, x.isYaml = true) (m : Mark)
    (rest : Text) :
    quotedScalar ⟨m, quotedText cs ++ rest⟩ =
      .ok (⟨.scalar { chars := cs.map StringChar.value } false, m, m.pastAll (quotedText cs)⟩,
        ⟨m.pastAll (quotedText cs), rest⟩) := by
  obtain ⟨run, more, rfl, hrun, hmore⟩ : ∃ run more, cs = run ++ more ∧
      (∀ x ∈ run, isSpace x = false) ∧ ∀ x ∈ more.head?, isSpace x = true := by
    refine ⟨cs.takeWhile (!isSpace ·), cs.dropWhile (!isSpace ·),
      List.takeWhile_append_dropWhile.symm, fun x hx => ?_, fun x hx => ?_⟩
    · simpa using List.all_eq_true.1 List.all_takeWhile x hx
    · have := List.head?_dropWhile_not (!isSpace ·) cs
      rw [Option.mem_def.1 hx] at this
      simpa using this
  obtain ⟨hrunYaml, hmoreYaml⟩ := List.forall_mem_append.1 hyaml
  have hread := quotedRun_chars hrunYaml hrun (endsRun_text hmore rest) m (m.past '"')
    ((run.flatMap StringChar.text ++
      (more.flatMap StringChar.text ++ '"' :: rest)).length + 1)
    (by have := length_le_flatMap_text run; simp only [List.length_append]; omega)
  have hnext := quotedRest_chars hmoreYaml hmore rest m
    ((m.past '"').pastAll (run.flatMap StringChar.text))
    ((more.flatMap StringChar.text ++ '"' :: rest).length + 1)
    (by have := length_le_flatMap_text more; simp only [List.length_append]; omega)
  have htext : quotedText (run ++ more) ++ rest = '"' :: (run.flatMap StringChar.text ++
      (more.flatMap StringChar.text ++ '"' :: rest)) := by
    simp [quotedText]
  rw [htext]
  change (Reader.fuel >>= fun fuel => quotedRun true m fuel >>= fun first =>
    Reader.fuel >>= fun fuel => quotedRest '"' m fuel >>= fun rest => skip 1 >>= fun _ =>
      mark >>= fun stop => pure (⟨.scalar (.ofCodes (first ++ rest)) false, m, stop⟩ : Token))
    ⟨m.past '"', _⟩ = _
  rw [fuel_bind, bind_of_ok hread, fuel_bind, bind_of_ok hnext, skip_bind, mark_bind, pure_run]
  have hcodes : run.map (·.value.toNat) ++ more.map (·.value.toNat) =
      ((run ++ more).map StringChar.value).map Char.toNat := by
    rw [← List.map_append, List.map_map]
    rfl
  rw [hcodes, ofCodes_map_toNat]
  simp [quotedText, Mark.pastAll_append]

end Docpress.Yaml
