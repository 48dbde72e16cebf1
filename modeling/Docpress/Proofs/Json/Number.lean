import Docpress.Proofs.Json.Grammar
import Docpress.Proofs.Text.Substitute
import Docpress.Proofs.Text.Utf8
import Docpress.Yaml.Scalar
import Mathlib.Tactic.SplitIfs
/-!
Numbers of JSON as plain scalars. A number without a fraction and without an exponent is a whole
number of YAML, one with a fraction and perhaps a signed exponent is a real one, and both have the
value that they have in JSON.
-/

namespace Docpress.Json

open Yaml

/-! ### Characters -/

/-- What holds of the ten digits holds of every digit. -/
theorem forall_digit {P : Char → Prop} [DecidablePred P]
    (h : ("0123456789".toList.all fun c => decide (P c)) = true) {c : Char}
    (hc : c.isDigit = true) : P c := by
  refine Text.forall_of_all h c ?_
  have hlt : c.toNat < 58 := by
    have : c.toNat ≤ 57 := UInt32.le_iff_toNat_le.1 (of_decide_eq_true (Bool.and_eq_true_iff.1 hc).2)
    omega
  exact Text.forall_of_toNat_lt (P := fun c => c.isDigit = true → c ∈ "0123456789".toList)
    (by decide +kernel) hlt hc

theorem Digits.exists_cons (d : Digits) :
    ∃ c s, d.chars = c :: s ∧ c.isDigit = true ∧ ∀ c ∈ s, c.isDigit = true := by
  obtain ⟨c, s, hd⟩ := List.exists_cons_of_ne_nil d.ne_nil
  have hdigit := d.isDigit
  rw [hd, List.forall_mem_cons] at hdigit
  exact ⟨c, s, hd, hdigit.1, hdigit.2⟩

/-- The characters that numbers are written with. -/
def numberChars : Text :=
  "0123456789+-.eE".toList

theorem mem_numberChars {c : Char} (h : c.isDigit = true) : c ∈ numberChars :=
  forall_digit (P := (· ∈ numberChars)) (by decide) h

theorem Exponent.text_within (e : Exponent) : ∀ c ∈ e.text, c ∈ numberChars := by
  obtain ⟨capital, negative, digits⟩ := e
  simp only [text, List.forall_mem_append, List.forall_mem_cons]
  refine ⟨⟨?_, ?_⟩, fun c hc => mem_numberChars (digits.isDigit c hc)⟩
  · split <;> decide
  · rcases negative with _ | _ | _ <;> exact Text.forall_of_all (by decide)

theorem Number.body_within (n : Number) : ∀ c ∈ n.body, c ∈ numberChars := by
  obtain ⟨negative, whole, isProper, fraction, exponent⟩ := n
  simp only [body, List.forall_mem_append]
  refine ⟨⟨fun c hc => mem_numberChars (whole.isDigit c hc), ?_⟩, ?_⟩
  · cases fraction with
    | none => exact List.forall_mem_nil _
    | some d =>
      exact List.forall_mem_cons.2 ⟨by decide, fun c hc => mem_numberChars (d.isDigit c hc)⟩
  · cases exponent with
    | none => exact List.forall_mem_nil _
    | some e => exact e.text_within

theorem Number.text_within (n : Number) : ∀ c ∈ n.text, c ∈ numberChars := by
  unfold text
  split
  · exact List.forall_mem_cons.2 ⟨by decide, n.body_within⟩
  · exact n.body_within

/-- A number begins with a digit, after its sign. -/
theorem Number.exists_body_cons (n : Number) : ∃ c s, n.body = c :: s ∧ c.isDigit = true := by
  obtain ⟨c, s, hwhole, hc, -⟩ := n.whole.exists_cons
  exact ⟨c, _, by rw [body, hwhole]; rfl, hc⟩

/-- The text begins with a digit or a minus sign. -/
def BeginsNumber (s : Text) : Prop :=
  ∃ c t, s = c :: t ∧ c ∈ "0123456789-".toList

theorem Number.body_begins (n : Number) : BeginsNumber n.body := by
  obtain ⟨c, s, hbody, hc⟩ := n.exists_body_cons
  exact ⟨c, s, hbody, forall_digit (P := (· ∈ "0123456789-".toList)) (by decide) hc⟩

theorem Number.text_begins (n : Number) : BeginsNumber n.text := by
  unfold text
  split
  · exact ⟨'-', _, rfl, by decide⟩
  · exact n.body_begins

/-- What begins like a number is none of some words that do not. -/
theorem BeginsNumber.notMem {s : Text} (hs : BeginsNumber s) {words : List String}
    (hwords : (words.all fun w => !w.toList.head?.any ("0123456789-".toList.contains ·)) = true) :
    words.contains (String.ofList s) = false := by
  obtain ⟨c, t, rfl, hc⟩ := hs
  rw [Bool.eq_false_iff]
  intro hmem
  have hsame : (String.ofList (c :: t)).toList = c :: t := String.toList_ofList
  have hnot := List.all_eq_true.1 hwords _ (List.contains_iff_mem.1 hmem)
  rw [hsame, List.head?_cons, Option.any_some, List.contains_iff_mem.2 hc] at hnot
  cases hnot

/-- A digit is no sign. -/
theorem ne_sign_of_isDigit {c : Char} (hc : c.isDigit = true) : c ≠ '+' ∧ c ≠ '-' :=
  forall_digit (P := fun c => c ≠ '+' ∧ c ≠ '-') (by decide) hc

theorem Number.dropSign_text (n : Number) : dropSign n.text = n.body := by
  obtain ⟨c, s, hbody, hc⟩ := n.exists_body_cons
  have hne := ne_sign_of_isDigit hc
  unfold Number.text
  split
  · rfl
  · rw [hbody]
    unfold dropSign
    split <;> simp_all

/-! ### The type -/

/-- Digits are followed by what is no digit. -/
theorem dropWhile_digits {digits : Text} (hdigits : ∀ c ∈ digits, c.isDigit = true) (rest : Text)
    (hrest : ∀ c ∈ rest.head?, isDigitOrLine c = false) :
    (digits ++ rest).dropWhile isDigitOrLine = rest := by
  rw [List.dropWhile_append_of_pos fun c hc => by simp [isDigitOrLine, hdigits c hc]]
  cases rest with
  | nil => rfl
  | cons c rest => exact List.dropWhile_cons_of_neg (by simp [hrest c rfl])

/-- Digits alone are a whole number, if only zero begins with a zero. -/
theorem isWholeForm_of_digits {s : Text} (d : Digits) (hs : dropSign s = d.chars)
    (hproper : d.chars.head? = some '0' → d.chars = ['0']) : isWholeForm s = true := by
  obtain ⟨c, t, hchars, hc, ht⟩ := d.exists_cons
  have hend : t.dropWhile isDigitOrLine = [] := by
    simpa using dropWhile_digits ht [] (by simp)
  unfold isWholeForm
  rw [hs]
  rw [hchars] at hproper ⊢
  by_cases hzero : c = '0'
  · obtain rfl : t = [] := by simpa [hzero] using hproper
    rw [hzero]
    rfl
  · split
    · simp_all
    · simp_all
    · simp_all
    · rename_i heq
      obtain ⟨rfl, rfl⟩ := List.cons.inj heq
      simp [hc, hend]
    · rename_i heq
      cases heq

/-- Digits alone have no point. -/
theorem isRealForm_of_digits {s : Text} (hbegins : BeginsNumber s) (d : Digits)
    (hs : dropSign s = d.chars) : isRealForm s = false := by
  obtain ⟨c, t, hchars, hc, ht⟩ := d.exists_cons
  have hend : t.dropWhile isDigitOrLine = [] := by
    simpa using dropWhile_digits ht [] (by simp)
  have hbody : BeginsNumber d.chars :=
    ⟨c, t, hchars, forall_digit (P := (· ∈ "0123456789-".toList)) (by decide) hc⟩
  obtain ⟨first, u, rfl, hfirst⟩ := id hbegins
  have hpoint : first ≠ '.' := by
    rintro rfl
    revert hfirst
    decide
  unfold isRealForm
  rw [hs]
  dsimp only
  rw [hbody.notMem (by decide), hbegins.notMem (by decide), hchars]
  dsimp only
  rw [hend]
  split
  · simp_all
  · simp only [hc, sexagesimalTail?, Bool.and_false, Bool.false_or, Bool.or_false]
    split <;> simp_all

/-- A number without a fraction and without an exponent is a whole number. -/
theorem Number.tagOfForm_whole {n : Number} (hfraction : n.fraction = none)
    (hexponent : n.exponent = none) : tagOfForm n.text = standardTag "int" := by
  have hbody : dropSign n.text = n.whole.chars := by
    simp [n.dropSign_text, body, hfraction, hexponent]
  unfold tagOfForm
  dsimp only
  rw [n.text_begins.notMem (by decide), isRealForm_of_digits n.text_begins n.whole hbody,
    isWholeForm_of_digits n.whole hbody n.isProper]
  rfl

/-- An exponent with a sign is one that YAML knows. -/
theorem Exponent.isExponent_text {e : Exponent} (h : e.negative.isSome = true) :
    isExponent e.text = true := by
  obtain ⟨capital, negative, digits⟩ := e
  obtain ⟨sign, rfl⟩ := Option.isSome_iff_exists.1 h
  have hall : digits.chars.all Char.isDigit = true := List.all_eq_true.2 digits.isDigit
  cases capital <;> cases sign <;> simp [text, signText, isExponent, hall, digits.ne_nil]

/-- What is written behind the digits of a fraction. -/
def Number.power (n : Number) : Text :=
  (n.exponent.map Exponent.text).getD []

theorem Number.power_head (n : Number) : ∀ c ∈ n.power.head?, c = 'E' ∨ c = 'e' := by
  unfold power
  cases n.exponent with
  | none => simp
  | some e =>
    rintro c ⟨⟩
    split <;> simp

theorem Number.body_of_fraction {n : Number} {d : Digits} (h : n.fraction = some d) :
    n.body = n.whole.chars ++ '.' :: (d.chars ++ n.power) := by
  simp [body, h, power]

/-- A fraction, perhaps with a signed exponent, makes a real number. -/
theorem Number.tagOfForm_real {n : Number} {d : Digits} (hfraction : n.fraction = some d)
    (hexponent : ∀ e ∈ n.exponent, e.negative.isSome = true) :
    tagOfForm n.text = standardTag "float" := by
  obtain ⟨c, t, hwhole, hc, ht⟩ := n.whole.exists_cons
  have hpoint : (t ++ '.' :: (d.chars ++ n.power)).dropWhile isDigitOrLine =
      '.' :: (d.chars ++ n.power) := dropWhile_digits ht _ (by rintro c ⟨⟩; rfl)
  have hdigits : (d.chars ++ n.power).dropWhile isDigitOrLine = n.power :=
    dropWhile_digits d.isDigit _ fun c hc => by rcases n.power_head c hc with rfl | rfl <;> rfl
  have hpower : isExponent n.power = true := by
    unfold power
    cases h : n.exponent with
    | none => rfl
    | some e => exact e.isExponent_text (hexponent e h)
  have hreal : isRealForm n.text = true := by
    unfold isRealForm
    rw [n.dropSign_text, body_of_fraction hfraction, hwhole]
    simp [hc, hpoint, hdigits, hpower]
  unfold tagOfForm
  dsimp only
  rw [n.text_begins.notMem (by decide), hreal]
  rfl

/-! ### Whole numbers -/

theorem splitSign_of_isDigit {c : Char} (hc : c.isDigit = true) (s : Text) (negative : Bool) :
    splitSign (if negative then '-' :: c :: s else c :: s) = .ok (negative, c :: s) := by
  have hne := ne_sign_of_isDigit hc
  cases negative with
  | true => rfl
  | false =>
    rw [if_neg Bool.false_ne_true]
    unfold splitSign
    split <;> simp_all

theorem Number.dropLines_text (n : Number) : dropLines n.text = n.text :=
  List.filter_eq_self.2 fun c hc =>
    (Text.forall_of_all (by decide) : ∀ c ∈ numberChars, (c != '_') = true) c (n.text_within c hc)

/-- ASCII digits stay as they are. -/
theorem withAsciiDigits_eq {s : Text} (hs : ∀ c ∈ s, c ∈ numberChars) : s.withAsciiDigits = s := by
  have hsame : ∀ c ∈ numberChars, Text.withAsciiDigits [c] = [c] :=
    Text.forall_of_all (by decide +kernel)
  exact (List.map_congr_left fun c hc => (List.cons.inj (hsame c (hs c hc))).1).trans (List.map_id s)

theorem trimBlank_eq {s : Text} (hs : ∀ c ∈ s, c ∈ numberChars) : s.trimBlank = s :=
  Text.trimBlank_of_forall_not fun c hc =>
    (Text.forall_of_all (by decide) : ∀ c ∈ numberChars, isBlank c = false) c (hs c hc)

theorem hexDigit?_of_isDigit {c : Char} (hc : c.isDigit = true) :
    Text.hexDigit? c = some (c.toNat - '0'.toNat) ∧ c.toNat - '0'.toNat < 10 :=
  forall_digit (P := fun c => Text.hexDigit? c = some (c.toNat - '0'.toNat) ∧
    c.toNat - '0'.toNat < 10) (by decide) hc

theorem foldl_digits {digits : Text} (hdigits : ∀ c ∈ digits, c.isDigit = true) (a : Nat) :
    digits.foldl (fun (n : Int) c => n * (10 : Nat) + (Text.hexDigit? c).getD 0) a =
      digits.foldl (fun n c => n * 10 + (c.toNat - '0'.toNat)) a := by
  induction digits generalizing a with
  | nil => rfl
  | cons c digits ih =>
    obtain ⟨hc, hdigits⟩ := List.forall_mem_cons.1 hdigits
    rw [List.foldl_cons, List.foldl_cons, ← ih hdigits, (hexDigit?_of_isDigit hc).1]
    rfl

/-- Decimal digits, if there are not too many of them, are read as their number. -/
theorem readDigits_digits (d : Digits) (hlength : d.chars.length ≤ longestDecimal) :
    readDigits 10 d.chars = .ok (Text.digitsValue d.chars : Int) := by
  have hwithin : ∀ c ∈ d.chars, c ∈ numberChars := fun c hc => mem_numberChars (d.isDigit c hc)
  have hsign : ∀ c ∈ d.chars.head?, c ≠ '-' ∧ c ≠ '+' := fun c hc =>
    (ne_sign_of_isDigit (d.isDigit c (List.mem_of_mem_head? hc))).symm
  unfold readDigits
  rw [trimBlank_eq hwithin, withAsciiDigits_eq hwithin]
  split
  rename_i negative digits hmatch
  obtain ⟨rfl, rfl⟩ : negative = false ∧ digits = d.chars := by
    split at hmatch
    · rename_i heq
      exact absurd rfl (hsign '-' (by rw [heq]; rfl)).1
    · rename_i heq
      exact absurd rfl (hsign '+' (by rw [heq]; rfl)).2
    · cases hmatch
      exact ⟨rfl, rfl⟩
  dsimp only
  rw [List.takeWhile_eq_self_iff.2, List.all_eq_true.2, if_neg (by simpa using hlength),
    if_pos (by simp [d.ne_nil]), if_neg Bool.false_ne_true]
  · exact congrArg Except.ok (foldl_digits d.isDigit 0)
  -- What is left is that every character is a decimal digit, which is looked at twice.
  all_goals
    intro c hc
    obtain ⟨hdigit, hlt⟩ := hexDigit?_of_isDigit (d.isDigit c hc)
    rw [hdigit]
    exact decide_eq_true hlt

/-- A number without a fraction and without an exponent is read as its value. -/
theorem Number.wholeValue_text {n : Number} (hfraction : n.fraction = none)
    (hexponent : n.exponent = none) (hlength : n.whole.chars.length ≤ longestDecimal) :
    (wholeValue n.text).map Value.whole = .ok n.value := by
  have hbody : n.body = n.whole.chars := by simp [body, hfraction, hexponent]
  have hcolon : n.whole.chars.contains ':' = false := by
    simpa using fun h => (by decide : ':' ∉ numberChars) (mem_numberChars (n.whole.isDigit _ h))
  -- Either the number is zero, or it does not begin with a zero.
  have hread : wholeValue n.text = .ok (if n.negative then -(Text.digitsValue n.whole.chars : Int)
      else Text.digitsValue n.whole.chars) := by
    unfold wholeValue
    obtain ⟨c, t, hwhole, hc, -⟩ := n.whole.exists_cons
    rw [n.dropLines_text, text, hbody, hwhole, splitSign_of_isDigit hc, ← hwhole]
    simp only [bind, Except.bind]
    have hzero : ∀ {c : Char} {digits : Text}, n.whole.chars ≠ '0' :: c :: digits := by
      intro c digits heq
      have hproper := n.isProper (by rw [heq]; rfl)
      rw [heq] at hproper
      cases hproper
    split
    · rename_i heq
      exact absurd heq n.whole.ne_nil
    · rename_i heq
      rw [heq]
      cases n.negative <;> rfl
    · rename_i heq
      exact absurd heq hzero
    · rename_i heq
      exact absurd heq hzero
    · rename_i digits hne _ _ heq
      cases digits with
      | nil => exact absurd rfl hne
      | cons c digits => exact absurd heq hzero
    · rw [hcolon, if_neg Bool.false_ne_true, readDigits_digits n.whole hlength]
      rfl
  rw [hread]
  simp [value, hfraction, hexponent, Except.map]

/-! ### Real numbers -/

theorem neg_ofDecimal (digits : Nat) (power : Int) :
    (Binary64.ofDecimal false digits power).neg = .ofDecimal true digits power := by
  have hquotient : ∀ num den, (Binary64.ofQuotient false num den).neg = .ofQuotient true num den := by
    intro num den
    unfold Binary64.ofQuotient
    simp only [Bool.false_eq_true, if_true, if_false]
    split_ifs <;> rfl
  unfold Binary64.ofDecimal
  dsimp only
  split_ifs
  · rfl
  · rfl
  · rfl
  · exact hquotient _ _
  · exact hquotient _ _

theorem lower_eq_map {s : Text} (hs : ∀ c ∈ s, c ∈ numberChars) : lower s = s.map Char.toLower := by
  have hfrom : ∀ before, lowerFrom before s = s.map Char.toLower := by
    induction s with
    | nil => exact fun _ => rfl
    | cons c s ih =>
      obtain ⟨hc, hs⟩ := List.forall_mem_cons.1 hs
      intro before
      have hascii : c.toNat ≠ 931 ∧ c.toNat < 128 :=
        (Text.forall_of_all (by decide) : ∀ c ∈ numberChars, c.toNat ≠ 931 ∧ c.toNat < 128) c hc
      rw [lowerFrom, ih hs, if_neg (by simpa using hascii.1), lowerChar, if_pos hascii.2]
      rfl
  exact hfrom []

theorem map_toLower_digits {digits : Text} (h : ∀ c ∈ digits, c.isDigit = true) :
    digits.map Char.toLower = digits :=
  (List.map_congr_left fun c hc =>
    forall_digit (P := fun c => c.toLower = c) (by decide) (h c hc)).trans (List.map_id digits)

/-- The power of ten behind a number in small letters. -/
theorem Exponent.readPower?_text (e : Exponent) :
    Binary64.readPower? (e.text.map Char.toLower) = some e.value := by
  obtain ⟨capital, negative, digits⟩ := e
  have htext : (Exponent.text ⟨capital, negative, digits⟩).map Char.toLower =
      'e' :: (signText negative ++ digits.chars) := by
    simp only [text, List.map_append, List.map_cons, map_toLower_digits digits.isDigit]
    cases capital <;> rcases negative with _ | _ | _ <;> rfl
  have hall : digits.chars.all Char.isDigit = true := List.all_eq_true.2 digits.isDigit
  obtain ⟨c, s, hdigits, hc, -⟩ := digits.exists_cons
  have hne := ne_sign_of_isDigit hc
  have hempty : digits.chars.isEmpty = false := by simpa using digits.ne_nil
  rw [htext]
  unfold Binary64.readPower?
  split
  · contradiction
  rename_i e rest heq
  obtain ⟨rfl, rfl⟩ := List.cons.inj heq
  rw [if_neg (by decide)]
  split
  rename_i sign chars hmatch
  obtain ⟨rfl, rfl⟩ : sign = decide (negative = some true) ∧ chars = digits.chars := by
    rw [hdigits] at hmatch ⊢
    rcases negative with _ | _ | _
    · simp only [signText, List.nil_append] at hmatch
      split at hmatch <;> simp_all
    · cases hmatch
      exact ⟨rfl, rfl⟩
    · cases hmatch
      exact ⟨rfl, rfl⟩
  rw [hempty, hall, if_neg (by simp)]
  simp [value]

/-- A decimal with a point is read as its value. -/
theorem readUnsigned?_decimal (whole d : Digits) {power : Text}
    (hhead : ∀ c ∈ power.head?, c.isDigit = false) {p : Int}
    (hpower : Binary64.readPower? power = some p) :
    Binary64.readUnsigned? false (whole.chars ++ '.' :: (d.chars ++ power)) =
      some (.ofDecimal false (Text.digitsValue (whole.chars ++ d.chars)) (p - d.chars.length)) := by
  have hsplit : ∀ (rest : Text) {digits : Text}, (∀ c ∈ digits, c.isDigit = true) →
      (∀ c ∈ rest.head?, c.isDigit = false) → (digits ++ rest).takeWhile Char.isDigit = digits ∧
        (digits ++ rest).dropWhile Char.isDigit = rest := by
    intro rest digits hdigits hrest
    rw [List.takeWhile_append_of_pos hdigits, List.dropWhile_append_of_pos hdigits]
    cases rest with
    | nil => simp
    | cons c rest => simp [hrest c rfl]
  obtain ⟨hwhole, hpoint⟩ := hsplit ('.' :: (d.chars ++ power)) whole.isDigit
    (by rintro c ⟨⟩; rfl)
  obtain ⟨hfraction, hrest⟩ := hsplit power d.isDigit hhead
  rw [Binary64.readUnsigned?, hwhole, hpoint]
  simp [hfraction, hrest, hpower, d.ne_nil]

/-- In small letters a number is the same but for its exponent. -/
theorem Number.map_toLower_body {n : Number} {d : Digits} (hfraction : n.fraction = some d) :
    n.body.map Char.toLower =
      n.whole.chars ++ '.' :: (d.chars ++ n.power.map Char.toLower) := by
  rw [body_of_fraction hfraction, List.map_append, List.map_cons, List.map_append,
    map_toLower_digits n.whole.isDigit, map_toLower_digits d.isDigit]
  rfl

/-- A decimal that begins with a digit is no word for a number. -/
theorem ofText?_decimal (whole d : Digits) {power : Text}
    (hhead : ∀ c ∈ power.head?, c.isDigit = false) {p : Int}
    (hpower : Binary64.readPower? power = some p) :
    Binary64.ofText? (whole.chars ++ '.' :: (d.chars ++ power)) =
      some (.ofDecimal false (Text.digitsValue (whole.chars ++ d.chars)) (p - d.chars.length)) := by
  obtain ⟨c, s, hwhole, hc, -⟩ := whole.exists_cons
  have hne := ne_sign_of_isDigit hc
  have hread := readUnsigned?_decimal whole d hhead hpower
  unfold Binary64.ofText?
  split
  rename_i sign chars hmatch
  obtain ⟨rfl, rfl⟩ : sign = false ∧ chars = whole.chars ++ '.' :: (d.chars ++ power) := by
    rw [hwhole] at hmatch ⊢
    split at hmatch <;> simp_all
  have hword : ∀ w : Text, w.head? = some 'i' ∨ w.head? = some 'n' →
      ((whole.chars ++ '.' :: (d.chars ++ power)).map Char.toLower == w) = false := by
    intro w hw
    rw [beq_eq_false_iff_ne]
    rintro rfl
    have hlower : c.toLower ≠ 'i' ∧ c.toLower ≠ 'n' :=
      forall_digit (P := fun c => c.toLower ≠ 'i' ∧ c.toLower ≠ 'n') (by decide) hc
    simp [hwhole, hlower] at hw
  dsimp only
  rw [hword _ (.inl rfl), hword _ (.inl rfl), hword _ (.inr rfl)]
  exact hread

theorem Number.lower_body_within (n : Number) : ∀ c ∈ n.body.map Char.toLower, c ∈ numberChars := by
  have hlower : ∀ c ∈ numberChars, c.toLower ∈ numberChars := Text.forall_of_all (by decide)
  intro c hc
  obtain ⟨d, hd, rfl⟩ := List.mem_map.1 hc
  exact hlower d (n.body_within d hd)

/-- In small letters a number with a fraction is read as the decimal that it is without its sign. -/
theorem Number.readReal_body {n : Number} {d : Digits} (hfraction : n.fraction = some d) :
    readReal (n.body.map Char.toLower) =
      .ok (.ofDecimal false (Text.digitsValue (n.whole.chars ++ d.chars))
        ((n.exponent.map Exponent.value).getD 0 - d.chars.length)) := by
  have hwithin := n.lower_body_within
  have hpower : Binary64.readPower? (n.power.map Char.toLower) =
      some ((n.exponent.map Exponent.value).getD 0) := by
    unfold power
    cases n.exponent with
    | none => rfl
    | some e => exact e.readPower?_text
  have hhead : ∀ c ∈ (n.power.map Char.toLower).head?, c.isDigit = false := by
    intro c hc
    rw [List.head?_map] at hc
    obtain ⟨e, he, rfl⟩ := Option.map_eq_some_iff.1 hc
    rcases n.power_head e he with rfl | rfl <;> rfl
  rw [readReal, trimBlank_eq hwithin, withAsciiDigits_eq hwithin, map_toLower_body hfraction,
    ofText?_decimal n.whole d hhead hpower]

/-- A number with a fraction is read as its value. -/
theorem Number.realValue_text {n : Number} {d : Digits} (hfraction : n.fraction = some d) :
    (realValue n.text).map Value.real = .ok n.value := by
  have hwithin := n.lower_body_within
  have hread := readReal_body hfraction
  obtain ⟨c, t, hbody, hc⟩ := n.exists_body_cons
  have hdigit : c.toLower = c := forall_digit (P := fun c => c.toLower = c) (by decide) hc
  have hlower : lower n.text =
      if n.negative then '-' :: c :: t.map Char.toLower else c :: t.map Char.toLower := by
    rw [lower_eq_map n.text_within, text, hbody]
    split <;> simp [hdigit]
  rw [hbody, List.map_cons, hdigit] at hwithin hread
  have hpoint : c ≠ '.' := forall_digit (P := (· ≠ '.')) (by decide) hc
  have hcolon : (c :: t.map Char.toLower).contains ':' = false := by
    simpa using fun h => (by decide : ':' ∉ numberChars) (hwithin _ h)
  unfold realValue
  rw [n.dropLines_text, hlower, splitSign_of_isDigit hc]
  simp only [bind, Except.bind]
  rw [if_neg, if_neg, hcolon, if_neg Bool.false_ne_true, hread]
  · have hdigits : n.fractionDigits = d.chars := by simp [fractionDigits, hfraction]
    rw [value, hdigits, hfraction]
    cases n.negative with
    | false => rfl
    | true => exact congrArg (fun x => Except.ok (Value.real x)) (neg_ofDecimal _ _)
  · simp [hpoint]
  · simp [hpoint]

end Docpress.Json
