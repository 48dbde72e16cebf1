import Docpress.Proofs.Html.Escape
import Docpress.Proofs.InlineTag.Underscore
/-!
Quotes by their places. A place of a text tells by itself whether an entity of a quote there is
decoded: what opens a tag stands before it and what closes the tag comes after it. Decoding what was
encoded leaves exactly the quotes outside of tags encoded.
-/

namespace Docpress.InlineTag

open Text Html

/-- What opens a tag stands before the place, and all from there to the place may be in a tag's
    body. -/
def IsOpenBefore (s : Text) (k : Nat) : Prop :=
  ∃ i, i + 2 ≤ k ∧ s.extract i (i + 2) = opening ∧ ∀ c ∈ s.extract (i + 2) k, isBody c = true

/-- Of what may not be in a tag's body, the first from the place on is what closes the tag. -/
def IsClosedFrom (s : Text) (k : Nat) : Prop :=
  (s.drop k).find? (!isBody ·) = some '}'

/-- What stands between the two places lies in a tag. -/
def LiesInTag (s : Text) (k l : Nat) : Prop :=
  IsOpenBefore s k ∧ IsClosedFrom s l

/-- At the place is an entity of a quote, in a tag. -/
def IsQuoteAt (s : Text) (k : Nat) : Prop :=
  s.extract k (k + 6) = quoteEntity ∧ LiesInTag s k (k + 6)

instance (s : Text) (k : Nat) : Decidable (IsOpenBefore s k) :=
  have (i : Nat) : Decidable (∀ c ∈ s.extract (i + 2) k, isBody c = true) := List.decidableBAll _ _
  decidable_of_iff (∃ i ∈ List.range k, i + 2 ≤ k ∧ s.extract i (i + 2) = opening ∧
      ∀ c ∈ s.extract (i + 2) k, isBody c = true)
    (exists_congr fun _ => and_iff_right_of_imp fun h => List.mem_range.2 (by omega))

instance (s : Text) (k : Nat) : Decidable (IsClosedFrom s k) :=
  inferInstanceAs (Decidable (_ = _))

instance (s : Text) (k l : Nat) : Decidable (LiesInTag s k l) :=
  inferInstanceAs (Decidable (_ ∧ _))

instance (s : Text) (k : Nat) : Decidable (IsQuoteAt s k) :=
  inferInstanceAs (Decidable (_ ∧ _))

/-- What is written for the character at a place: a quote where an entity of one is, in a tag, and
    nothing for the rest of that entity. -/
def decodeAt (s : Text) : Char × Nat → Text
  | (c, k) =>
    if IsQuoteAt s k then ['"']
    else if ∃ j < k, k < j + 6 ∧ IsQuoteAt s j then []
    else [c]

/-- Turn all quotes into entities. -/
def encodeQuotes (s : Text) : Text :=
  replaceAll ['"'] quoteEntity s

/-- What is written for the character at a place: the entity for a quote that lies in no tag. -/
def encodeAt (s : Text) : Char × Nat → Text
  | (c, k) =>
    if c = '"' ∧ ¬ LiesInTag s k (k + 1) then quoteEntity else [c]

variable {before after body rest s t : Text} {c : Char} {j k : Nat}

/-! ### Places -/

/-- Whether a part lies in a tag is told by what stands before it and after it. -/
theorem liesInTag_append (before part after : Text) :
    LiesInTag (before ++ (part ++ after)) before.length (before.length + part.length) ↔
      Encloses before after := by
  have hstop : isBody '}' = false := rfl
  refine and_congr ?_ ?_
  · rw [opens_iff_extract]
    refine exists_congr fun i => and_congr_right fun hi => ?_
    rw [extract_append_left hi, extract_append_left le_rfl, extract_length]
  · rw [IsClosedFrom, ← List.drop_drop, List.drop_left, List.drop_left,
      List.find?_eq_some_iff_append, hstop, Bool.not_false]
    simp only [Bool.not_not, true_and]
    rfl

theorem isQuoteAt_append : IsQuoteAt (before ++ s) before.length ↔
    ∃ after, s = quoteEntity ++ after ∧ Encloses before after := by
  have hentity : (before ++ s).extract before.length (before.length + 6) = s.take 6 := by
    rw [List.extract_eq_take_drop, List.drop_left, Nat.add_sub_cancel_left]
  rw [IsQuoteAt, hentity]
  constructor
  · rintro ⟨htake, hinside⟩
    obtain ⟨after, rfl⟩ : quoteEntity <+: s := List.prefix_iff_eq_take.2 htake.symm
    exact ⟨after, rfl, (liesInTag_append before quoteEntity after).1 hinside⟩
  · rintro ⟨after, rfl, hinside⟩
    exact ⟨rfl, (liesInTag_append before quoteEntity after).2 hinside⟩

/-- No entity of a quote begins within another one. -/
theorem IsQuoteAt.add_le (hj : IsQuoteAt s j) (hk : IsQuoteAt s k) (hlt : j < k) : j + 6 ≤ k := by
  have hamp : ∀ n < 6, quoteEntity[n]? = some '&' → n = 0 := by decide
  have hplace {i n : Nat} (h : s.extract i (i + 6) = quoteEntity) (hn : n < 6) :
      quoteEntity[n]? = s[i + n]? := by
    rw [← h, List.extract_eq_take_drop, Nat.add_sub_cancel_left, List.getElem?_take_of_lt hn,
      List.getElem?_drop]
  by_contra hnot
  have hsame : quoteEntity[k - j]? = quoteEntity[0]? := by
    rw [hplace hj.1 (by omega), hplace hk.1 (by omega), Nat.add_sub_cancel' hlt.le, Nat.add_zero]
  have hzero := hamp (k - j) (by omega) hsame
  omega

theorem decodeAt_of_isQuoteAt (h : IsQuoteAt s k) (c : Char) : decodeAt s (c, k) = ['"'] :=
  if_pos h

theorem decodeAt_of_within (hj : IsQuoteAt s j) (hlt : j < k) (hk : k < j + 6) (c : Char) :
    decodeAt s (c, k) = [] := by
  have hnot : ¬ IsQuoteAt s k := fun h => absurd (hj.add_le h hlt) (by omega)
  rw [decodeAt, if_neg hnot, if_pos ⟨j, hlt, hk, hj⟩]

/-- An entity in a tag is written as a quote. -/
theorem IsQuoteAt.flatMap_decodeAt (h : IsQuoteAt s k) :
    (quoteEntity.zipIdx k).flatMap (decodeAt s) = ['"'] := by
  have hrest : ("quot;".toList.zipIdx (k + 1)).flatMap (decodeAt s) = [] := by
    refine List.flatMap_eq_nil_iff.2 fun place hplace => ?_
    obtain ⟨hlo, hhi, -⟩ := List.mem_zipIdx hplace
    exact decodeAt_of_within h hlo (by simpa [Nat.add_assoc] using hhi) _
  calc (quoteEntity.zipIdx k).flatMap (decodeAt s)
      = decodeAt s ('&', k) ++ ("quot;".toList.zipIdx (k + 1)).flatMap (decodeAt s) := rfl
    _ = ['"'] := by rw [decodeAt_of_isQuoteAt h, hrest, List.append_nil]

/-! ### Decoding -/

/-- The entities in tags reach no further than to the place, if they begin before it. -/
def EndsBefore (s : Text) (k : Nat) : Prop :=
  ∀ j < k, IsQuoteAt s j → j + 6 ≤ k

theorem decodeAt_of_not (hends : EndsBefore s k) (h : ¬ IsQuoteAt s k) (c : Char) :
    decodeAt s (c, k) = [c] := by
  have hnone : ¬ ∃ j < k, k < j + 6 ∧ IsQuoteAt s j := by
    rintro ⟨j, hj, hk, hquote⟩
    exact absurd (hends j hj hquote) (by omega)
  rw [decodeAt, if_neg h, if_neg hnone]

/-- What decoding makes of a text is written place by place. -/
theorem Decodes.eq_writeFrom (h : Decodes before s t)
    (hends : EndsBefore (before ++ s) before.length) : t = writeFrom decodeAt before s := by
  induction h with
  | nil => rfl
  | @keep before c s t hplain hrest ih =>
    have hnot : ¬ IsQuoteAt (before ++ c :: s) before.length := by
      rw [isQuoteAt_append]
      rintro ⟨after, heq, hinside⟩
      exact hplain after heq hinside
    rw [writeFrom_cons, decodeAt_of_not hends hnot, ← ih]
    · rfl
    · rw [← List.append_cons, List.length_append, List.length_singleton]
      intro j hj hquote
      obtain hj | rfl := Nat.lt_succ_iff_lt_or_eq.1 hj
      · exact (hends j hj hquote).trans (Nat.le_succ _)
      · exact absurd hquote hnot
  | @decode before after t hinside hrest ih =>
    have hquote : IsQuoteAt (before ++ (quoteEntity ++ after)) before.length :=
      isQuoteAt_append.2 ⟨after, rfl, hinside⟩
    rw [writeFrom_append, hquote.flatMap_decodeAt, ← ih]
    · rfl
    · -- An entity that begins after this one begins only where this one ends.
      rw [List.append_assoc, List.length_append]
      intro j hj hother
      obtain hlt | rfl | hlt := Nat.lt_trichotomy j before.length
      · exact (hends j hlt hother).trans (Nat.le_add_right _ _)
      · exact le_rfl
      · have hapart := hquote.add_le hother hlt
        have hlength : quoteEntity.length = 6 := rfl
        omega

/-! ### Quotes that were encoded -/

theorem encodeQuotes_eq_substitute : encodeQuotes = substitute (claim [quoteRule.flip]) :=
  replaceAll_eq_substitute quoteRule.flip

theorem spares_encodeQuotes : Spares isEdge encodeQuotes := by
  rw [encodeQuotes_eq_substitute]
  exact spares_substitute (by decide)

theorem spares_decodeQuote : Spares isEdge (replaceAll quoteRule.old quoteRule.new) := by
  rw [replaceAll_eq_substitute]
  exact spares_substitute (by decide)

/-- In a tag without entities of quotes, encoding is taken back. -/
theorem decodeQuote_encodeQuotes (h : ¬ quoteEntity <:+: s) :
    replaceAll quoteRule.old quoteRule.new (encodeQuotes s) = s := by
  have hsettled : Settled [quoteRule] := by decide
  have hflip : ∀ rule ∈ [quoteRule.flip], rule.flip ∈ [quoteRule] :=
    List.forall_mem_singleton.2 List.mem_cons_self
  have hnone : ¬ HasOneOf [quoteRule.old] s := by
    rintro ⟨part, hpart, hinfix⟩
    rw [List.mem_singleton.1 hpart] at hinfix
    exact h hinfix
  rw [replaceAll_eq_substitute, encodeQuotes_eq_substitute,
    hsettled.substitute_flip (by decide) hflip, hsettled.substitute_eq_self_iff]
  exact hnone

theorem encodeAt_of_encloses (h : Encloses before after) :
    encodeAt (before ++ c :: after) (c, before.length) = [c] :=
  if_neg fun ⟨_, hnot⟩ => hnot ((liesInTag_append before [c] after).2 h)

theorem encodeAt_of_ne (h : c ≠ '"') (s : Text) (k : Nat) : encodeAt s (c, k) = [c] :=
  if_neg fun ⟨hc, _⟩ => h hc

theorem encodeAt_of_not_encloses (h : ¬ Encloses before after) :
    encodeAt (before ++ '"' :: after) ('"', before.length) = quoteEntity :=
  if_pos ⟨rfl, fun hinside => h ((liesInTag_append before ['"'] after).1 hinside)⟩

/-- What lies in a tag is kept. -/
theorem writeFrom_encodeAt_tagOf (hbody : IsTagBody body) (before rest : Text) :
    writeFrom encodeAt before (tagOf body ++ rest) =
      tagOf body ++ writeFrom encodeAt (before ++ tagOf body) rest := by
  refine writeFrom_append_of_kept fun lead c tail htag => ?_
  by_cases hc : c = '"'
  · have hopening : c ∉ opening := by rw [hc]; decide
    have hclose : c ≠ '}' := by rw [hc]; decide
    have hinside := encloses_of_tagOf hopening hclose hbody htag rest
    exact encodeAt_of_encloses ⟨hinside.1.append_left before, hinside.2⟩
  · exact encodeAt_of_ne hc _ _

theorem decodeQuotes_encodeQuotes_of_outside (houtside : Outside before s)
    (hentity : ¬ quoteEntity <:+: s) :
    decodeQuotes (encodeQuotes s) = writeFrom encodeAt before s := by
  induction s using tag_induction generalizing before with
  | nil => rfl
  | char c s hlead ih =>
    have hrest := ih (houtside.step hlead) fun h => hentity (h.trans (List.suffix_cons c s).isInfix)
    rw [writeFrom_cons, ← hrest]
    by_cases hc : c = '"'
    · -- The entity of a quote has no brace, so no tag begins in it either.
      subst hc
      have hnot : ¬ Encloses before s := fun ⟨hopens, hcloses⟩ =>
        houtside.1 (hcloses.cons rfl) (by simp) hopens
      have hencoded : encodeQuotes (['"'] ++ s) = quoteEntity ++ encodeQuotes s :=
        replaceAll_append_self (by decide)
      rw [List.singleton_append] at hencoded
      rw [hencoded, decodeQuotes, mapTags_append_of_notMem (by decide),
        encodeAt_of_not_encloses hnot]
      rfl
    · have hencoded : encodeQuotes (c :: s) = c :: encodeQuotes s :=
        replaceAll_cons_of_not fun rest heq => hc (List.cons.inj heq).1
      have hlead' : lead? (c :: encodeQuotes s) = none := by
        rw [← hencoded, lead?_of_spares spares_encodeQuotes, hlead, Option.map_none]
      rw [hencoded, decodeQuotes, mapTags_cons_of_none hlead', encodeAt_of_ne hc]
      rfl
  | tag body rest hbody ih =>
    have htag : ¬ quoteEntity <:+: tagOf body := fun h =>
      hentity (h.trans (List.prefix_append _ rest).isInfix)
    have hafter : Outside (before ++ tagOf body) rest := by
      rw [tagOf, ← List.append_assoc]
      exact .afterBrace _ rest
    have hrest := ih hafter fun h => hentity (h.trans (List.suffix_append _ rest).isInfix)
    calc decodeQuotes (encodeQuotes (tagOf body ++ rest))
        = decodeQuotes (tagOf (encodeQuotes body) ++ encodeQuotes rest) := by
          rw [spares_tagOf_append spares_encodeQuotes]
      _ = replaceAll quoteRule.old quoteRule.new (tagOf (encodeQuotes body)) ++
          decodeQuotes (encodeQuotes rest) :=
          mapTags_tagOf_append (isTagBody_of_spares spares_encodeQuotes hbody) _
      _ = tagOf body ++ writeFrom encodeAt (before ++ tagOf body) rest := by
          rw [← spares_tagOf spares_encodeQuotes, decodeQuote_encodeQuotes htag, hrest]
      _ = writeFrom encodeAt before (tagOf body ++ rest) :=
          (writeFrom_encodeAt_tagOf hbody before rest).symm

/-- The entities of quotes in tags are decoded, and all else is kept. Nothing is left to be decoded;
    and where a text without such entities has had all of its quotes encoded, those outside of tags
    stay encoded, and no others. -/
theorem decodeQuotes_exact (s : Text) :
    decodeQuotes s = s.zipIdx.flatMap (decodeAt s) ∧
      decodeQuotes (decodeQuotes s) = decodeQuotes s ∧
      (¬ quoteEntity <:+: s → decodeQuotes (encodeQuotes s) = s.zipIdx.flatMap (encodeAt s)) := by
  have hsettled : Settled [quoteRule] := by decide
  refine ⟨?_, ?_, decodeQuotes_encodeQuotes_of_outside (.start s)⟩
  · exact (decodeQuotes_decodes s).eq_writeFrom fun _ hj => absurd hj (Nat.not_lt_zero _)
  · have hquote (tag : Text) :
        replaceAll quoteRule.old quoteRule.new (replaceAll quoteRule.old quoteRule.new tag) =
          replaceAll quoteRule.old quoteRule.new tag := by
      rw [replaceAll_eq_substitute, hsettled.idempotent]
    exact (mapTags_mapTags _ spares_decodeQuote s).trans (congrArg (mapTags · s) (funext hquote))

/-- Of the quotes of a text only the one in a tag comes back. -/
theorem decodeQuotes_encodeQuotes_link :
    ¬ quoteEntity <:+: "\"a\" \x7b@link \"b\x7d \x7b@\x7d \"".toList ∧
      decodeQuotes (encodeQuotes "\"a\" \x7b@link \"b\x7d \x7b@\x7d \"".toList) =
        "&quot;a&quot; \x7b@link \"b\x7d \x7b@\x7d &quot;".toList := by
  have hnone : ¬ quoteEntity <:+: "\"a\" \x7b@link \"b\x7d \x7b@\x7d \"".toList := fun h =>
    absurd (h.subset (List.mem_cons_self : '&' ∈ quoteEntity)) (by decide)
  exact ⟨hnone, ((decodeQuotes_exact _).2.2 hnone).trans (by decide)⟩

end Docpress.InlineTag
