import Docpress.Proofs.Text.Alphanum
import Docpress.Proofs.Text.Lower
import Docpress.Proofs.Text.Within
import Docpress.Proofs.Text.Words
import Docpress.Url.Normal
/-!
What recoding the labels of a host writes: characters of the host, and letters, digits, marks of a
URL and characters beyond ASCII.
-/

namespace Docpress

open Text

/-- The predicate holds of the characters that writing a URL may add to those that it has. -/
structure HoldsOfUrl (p : Char → Prop) : Prop where
  alphanum {c : Char} : c.isAlphanum = true → p c
  wide {c : Char} : 128 ≤ c.toNat → p c
  colon : p ':'
  slash : p '/'
  dot : p '.'
  hyphen : p '-'
  brackets : p '[' ∧ p ']'

/-! ### Lower case -/

section Lower

variable {p : Char → Prop}

theorem HoldsOfUrl.of_shiftBy? (hp : HoldsOfUrl p) {c d : Char}
    (h : shiftBy? lowerRuns c = some d) : p d := by
  obtain ⟨-, -, -, -, -, rfl | hwide⟩ := shiftBy?_lowerRuns h
  · exact hp.alphanum (by decide)
  · exact hp.wide hwide

theorem lowerChar_within (hp : HoldsOfUrl p) {c : Char} (hc : p c) : Within p (lowerChar c) := by
  unfold lowerChar
  split
  · rename_i hascii
    refine within_cons.2 ⟨?_, .nil⟩
    rcases isAlphanum_toLower hascii with hsame | hletter
    · rwa [hsame]
    · exact hp.alphanum hletter
  · split
    · exact within_cons.2 ⟨hp.alphanum (by decide), within_cons.2 ⟨hp.wide (by decide), .nil⟩⟩
    · refine within_cons.2 ⟨?_, .nil⟩
      cases hshift : shiftBy? lowerRuns c with
      | none => exact hc
      | some d => exact hp.of_shiftBy? hshift

theorem lower_within (hp : HoldsOfUrl p) {s : Text} (hs : Within p s) : Within p (lower s) :=
  lowerFrom_within ⟨hp.wide (by decide), hp.wide (by decide)⟩ fun c hc _ =>
    lowerChar_within hp (hs c hc)

end Lower

/-! ### Punycode -/

namespace Punycode

variable {p : Char → Prop}

theorem threshold_le (bias place : Nat) : threshold bias place ≤ 26 := by
  unfold threshold
  dsimp only
  split
  · decide
  · exact Nat.min_le_right _ _

theorem isAlphanum_digit : ∀ n < 36, (digit n).isAlphanum = true := by
  decide +kernel

theorem writeNumber_within (hp : HoldsOfUrl p) {bias fuel place n : Nat} :
    Within p (writeNumber bias fuel place n) := by
  induction fuel generalizing place n with
  | zero => exact .nil
  | succ fuel ih =>
    have hthreshold := threshold_le bias place
    rw [writeNumber]
    split
    · rename_i hn
      exact within_cons.2 ⟨hp.alphanum (isAlphanum_digit n (by omega)), .nil⟩
    · refine within_cons.2 ⟨hp.alphanum (isAlphanum_digit _ ?_), ih⟩
      have hmod := Nat.mod_lt (n - threshold bias place)
        (show 0 < 36 - threshold bias place by omega)
      omega

theorem Encoder.pass_within (hp : HoldsOfUrl p) (m : Nat) {e : Encoder} (he : Within p e.out)
    (c : Char) : Within p (e.pass m c).out := by
  unfold Encoder.pass
  split
  · exact he
  · split
    · exact he.append (writeNumber_within hp)
    · exact he

theorem Encoder.foldl_pass_within (hp : HoldsOfUrl p) (m : Nat) {label : Text} {e : Encoder}
    (he : Within p e.out) : Within p (label.foldl (Encoder.pass m) e).out := by
  induction label generalizing e with
  | nil => exact he
  | cons c label ih => exact ih (Encoder.pass_within hp m he c)

theorem encodeLoop_within (hp : HoldsOfUrl p) {label : Text} {fuel n : Nat} {e : Encoder}
    (he : Within p e.out) : Within p (encodeLoop label fuel n e) := by
  induction fuel generalizing n e with
  | zero => exact he
  | succ fuel ih =>
    rw [encodeLoop]
    split
    · exact he
    · exact ih (Encoder.foldl_pass_within hp _ he)

theorem encode_within (hp : HoldsOfUrl p) {label : Text} (h : Within p label) :
    Within p (encode label) := by
  have hbasic : Within p (label.filter (·.toNat < 128)) := fun c hc => h c (List.mem_filter.1 hc).1
  refine Within.append ?_ (encodeLoop_within hp .nil)
  split
  · exact .nil
  · exact hbasic.append (within_cons.2 ⟨hp.hyphen, .nil⟩)

theorem decodeLoop?_within (hp : HoldsOfUrl p) {fuel char position bias : Nat} {first : Bool}
    {out : List Nat} {digits : Text} {label : List Nat} (hchar : 128 ≤ char)
    (hout : Within p (ofCodes out))
    (h : decodeLoop? fuel char position bias first out digits = some label) :
    Within p (ofCodes label) := by
  induction fuel generalizing char position bias first out digits with
  | zero => cases h
  | succ fuel ih =>
    rw [decodeLoop?] at h
    split at h
    · exact Option.some.inj h ▸ hout
    · split at h
      · cases h
      · dsimp only at h
        split at h
        · cases h
        · rename_i delta rest _ hvalid
          have hmore : 128 ≤ char + (position + delta) / (out.length + 1) :=
            Nat.le_trans hchar (Nat.le_add_right _ _)
          refine ih hmore (ofCodes_insert_within hout (fun _ => hp.wide (by decide)) ?_ _) h
          intro hwhole
          rw [maxCodePoint] at hvalid
          simp only [isSurrogate, Bool.and_eq_false_iff, decide_eq_false_iff_not] at hwhole
          refine hp.wide ?_
          rwa [toNat_ofNat (by omega)]

theorem decode?_within (hp : HoldsOfUrl p) {form label : Text} (hform : Within p form)
    (h : decode? form = some label) : Within p label := by
  obtain ⟨codes, hcodes, rfl⟩ := Option.map_eq_some_iff.1 h
  unfold decodeCodes? at hcodes
  dsimp only at hcodes
  split at hcodes
  · refine decodeLoop?_within hp (Nat.le_refl _) ?_ hcodes
    rw [ofCodes_map_toNat]
    exact hform.take _
  · cases hcodes

end Punycode

/-! ### Hosts -/

namespace Url

variable {p : Char → Prop}

theorem join_within {sep : Text} {pieces : List Text} (hsep : Within p sep)
    (h : ∀ piece ∈ pieces, Within p piece) : Within p (Text.join sep pieces) := by
  induction pieces with
  | nil => exact .nil
  | cons piece pieces ih =>
    obtain ⟨hpiece, hpieces⟩ := List.forall_mem_cons.1 h
    cases pieces with
    | nil => exact hpiece
    | cons next pieces => exact (hpiece.append hsep).append (ih hpieces)

theorem mem_of_mapM_eq_some {α β : Type} {f : α → Option β} {l : List α} {m : List β}
    (h : l.mapM f = some m) : ∀ b ∈ m, ∃ a ∈ l, f a = some b := by
  induction l generalizing m with
  | nil =>
    obtain rfl := Option.some.inj h
    exact List.forall_mem_nil _
  | cons a l ih =>
    simp only [List.mapM_cons, Option.bind_eq_bind, Option.bind_eq_some_iff, Option.pure_def] at h
    obtain ⟨b, hb, m, hm, h⟩ := h
    obtain rfl := Option.some.inj h
    refine List.forall_mem_cons.2 ⟨⟨a, List.mem_cons_self, hb⟩, fun c hc => ?_⟩
    obtain ⟨d, hd, heq⟩ := ih hm c hc
    exact ⟨d, List.mem_cons_of_mem _ hd, heq⟩

/-- What is recoded label by label stays within what the labels stay within. -/
theorem mapLabels_within (hp : HoldsOfUrl p) {f : Text → Option Text}
    (hf : ∀ label new, Within p label → f label = some new → Within p new) {host new : Text}
    (hhost : Within p host) (h : mapLabels f host = some new) : Within p new := by
  have hlabels {host new : Text} (hhost : Within p host)
      (h : mapLabels.labels f host = some new) : Within p new := by
    obtain ⟨pieces, hpieces, rfl⟩ := Option.map_eq_some_iff.1 h
    refine join_within (within_cons.2 ⟨hp.dot, .nil⟩) fun piece hpiece => ?_
    obtain ⟨label, hlabel, heq⟩ := mem_of_mapM_eq_some hpieces piece hpiece
    exact hf label piece (hhost.splitBy _ label hlabel) heq
  have hparts := hhost.splitBy (· == '@')
  unfold mapLabels at h
  split at h
  · rename_i user rest after hsplit
    have hat : '@' ∈ host := by
      refine Decidable.byContradiction fun hnone => ?_
      have hsame : Text.splitBy (· == '@') host = [host] :=
        splitBy_of_forall_not fun c hc => by simpa using ne_of_mem_of_not_mem hc hnone
      rw [hsame] at hsplit
      cases hsplit
    rw [hsplit] at hparts
    obtain ⟨huser, hparts⟩ := List.forall_mem_cons.1 hparts
    obtain ⟨out, hout, rfl⟩ := Option.map_eq_some_iff.1 h
    exact huser.append
      (within_cons.2 ⟨hhost '@' hat, hlabels (List.forall_mem_cons.1 hparts).1 hout⟩)
  · exact hlabels hhost h

theorem hostToAscii_within (hp : HoldsOfUrl p) {host new : Text} (hhost : Within p host)
    (h : hostToAscii host = some new) : Within p new := by
  refine mapLabels_within hp (fun label new hlabel hnew => ?_) hhost h
  obtain rfl := Option.some.inj hnew
  split
  · refine Within.append ?_ (Punycode.encode_within hp hlabel)
    have hxn : "xn--".toList = ['x', 'n', '-', '-'] := by decide
    rw [hxn]
    exact within_cons.2 ⟨hp.alphanum (by decide), within_cons.2 ⟨hp.alphanum (by decide),
      .replicate hp.hyphen 2⟩⟩
  · exact hlabel

theorem hostToUnicode_within (hp : HoldsOfUrl p) {host new : Text} (hhost : Within p host)
    (h : hostToUnicode host = some new) : Within p new := by
  refine mapLabels_within hp (fun label new hlabel hnew => ?_) hhost h
  split at hnew
  · rename_i form hform
    have hlead := dropLead?_eq_some.1 hform
    refine Punycode.decode?_within hp (lower_within hp (hlabel.of_subset ?_)) hnew
    rw [hlead]
    exact List.subset_append_right _ _
  · exact Option.some.inj hnew ▸ hlabel

end Url

end Docpress
