import Docpress.Proofs.Url.Host
import Docpress.Proofs.Url.Masked
/-!
The forms of a URL hold no markers of their own: writing one as a target or as the text of a link
adds no backslash, and no percent sign but those of its escapes.
-/

namespace Docpress.Url

open Text

/-! ### Parts -/

section Parts

variable {p : Char → Prop}

/-- The texts of all parts are within `p`, and so is the at sign that is written after a user. -/
structure Parts.Within (p : Char → Prop) (parts : Parts) : Prop where
  protocol : Text.Within p parts.protocol
  user : Text.Within p parts.user
  mark : parts.user ≠ [] → p '@'
  host : Text.Within p parts.host
  port : Text.Within p parts.port
  path : Text.Within p parts.path
  search : Text.Within p parts.search
  fragment : Text.Within p parts.fragment

theorem within_takeWhile {s : Text} (hs : Text.Within p s) (q : Char → Bool) :
    Text.Within p (s.takeWhile q) :=
  hs.of_subset (List.takeWhile_prefix q).subset

theorem within_dropWhile {s : Text} (hs : Text.Within p s) (q : Char → Bool) :
    Text.Within p (s.dropWhile q) :=
  hs.of_subset (List.dropWhile_suffix q).subset

theorem splitProtocol_within {s : Text} (hs : Text.Within p s) :
    Text.Within p (splitProtocol s).1 ∧ Text.Within p (splitProtocol s).2 := by
  have hrest := within_dropWhile hs isProtocolChar
  unfold splitProtocol
  split
  · rename_i rest heq
    rw [heq] at hrest
    obtain ⟨hcolon, hrest⟩ := within_cons.1 hrest
    dsimp only
    split
    · exact ⟨.nil, hs⟩
    · exact ⟨(within_takeWhile hs _).append (within_cons.2 ⟨hcolon, .nil⟩), hrest⟩
  · exact ⟨.nil, hs⟩

theorem splitLastAt?_within {s user after : Text} (hs : Text.Within p s)
    (h : splitLastAt? s = some (user, after)) :
    Text.Within p user ∧ p '@' ∧ Text.Within p after := by
  unfold splitLastAt? at h
  split at h
  · rename_i hat
    obtain ⟨rfl, rfl⟩ := Prod.mk.inj (Option.some.inj h)
    obtain ⟨d, hd, heq⟩ := List.any_eq_true.1 hat
    refine ⟨hs.take _, eq_of_beq heq ▸ hs d hd, fun c hc => ?_⟩
    exact hs c (List.mem_reverse.1 ((List.takeWhile_prefix _).subset (List.mem_reverse.1 hc)))
  · cases h

theorem splitPort_within {host : Text} (h : Text.Within p host) :
    Text.Within p (splitPort host).1 ∧ Text.Within p (splitPort host).2 := by
  unfold splitPort
  dsimp only
  split
  · refine ⟨(h.take _).of_subset (List.dropLast_subset _), fun c hc => ?_⟩
    exact h c (List.mem_reverse.1 ((List.takeWhile_prefix _).subset (List.mem_reverse.1 hc)))
  · exact ⟨h, .nil⟩

theorem cutHost_within (hp : HoldsOfUrl p) {before labels : List Text}
    (hbefore : ∀ label ∈ before, Text.Within p label)
    (hlabels : ∀ label ∈ labels, Text.Within p label) :
    Text.Within p (cutHost before labels).1 ∧ Text.Within p (cutHost before labels).2 := by
  have hdot : Text.Within p ['.'] := within_cons.2 ⟨hp.dot, .nil⟩
  induction labels generalizing before with
  | nil => exact ⟨join_within hdot hbefore, .nil⟩
  | cons label labels ih =>
    obtain ⟨hlabel, hlabels⟩ := List.forall_mem_cons.1 hlabels
    have hmore {label : Text} (h : Text.Within p label) :
        ∀ piece ∈ before ++ [label], Text.Within p piece :=
      List.forall_mem_append.2 ⟨hbefore, List.forall_mem_singleton.2 h⟩
    rw [cutHost]
    split
    · exact ih (hmore hlabel) hlabels
    · refine ⟨join_within hdot (hmore (within_takeWhile (hlabel.take _) _)), ?_⟩
      exact join_within hdot (List.forall_mem_cons.2 ⟨hlabel.drop _, hlabels⟩)

namespace Parts.Within

variable {parts : Parts}

theorem withHost (hp : HoldsOfUrl p) (hparts : parts.Within p) {host : Text}
    (h : Text.Within p host) :
    (parts.withHost host).1.Within p ∧ Text.Within p (parts.withHost host).2 := by
  obtain ⟨hname, hport⟩ := splitPort_within h
  have hset {name : Text} (h : Text.Within p name) (q : Prop) [Decidable q] :
      Text.Within p (if q then [] else name) := by
    split
    · exact .nil
    · exact h
  unfold Parts.withHost
  dsimp only
  split
  · refine ⟨{ hparts with host := ?_, port := hport }, .nil⟩
    exact ((hset hname _).drop 1).of_subset (List.dropLast_subset _)
  · obtain ⟨hcut, hrest⟩ := cutHost_within hp (List.forall_mem_nil _) (hname.splitBy (· == '.'))
    exact ⟨{ hparts with host := hset hcut _, port := hport }, hrest⟩

theorem withAuthority (hp : HoldsOfUrl p) (hparts : parts.Within p) {s : Text}
    (hs : Text.Within p s) :
    (parts.withAuthority s).1.Within p ∧ Text.Within p (parts.withAuthority s).2 := by
  have hhost {parts : Parts} (hparts : parts.Within p) {s : Text} (hs : Text.Within p s)
      {host : Text} (hhost : Text.Within p host) :
      (parts.withHost host).1.Within p ∧
        Text.Within p ((parts.withHost host).2 ++ s.drop host.length) :=
    ⟨(hparts.withHost hp hhost).1, (hparts.withHost hp hhost).2.append (hs.drop _)⟩
  have hname {s : Text} (hs : Text.Within p s) : Text.Within p
      (if (s.takeWhile (!endsHost ·)).getLast? == some ':' then
        (s.takeWhile (!endsHost ·)).dropLast else s.takeWhile (!endsHost ·)) := by
    split
    · exact (within_takeWhile hs _).of_subset (List.dropLast_subset _)
    · exact within_takeWhile hs _
  have hspan := within_takeWhile hs (!endsAuthority ·)
  unfold Parts.withAuthority
  dsimp only
  cases hat : splitLastAt? (s.takeWhile (!endsAuthority ·)) with
  | none => exact hhost hparts hs (hname hs)
  | some found =>
    obtain ⟨user, after⟩ := found
    obtain ⟨huser, hmark, hafter⟩ := splitLastAt?_within hspan hat
    have hrest : Text.Within p
        (after ++ s.drop (s.takeWhile (!endsAuthority ·)).length) := hafter.append (hs.drop _)
    have hparts : Parts.Within p { parts with user } :=
      { hparts with user := huser, mark := fun _ => hmark }
    exact hhost hparts hrest (hname hrest)

theorem withPath (hparts : parts.Within p) {s : Text} (hs : Text.Within p s) :
    (parts.withPath s).Within p :=
  { hparts with
    path := within_takeWhile (within_takeWhile hs _) _
    search := within_dropWhile (within_takeWhile hs _) _
    fragment := within_dropWhile hs _ }

theorem ofText (hp : HoldsOfUrl p) {url : Text} (h : Text.Within p url) :
    (Parts.ofText url).Within p := by
  obtain ⟨hprotocol, hs⟩ := splitProtocol_within (h.trim isBlank)
  have hparts (slashes : Bool) :
      Parts.Within p { protocol := (splitProtocol (Text.trimBlank url)).1, slashes } :=
    ⟨hprotocol, .nil, fun h => absurd rfl h, .nil, .nil, .nil, .nil, .nil⟩
  have hauthority (slashes : Bool) {s : Text} (hs : Text.Within p s) :=
    (hparts slashes).withAuthority hp hs
  unfold Parts.ofText
  dsimp only
  split
  · exact (hparts _).withPath hs
  · split
    · exact (hauthority true (hs.drop 2)).1.withPath (hauthority true (hs.drop 2)).2
    · split
      · exact (hparts _).withPath hs
      · exact (hauthority _ hs).1.withPath (hauthority _ hs).2

theorem recode (hparts : parts.Within p) {f : Text → Option Text}
    (hf : ∀ host new, Text.Within p host → f host = some new → Text.Within p new) :
    (parts.recode f).Within p := by
  unfold Parts.recode
  split
  · refine { hparts with host := ?_ }
    dsimp only
    cases hnew : f parts.host with
    | none => exact hparts.host
    | some new => exact hf _ _ hparts.host hnew
  · exact hparts

theorem lead (hp : HoldsOfUrl p) (hparts : parts.Within p) : Text.Within p parts.lead := by
  refine (hparts.protocol.append ?_).append ?_
  · split
    · exact .replicate hp.slash 2
    · exact .nil
  · split
    · exact .nil
    · rename_i huser
      refine hparts.user.append (within_cons.2 ⟨hparts.mark ?_, .nil⟩)
      exact fun heq => huser (List.isEmpty_iff.2 heq)

theorem tail (hp : HoldsOfUrl p) (hparts : parts.Within p) : Text.Within p parts.tail := by
  refine ((Text.Within.append ?_ hparts.path).append hparts.search).append hparts.fragment
  split
  · exact .nil
  · exact within_cons.2 ⟨hp.colon, hparts.port⟩

theorem format (hp : HoldsOfUrl p) (hparts : parts.Within p) : Text.Within p parts.format := by
  refine ((hparts.lead hp).append ?_).append (hparts.tail hp)
  split
  · exact within_cons.2 ⟨hp.brackets.1, hparts.host.append (within_cons.2 ⟨hp.brackets.2, .nil⟩)⟩
  · exact hparts.host

end Parts.Within

/-- What the writing of parts in pieces preserves. -/
theorem Parts.formatWith_of {P : Text → Prop} (hP : ∀ s t, P s → P t → P (s ++ t))
    (hbrackets : P ['['] ∧ P [']']) {f : Text → Text} {parts : Parts} (hlead : P (f parts.lead))
    (hhost : P (f parts.host)) (htail : P (f parts.tail)) : P (parts.formatWith f) := by
  refine hP _ _ (hP _ _ hlead ?_) htail
  split
  · exact hP ['['] _ hbrackets.1 (hP _ _ hhost hbrackets.2)
  · exact hhost

end Parts

/-! ### Percent escapes -/

theorem hexUpper_mem : ∀ n < 16, hexUpper n ∈ hexDigits := by
  decide

/-- Only a backslash has the digits of its escape. -/
theorem hexUpper_ne {b : Nat} (hb : b < 256) (hne : b ≠ '\\'.toNat) :
    ¬ (hexUpper (b / 16) = '5' ∧ hexUpper (b % 16) = 'C') := by
  have hpair : ∀ high < 16, ∀ low < 16,
      hexUpper high = '5' ∧ hexUpper low = 'C' → 16 * high + low = '\\'.toNat := by
    decide +kernel
  intro h
  have heq := hpair _ (by omega) _ (Nat.mod_lt b (by decide)) h
  omega

theorem escapeByte_masked {b : Nat} (hb : b < 256) (hne : b ≠ '\\'.toNat) :
    Masked (escapeByte b) :=
  .byte (hexUpper_mem _ (by omega)) (hexUpper_mem _ (Nat.mod_lt _ (by decide)))
    (hexUpper_ne hb hne) .nil

theorem escapeByte_escaped {b : Nat} (hb : b < 256) : Escaped (escapeByte b) :=
  .byte (hexUpper_mem _ (by omega)) (hexUpper_mem _ (Nat.mod_lt _ (by decide))) .nil

/-- The bytes of a character beyond ASCII are beyond it too. -/
theorem encodeChar_wide {c : Char} (hc : ¬ c.toNat < 128) :
    ∀ b ∈ Utf8.encodeChar c, 128 ≤ b ∧ b < 256 := by
  have hvalid : c.toNat < 0x110000 := by
    rcases c.valid with h | ⟨-, h⟩
    · exact Nat.lt_trans h (by decide)
    · exact h
  intro b hb
  unfold Utf8.encodeChar at hb
  dsimp only at hb
  rw [if_neg hc] at hb
  split at hb
  · simp only [List.mem_cons, List.not_mem_nil, or_false] at hb
    omega
  · split at hb <;>
    · simp only [List.mem_cons, List.not_mem_nil, or_false] at hb
      omega

/-- An encoded character of a URL is itself, or the escapes of bytes, of which only a backslash has
    that of a backslash. -/
theorem encodeUrlChar_cases (c : Char) :
    encodeUrlChar c = [c] ∨ ∃ bytes : List Nat, encodeUrlChar c = bytes.flatMap escapeByte ∧
      ∀ b ∈ bytes, b < 256 ∧ (b = '\\'.toNat → c = '\\') := by
  unfold encodeUrlChar
  split
  · rename_i hascii
    split
    · exact .inl rfl
    · refine .inr ⟨[c.toNat], by simp, List.forall_mem_singleton.2 ⟨by omega, ?_⟩⟩
      exact fun heq => Char.toNat_inj.1 heq
  · rename_i hwide
    refine .inr ⟨_, rfl, fun b hb => ?_⟩
    obtain ⟨hlow, hhigh⟩ := encodeChar_wide hwide b hb
    have hslash : '\\'.toNat = 92 := rfl
    exact ⟨hhigh, by omega⟩

theorem encodeUrlChar_masked {c : Char} (hc : c ≠ '\\' ∧ c ≠ '%') : Masked (encodeUrlChar c) := by
  rcases encodeUrlChar_cases c with hsame | ⟨bytes, heq, hbytes⟩
  · rw [hsame]
    exact .char hc .nil
  · rw [heq]
    exact Masked.flatMap fun b hb =>
      escapeByte_masked (hbytes b hb).1 fun hslash => hc.1 ((hbytes b hb).2 hslash)

theorem encodeUrlChar_escaped {c : Char} (hc : c ≠ '%') : Escaped (encodeUrlChar c) := by
  rcases encodeUrlChar_cases c with hsame | ⟨bytes, heq, hbytes⟩
  · rw [hsame]
    exact .char hc .nil
  · rw [heq]
    exact Escaped.flatMap fun b hb => escapeByte_escaped (hbytes b hb).1

/-- Without escapes that are there already every character is encoded by itself. -/
theorem percentEncode_of_notMem {s : Text} (hs : '%' ∉ s) :
    percentEncode s = s.flatMap encodeUrlChar := by
  induction s with
  | nil => rfl
  | cons c s ih =>
    obtain ⟨hc, hs⟩ := not_or.1 (mt List.mem_cons.2 hs)
    rw [percentEncode]
    · rw [ih hs]
      rfl
    · rintro a b rest rfl -
      exact hc rfl

theorem escapedRun_of_ne {c : Char} (hc : c ≠ '%') (s : Text) : escapedRun (c :: s) = [] := by
  unfold escapedRun
  split
  · rename_i heq
    exact absurd (List.cons.inj heq).1 hc
  · rfl

theorem percentDecode_of_notMem {s : Text} (hs : '%' ∉ s) : percentDecode s = s := by
  induction s with
  | nil => rfl
  | cons c s ih =>
    obtain ⟨hc, hs⟩ := not_or.1 (mt List.mem_cons.2 hs)
    rw [percentDecode, substitute_cons_of_none (by rw [escapedRun_of_ne (Ne.symm hc)]; rfl)]
    exact congrArg (c :: ·) (ih hs)

/-! ### Targets and texts of links -/

theorem holdsOfUrl_ne {d : Char} (h : d.isAlphanum = false ∧ d.toNat < 128 ∧
    d ∉ ":/.-[]".toList) : HoldsOfUrl (· ≠ d) := by
  obtain ⟨hletter, hascii, hmark⟩ := h
  have hne : ∀ c ∈ ":/.-[]".toList, c ≠ d := fun c hc heq => hmark (heq ▸ hc)
  exact {
    alphanum := fun hc heq => Bool.false_ne_true (hletter.symm.trans (heq ▸ hc))
    wide := fun hc heq => absurd (heq ▸ hascii) (Nat.not_lt.2 hc)
    colon := hne _ (by decide)
    slash := hne _ (by decide)
    dot := hne _ (by decide)
    hyphen := hne _ (by decide)
    brackets := ⟨hne _ (by decide), hne _ (by decide)⟩ }

theorem HoldsOfUrl.and {p q : Char → Prop} (hp : HoldsOfUrl p) (hq : HoldsOfUrl q) :
    HoldsOfUrl fun c => p c ∧ q c where
  alphanum hc := ⟨hp.alphanum hc, hq.alphanum hc⟩
  wide hc := ⟨hp.wide hc, hq.wide hc⟩
  colon := ⟨hp.colon, hq.colon⟩
  slash := ⟨hp.slash, hq.slash⟩
  dot := ⟨hp.dot, hq.dot⟩
  hyphen := ⟨hp.hyphen, hq.hyphen⟩
  brackets := ⟨⟨hp.brackets.1, hq.brackets.1⟩, hp.brackets.2, hq.brackets.2⟩

theorem holdsOfUrl_percent : HoldsOfUrl (· ≠ '%') :=
  holdsOfUrl_ne (by decide)

theorem holdsOfUrl_clear : HoldsOfUrl fun c => c ≠ '\\' ∧ c ≠ '%' :=
  HoldsOfUrl.and (holdsOfUrl_ne (by decide)) holdsOfUrl_percent

theorem IsClear.notMem {s : Text} (h : IsClear s) : '%' ∉ s :=
  fun hmem => (h _ hmem).2 rfl

/-- The target of a URL without markers is made of escapes and of characters that are none. -/
theorem target_masked {url : Text} (h : IsClear url) : Masked (target url) := by
  have hparts := (Parts.Within.ofText holdsOfUrl_clear h).recode fun _ _ hhost hnew =>
    hostToAscii_within holdsOfUrl_clear hhost hnew
  have hencode {s : Text} (hs : IsClear s) : Masked (percentEncode s) := by
    rw [percentEncode_of_notMem hs.notMem]
    exact Masked.flatMap fun c hc => encodeUrlChar_masked (hs c hc)
  exact Parts.formatWith_of (fun _ _ => Masked.append)
    ⟨.char (by decide) .nil, .char (by decide) .nil⟩ (hencode (hparts.lead holdsOfUrl_clear))
    (hencode hparts.host) (hencode (hparts.tail holdsOfUrl_clear))

/-- In the target of a URL without percent signs all of them are those of escapes. -/
theorem target_escaped {url : Text} (h : '%' ∉ url) : Escaped (target url) := by
  have hparts := (Parts.Within.ofText holdsOfUrl_percent (within_ne_iff.2 h)).recode
    fun _ _ hhost hnew => hostToAscii_within holdsOfUrl_percent hhost hnew
  have hencode {s : Text} (hs : Text.Within (· ≠ '%') s) : Escaped (percentEncode s) := by
    rw [percentEncode_of_notMem (within_ne_iff.1 hs)]
    exact Escaped.flatMap fun c hc => encodeUrlChar_escaped (hs c hc)
  exact Parts.formatWith_of (fun _ _ => Escaped.append)
    ⟨.char (by decide) .nil, .char (by decide) .nil⟩ (hencode (hparts.lead holdsOfUrl_percent))
    (hencode hparts.host) (hencode (hparts.tail holdsOfUrl_percent))

/-- The text of a URL without percent signs is made of its own characters, and of some more that
    a URL is made of. -/
theorem display_within {p : Char → Prop} (hp : HoldsOfUrl p) (hpercent : ∀ c, p c → c ≠ '%')
    {url : Text} (h : Text.Within p url) : Text.Within p (display url) := by
  have hparts := (Parts.Within.ofText hp h).recode fun _ _ hhost hnew =>
    hostToUnicode_within hp hhost hnew
  have hformat := hparts.format hp
  rwa [display, percentDecode_of_notMem fun hmem => hpercent _ (hformat _ hmem) rfl]

theorem display_clear {url : Text} (h : IsClear url) : IsClear (display url) :=
  display_within holdsOfUrl_clear (fun _ hc => hc.2) h

theorem display_notMem {url : Text} (h : '%' ∉ url) : '%' ∉ display url :=
  within_ne_iff.1 (display_within holdsOfUrl_percent (fun _ hc => hc) (within_ne_iff.2 h))

end Docpress.Url
