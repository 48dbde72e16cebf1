import Docpress.Proofs.Url.Target
/-!
URLs whose slashes are hidden. Such a URL has no host, so all that follows its protocol is a path
with what comes after a path; as a target only the backslashes are encoded, and as a text it stays
as it is.
-/

namespace Docpress.Url

open Text

/-- What is read as path, search and fragment is written in this order. -/
theorem Parts.tail_withPath (p : Parts) (s : Text) :
    (p.withPath s).tail = (if p.port.isEmpty then [] else ':' :: p.port) ++ s := by
  rw [Parts.tail, Parts.withPath]
  simp only [List.append_assoc]
  rw [← List.append_assoc (List.takeWhile _ _), List.takeWhile_append_dropWhile,
    List.takeWhile_append_dropWhile]

/-- Characters that a URL holds as they are. -/
def IsSafe (s : Text) : Prop :=
  ∀ c ∈ s, c.toNat < 128 ∧ isUrlSafe c = true

/-- What holds of letters, of digits and of the other characters that a URL holds. -/
theorem IsSafe.forall {p : Char → Prop} (hword : ∀ c, c.isAlphanum = true → p c)
    (hmarks : ∀ c ∈ ";/?:@&=+$,-_.!~*'()#".toList, p c) {s : Text} (hs : IsSafe s) :
    ∀ c ∈ s, p c := by
  intro c hc
  rcases Bool.or_eq_true_iff.1 (hs c hc).2 with h | h
  · exact hword c h
  · exact hmarks c (List.contains_iff_mem.1 h)

theorem IsSafe.forall_not_isBlank {s : Text} (hs : IsSafe s) : ∀ c ∈ s, isBlank c = false :=
  hs.forall (fun _ h => isBlank_of_isAlphanum h) (List.all_iff_forall_prop.1 (by decide))

theorem percentEncode_append_of_isSafe {s t : Text} (hs : IsSafe s) :
    percentEncode (s ++ t) = s ++ percentEncode t := by
  induction s with
  | nil => rfl
  | cons c s ih =>
    obtain ⟨⟨hascii, hc⟩, hs⟩ := List.forall_mem_cons.1 hs
    rw [List.cons_append, percentEncode, ih hs, encodeUrlChar, if_pos hascii, if_pos hc]
    · rfl
    · rintro a b rest rfl -
      exact absurd hc (by decide)

section Hidden

variable {scheme : Text} (hscheme : scheme ∈ hiddenSchemes) {u : Text}

include hscheme

/-- A URL with hidden slashes has a protocol, and no host. -/
theorem ofText_hidden (hu : ∀ c ∈ u, isBlank c = false) :
    Parts.ofText (scheme ++ hiddenSlashes ++ u) =
      ({ protocol := scheme ++ [':'] } : Parts).withPath ("\\/\\/".toList ++ u) := by
  have hblank : ∀ scheme ∈ hiddenSchemes, (scheme ++ hiddenSlashes).all (!isBlank ·) = true := by
    decide
  have hlead : ∀ c ∈ scheme ++ hiddenSlashes, isBlank c = false := by
    simpa only [List.all_eq_true, Bool.not_eq_true'] using hblank scheme hscheme
  rw [Parts.ofText, trimBlank_of_forall_not (List.forall_mem_append.2 ⟨hlead, hu⟩)]
  rcases mem_hiddenSchemes.1 hscheme with rfl | rfl <;> rfl

/-- Written with `f`, the parts are the protocol and what follows it. -/
theorem formatWith_hidden (f : Text → Text) (hf : f [] = []) (hu : ∀ c ∈ u, isBlank c = false)
    (recode : Text → Option Text) :
    ((Parts.ofText (scheme ++ hiddenSlashes ++ u)).recode recode).formatWith f =
      f (scheme ++ [':']) ++ f ("\\/\\/".toList ++ u) := by
  have hrecode : ∀ p : Parts, p.host = [] → p.recode recode = p := by
    intro p hhost
    simp [Parts.recode, Parts.isRecoded, hhost]
  rw [ofText_hidden hscheme hu, hrecode _ rfl, Parts.formatWith, Parts.tail_withPath]
  have hlead : (({ protocol := scheme ++ [':'] } : Parts).withPath ("\\/\\/".toList ++ u)).lead =
      scheme ++ [':'] := by
    simp [Parts.lead, Parts.withPath]
  rw [hlead]
  change f (scheme ++ [':']) ++ f [] ++ f ([] ++ _) = _
  rw [hf, List.append_nil, List.nil_append]

/-- As a target only the backslashes are encoded. -/
theorem target_hidden (hu : IsSafe u) :
    target (scheme ++ hiddenSlashes ++ u) = scheme ++ ":%5C/%5C/".toList ++ u := by
  have hprotocol : ∀ scheme ∈ hiddenSchemes, percentEncode (scheme ++ [':']) = scheme ++ [':'] := by
    decide
  have hslashes : percentEncode ("\\/\\/".toList ++ u) = "%5C/%5C/".toList ++ percentEncode u := rfl
  have hform : ":%5C/%5C/".toList = ':' :: "%5C/%5C/".toList := by decide
  have hself : percentEncode u = u := by
    have hencode := percentEncode_append_of_isSafe (t := []) hu
    rwa [List.append_nil, percentEncode, List.append_nil] at hencode
  rw [target, formatWith_hidden hscheme percentEncode rfl hu.forall_not_isBlank,
    hprotocol scheme hscheme, hslashes, hself, hform]
  simp only [List.append_assoc, List.cons_append, List.nil_append]

/-- As a text the URL stays as it is. -/
theorem display_hidden (hu : IsSafe u) :
    display (scheme ++ hiddenSlashes ++ u) = scheme ++ hiddenSlashes ++ u := by
  have hpercent : ∀ scheme ∈ hiddenSchemes, '%' ∉ scheme ++ hiddenSlashes := by decide
  have hslashes : hiddenSlashes = ':' :: "\\/\\/".toList := by decide
  have hnone : '%' ∉ scheme ++ hiddenSlashes ++ u := fun h =>
    (List.mem_append.1 h).elim (hpercent scheme hscheme) fun h => absurd (hu _ h).2 (by decide)
  have hformat : ((Parts.ofText (scheme ++ hiddenSlashes ++ u)).recode hostToUnicode).format =
      scheme ++ hiddenSlashes ++ u := by
    rw [Parts.format, formatWith_hidden hscheme id rfl hu.forall_not_isBlank, hslashes]
    simp only [id, List.append_assoc, List.cons_append, List.nil_append]
  rw [display, hformat, percentDecode_of_notMem hnone]

end Hidden

/-- Trimming takes nothing from the start of a text that begins with no blank. -/
theorem exists_trimBlank_cons {c : Char} (hc : isBlank c = false) (s : Text) :
    ∃ rest, trimBlank (c :: s) = c :: rest := by
  have hstart : trimStart isBlank (c :: s) = c :: s := List.dropWhile_cons_of_neg (by simp [hc])
  obtain ⟨cut, heq, hcut⟩ := trimEnd_append isBlank (c :: s)
  rw [trimBlank, Text.trim, hstart]
  cases htrim : trimEnd isBlank (c :: s) with
  | nil =>
    rw [htrim, List.nil_append] at heq
    exact absurd (hcut c (by rw [← heq]; simp)) (by simp [hc])
  | cons d rest =>
    rw [htrim] at heq
    exact ⟨rest, by rw [(List.cons.inj heq).1]⟩

/-- A link may have a target that does not begin like one of the forbidden protocols. -/
theorem isAllowed_cons {c : Char} (hblank : isBlank c = false)
    (hc : ∀ protocol ∈ forbiddenProtocols, protocol.head? ≠ (lowerChar c).head?)
    (hascii : c.toNat < 128) (s : Text) : isAllowed (c :: s) = true := by
  obtain ⟨rest, htrim⟩ := exists_trimBlank_cons hblank s
  have hlower : lowerChar c = [c.toLower] := if_pos hascii
  have hne : (c.toNat == 931) = false := by
    rw [beq_eq_false_iff_ne]
    omega
  have hlead : lower (c :: rest) = c.toLower :: lowerFrom [c] rest := by
    rw [lower, lowerFrom, hne, hlower]
    rfl
  rw [isAllowed, htrim, hlead, Bool.or_eq_true, Bool.not_eq_true']
  refine .inl (List.any_eq_false.2 fun protocol hprotocol => ?_)
  have hhead := hc protocol hprotocol
  rw [hlower] at hhead
  cases protocol with
  | nil => exact absurd hprotocol (by decide)
  | cons d protocol =>
    rw [startsWith_cons_of_ne fun heq => hhead (by rw [heq]; rfl)]
    exact Bool.false_ne_true

/-! ### URLs that begin with a slash -/

/-- The same stands before the user and the host. -/
def Parts.LedAlike (p q : Parts) : Prop :=
  p.protocol = q.protocol ∧ p.slashes = q.slashes

theorem Parts.LedAlike.trans {p q r : Parts} (h : p.LedAlike q) (h' : q.LedAlike r) :
    p.LedAlike r :=
  ⟨h.1.trans h'.1, h.2.trans h'.2⟩

theorem Parts.withPath_ledAlike (p : Parts) (s : Text) : (p.withPath s).LedAlike p :=
  ⟨rfl, rfl⟩

theorem Parts.withHost_ledAlike (p : Parts) (host : Text) : (p.withHost host).1.LedAlike p := by
  unfold Parts.withHost
  dsimp only
  split <;> exact ⟨rfl, rfl⟩

theorem Parts.withAuthority_ledAlike (p : Parts) (s : Text) :
    (p.withAuthority s).1.LedAlike p := by
  unfold Parts.withAuthority
  dsimp only
  split
  · exact Parts.withHost_ledAlike _ _
  · exact Parts.withHost_ledAlike _ _

theorem Parts.recode_ledAlike (p : Parts) (f : Text → Option Text) : (p.recode f).LedAlike p := by
  unfold Parts.recode
  split <;> exact ⟨rfl, rfl⟩

/-- Two slashes without a protocol are written first. -/
theorem Parts.exists_lead_slash {p : Parts} (h : p.LedAlike { slashes := true }) :
    ∃ rest, p.lead = '/' :: rest := by
  rw [Parts.lead, h.1, if_pos h.2]
  exact ⟨_, rfl⟩

/-- The target of a URL that begins with a slash begins with it. -/
theorem exists_target_slash (s : Text) : ∃ rest, target ('/' :: s) = '/' :: rest := by
  obtain ⟨rest, htrim⟩ := exists_trimBlank_cons (c := '/') (by decide) s
  have hprotocol : splitProtocol ('/' :: rest) = ([], '/' :: rest) := rfl
  rw [target, Parts.ofText, htrim, hprotocol]
  dsimp only
  rw [if_neg (by decide)]
  split
  · have hauthority := Parts.withAuthority_ledAlike { slashes := true } (('/' :: rest).drop 2)
    generalize Parts.withAuthority { slashes := true } (('/' :: rest).drop 2) = read at hauthority
    have hpath := (read.1.withPath_ledAlike read.2).trans hauthority
    obtain ⟨lead, hlead⟩ :=
      Parts.exists_lead_slash ((Parts.recode_ledAlike _ hostToAscii).trans hpath)
    rw [Parts.formatWith, hlead]
    exact ⟨_, rfl⟩
  · rw [if_pos (by decide)]
    have hhostless : (({} : Parts).withPath ('/' :: rest)).recode hostToAscii =
        ({} : Parts).withPath ('/' :: rest) := rfl
    rw [hhostless, Parts.formatWith, Parts.tail_withPath]
    exact ⟨_, rfl⟩

/-- A link may have such a target. -/
theorem isAllowed_target_slash (s : Text) : isAllowed (target ('/' :: s)) = true := by
  obtain ⟨rest, heq⟩ := exists_target_slash s
  rw [heq]
  exact isAllowed_cons (by decide) (by decide) (by decide) rest

end Docpress.Url
