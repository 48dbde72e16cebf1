import Docpress.Proofs.Markdown.SlashAddress
import Docpress.Proofs.Markdown.Underscore
/-!
Running text that is a URL with its slashes hidden. Its scheme is read as text and its slashes as
literal characters; what follows them is one text, unless Markdown finds emphasis or an address in
it.
-/

namespace Docpress.Markdown

open Text Url

/-! ### Neighbouring texts -/

/-- Texts in a row are one text. -/
theorem joinTexts_map_text {pieces : List Text} (h : pieces ≠ []) :
    joinTexts (pieces.map .text) = [.text pieces.flatten] := by
  induction pieces with
  | nil => exact absurd rfl h
  | cons first rest ih =>
    cases rest with
    | nil => rw [List.flatten_cons, List.flatten_nil, List.append_nil]; rfl
    | cons next more =>
      rw [List.map_cons, joinTexts, ih (List.cons_ne_nil _ _)]
      rfl

/-- Pieces that are no texts are not joined. -/
theorem mem_joinTexts {span : Span} (hspan : ∀ t, span ≠ .text t) {spans : List Span}
    (h : span ∈ spans) : span ∈ joinTexts spans := by
  induction spans using joinTexts.induct with
  | case1 => exact h
  | case2 s rest t rest' heq ih =>
    have ih := ih ((List.mem_cons.1 h).resolve_left (hspan s))
    rw [heq] at ih
    rw [joinTexts, heq]
    exact List.mem_cons_of_mem _ ((List.mem_cons.1 ih).resolve_left (hspan t))
  | case3 s rest hjoin ih =>
    have ih := ih ((List.mem_cons.1 h).resolve_left (hspan s))
    rw [joinTexts]
    split
    · rename_i t rest' heq
      exact absurd heq (hjoin t rest')
    · exact List.mem_cons_of_mem _ ih
  | case4 s rest hs ih =>
    rw [joinTexts]
    · exact (List.mem_cons.1 h).elim (fun heq => heq ▸ List.mem_cons_self)
        fun hrest => List.mem_cons_of_mem _ (ih hrest)
    · exact hs

/-- Nor does a piece that is no text get lost when addresses are made links. -/
theorem mem_withAddresses {span : Span} (hspan : ∀ t, span ≠ .text t) (source : Text)
    {spans : List Span} (h : span ∈ spans) : span ∈ withAddresses source spans := by
  have hlinks (before : Option Span) : span ∈ (linkSpans before spans).1 := by
    induction spans generalizing before with
    | nil => exact h
    | cons first rest ih =>
      rcases linkSpans_cons before first rest with heq | ⟨s, rfl, heq⟩
      · rw [heq]
        exact (List.mem_cons.1 h).elim (fun hfirst => hfirst ▸ List.mem_cons_self)
          fun hrest => List.mem_cons_of_mem _ (ih hrest _)
      · rw [heq]
        exact List.mem_append_right _ (ih ((List.mem_cons.1 h).resolve_left (hspan s)) _)
  unfold withAddresses
  split
  · exact hlinks none
  · exact h

/-! ### Reading the URL -/

/-- The pieces that a scheme and hidden slashes are read as. -/
def schemeSpans (scheme : Text) : List Span :=
  [.text (scheme ++ [':']), .literal ['/'], .literal ['/']]

/-- The reader behind the hidden slashes. -/
def Reader.behindSlashes (scheme u : Text) : Reader where
  place := ⟨scheme.length + 5, ['/', '\\', '/', '\\', ':'] ++ scheme.reverse, u, []⟩
  spans := (schemeSpans scheme).reverse
  count := 3

/-- Behind hidden slashes the text stays as it is: no two runs of underscores in it make emphasis,
    and no address begins in it but right behind the slashes. -/
def StandsAsWritten (u : Text) : Prop :=
  ((underscoreRuns '/' 0 u).Pairwise fun opener closer => opener.fits closer = false) ∧
    ∀ f ∈ BareLink.findAll u, f.start = 0

instance (u : Text) : Decidable (StandsAsWritten u) :=
  inferInstanceAs (Decidable (_ ∧ ∀ f ∈ BareLink.findAll u, f.start = 0))

/-- So it does if its underscores stand in words and it has no two slashes in a row. -/
theorem standsAsWritten_of_inWords {u : Text} (hslashed : BareLink.IsSlashed u)
    (hwords : InWords '/' u) (hslashes : hasPart ['/', '/'] u = false) : StandsAsWritten u := by
  refine ⟨List.pairwise_of_forall_mem_list fun opener hopener closer _ => ?_, ?_⟩
  · have hopens := opens_of_inWords hwords (by decide) opener hopener
    simp [Delimiter.fits, hopens]
  · rw [hslashed.findAll_eq_nil hslashes]
    exact List.forall_mem_nil _

section

variable {scheme : Text} (hscheme : scheme ∈ hiddenSchemes) {u : Text}

include hscheme

theorem Reader.read_hidden (refs : References) (fuel room : Nat) :
    Reader.read refs (fuel + (scheme.length + 3)) (room + 1)
        { place := .start (scheme ++ hiddenSlashes ++ u) } =
      Reader.read refs fuel (room + 1) (Reader.behindSlashes scheme u) := by
  rcases mem_hiddenSchemes.1 hscheme with rfl | rfl <;> rfl

/-- What is read behind the slashes: texts and runs of underscores, which resolve to emphasis among
    all pieces of the URL. -/
theorem inlineSpans_hidden (refs : References)
    (hu : ∀ c ∈ u, c = '_' ∨ c ∉ inlineMarks ∧ c ≠ ':') :
    ∃ (pieces : List Text) (heads : List Delimiter) (low : Nat),
      inlineSpans refs (scheme ++ hiddenSlashes ++ u) =
          joinTexts (resolveEmphasis (schemeSpans scheme ++ pieces.map .text)
            (heads.flatMap Delimiter.run)) ∧
      pieces.flatten = u ∧ heads.map Delimiter.unplaced = underscoreRuns '/' 0 u ∧
      AreRuns (3 + pieces.length) low heads := by
  have hlength : (scheme ++ hiddenSlashes ++ u).length + 1 =
      u.length + 3 + (scheme.length + 3) := by
    have hslashes : hiddenSlashes.length = 5 := by decide
    simp only [List.length_append, hslashes]
    omega
  obtain ⟨pieces, heads, hadds, hflat, hruns, hplaced⟩ := Reader.readsRuns_read refs hu
    (r := .behindSlashes scheme u) rfl (fun _ => rfl) (Nat.le_add_right u.length 3) 19
  refine ⟨pieces, heads, _, ?_, hflat, hruns, hplaced⟩
  rw [inlineSpans, hlength, maxNesting, Reader.read_hidden hscheme, Reader.finish,
    Reader.delimiters_flush]
  rw [hadds.spans, hadds.delimiters]
  simp only [Reader.behindSlashes, List.reverse_reverse, List.reverse_nil, List.nil_append]

/-- The pieces behind the slashes are one text if no two runs of underscores make emphasis, and else
    there is emphasis among them. -/
theorem inlineSpans_hidden_cases (refs : References)
    (hu : ∀ c ∈ u, c = '_' ∨ c ∉ inlineMarks ∧ c ≠ ':') (hne : u ≠ []) :
    (((underscoreRuns '/' 0 u).Pairwise fun opener closer => opener.fits closer = false) ∧
      inlineSpans refs (scheme ++ hiddenSlashes ++ u) = schemeSpans scheme ++ [.text u]) ∨
    ((¬ (underscoreRuns '/' 0 u).Pairwise fun opener closer => opener.fits closer = false) ∧
      ∃ kind, .openEmphasis kind ∈ inlineSpans refs (scheme ++ hiddenSlashes ++ u)) := by
  obtain ⟨pieces, heads, low, heq, hflat, hruns, hplaced⟩ := inlineSpans_hidden hscheme refs hu
  have hmarks : ∀ d ∈ heads.flatMap Delimiter.run, d.mark = '_' :=
    fun d hd => (hplaced.forall_run d hd).1
  have hstops : ∀ d ∈ heads.flatMap Delimiter.run, d.stop = none :=
    fun d hd => (hplaced.forall_run d hd).2.1
  have hpairs : HasPair (heads.flatMap Delimiter.run) ↔
      ¬ (underscoreRuns '/' 0 u).Pairwise fun opener closer => opener.fits closer = false := by
    rw [hplaced.hasPair_iff, ← hruns, List.pairwise_map]
    rfl
  by_cases hpair : HasPair (heads.flatMap Delimiter.run)
  · refine .inr ⟨hpairs.1 hpair, ?_⟩
    have hlength : (schemeSpans scheme ++ pieces.map Span.text).length = 3 + pieces.length := by
      rw [List.length_append, List.length_map]
      rfl
    obtain ⟨kind, hopens⟩ := exists_mem_resolveEmphasis hmarks hstops hpair
      (fun d hd => hlength.symm ▸ (hplaced.forall_run d hd).2.2.2) hplaced.pairwise_run
    rw [heq]
    exact ⟨kind, mem_joinTexts (fun _ => by simp) hopens⟩
  · refine .inl ⟨not_not.1 (mt hpairs.2 hpair), ?_⟩
    have hpieces : pieces ≠ [] := by
      rintro rfl
      exact hne hflat.symm
    have hjoin : joinTexts (schemeSpans scheme ++ pieces.map .text) =
        schemeSpans scheme ++ joinTexts (pieces.map .text) := rfl
    rw [heq, resolveEmphasis_of_not_hasPair hmarks hstops hpair, hjoin,
      joinTexts_map_text hpieces, hflat]

/-- Addresses are looked for in such a text, and none is found in the scheme. -/
theorem withAddresses_hidden :
    withAddresses (scheme ++ hiddenSlashes ++ u) (schemeSpans scheme ++ [.text u]) =
      schemeSpans scheme ++ linkAddresses (some (.literal ['/'])) u := by
  have hnone : ∀ scheme ∈ hiddenSchemes, BareLink.findAll (scheme ++ [':']) = [] := by
    decide +kernel
  have hscheme? : BareLink.mayHold (scheme ++ hiddenSlashes ++ u) = true := by
    rcases mem_hiddenSchemes.1 hscheme with rfl | rfl <;> rfl
  have hlead : linkAddresses none (scheme ++ [':']) = [.text (scheme ++ [':'])] := by
    rw [linkAddresses, hnone scheme hscheme]
  have hlinks : (linkSpans none (schemeSpans scheme ++ [.text u])).1 =
      linkAddresses none (scheme ++ [':']) ++ .literal ['/'] :: .literal ['/'] ::
        (linkAddresses (some (.literal ['/'])) u ++ []) := rfl
  rw [withAddresses, if_pos hscheme?, hlinks, hlead, List.append_nil]
  rfl

/-- The URL is read as it is written, or emphasis or a link is opened in it. -/
theorem readText_hidden_cases (refs : References)
    (hu : ∀ c ∈ u, c = '_' ∨ c ∉ inlineMarks ∧ c ≠ ':') (hslashed : BareLink.IsSlashed u)
    (hne : u ≠ []) :
    (StandsAsWritten u ∧
      readText refs (scheme ++ hiddenSlashes ++ u) = schemeSpans scheme ++ [.text u]) ∨
    (¬ StandsAsWritten u ∧ ∃ span ∈ readText refs (scheme ++ hiddenSlashes ++ u),
      (∃ kind, span = .openEmphasis kind) ∨ ∃ target, span = .openLink target) := by
  rcases inlineSpans_hidden_cases hscheme refs hu hne with ⟨hruns, heq⟩ | ⟨hruns, kind, hopens⟩
  · rw [readText, heq, withAddresses_hidden hscheme]
    by_cases hstart : ∀ f ∈ BareLink.findAll u, f.start = 0
    · exact .inl ⟨⟨hruns, hstart⟩, by rw [linkAddresses_literal hslashed hne hstart]⟩
    · refine .inr ⟨fun h => hstart h.2, ?_⟩
      simp only [not_forall] at hstart
      obtain ⟨f, hf, hlater⟩ := hstart
      obtain ⟨target, hlink⟩ :=
        exists_mem_linkAddresses hslashed ⟨f, hf, hlater⟩ (some (.literal ['/']))
      exact ⟨_, List.mem_append_right _ hlink, .inr ⟨target, rfl⟩⟩
  · refine .inr ⟨fun h => hruns h.1, ?_⟩
    rw [readText]
    exact ⟨_, mem_withAddresses (fun _ => by simp) _ hopens, .inl ⟨kind, rfl⟩⟩

end

end Docpress.Markdown
