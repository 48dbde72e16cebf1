import Docpress.Command.Run
import Docpress.Proofs.FileTree.Write
/-!
What the parts of a command do, one by one. A part that ends well hands its result and the session
to the next one; a part that fails ends the command, and the session stays as it is then.
-/

namespace Docpress

/-- A file can be written where the path says, with the directories that it needs. -/
def FileTree.CanHold (t : FileTree) (p : Path) : Prop :=
  ∃ made s stored, t.ensureDirectories p.parent = .ok made ∧ made.writeText p s = .ok stored

/-- Whether a file can be written does not depend on its text, and the text can be read again. -/
theorem FileTree.CanHold.store {t : FileTree} {p : Path} (h : t.CanHold p) (s : Text) :
    ∃ made stored, t.ensureDirectories p.parent = .ok made ∧ made.writeText p s = .ok stored ∧
      stored.readBytes p = .ok (Utf8.encode s) := by
  obtain ⟨made, other, stored, hmade, hstored⟩ := h
  obtain ⟨stored', hstored'⟩ : ∃ stored', made.writeText p s = .ok stored' := by
    unfold FileTree.writeText FileTree.write at hstored ⊢
    split at hstored
    · cases hstored
    · cases hstored
    · split at hstored
      · cases hstored
      · rename_i hfree
        rw [if_neg hfree]
        exact ⟨_, rfl⟩
  exact ⟨made, stored', hmade, hstored', (write_grown hstored').2⟩

instance (t : FileTree) (p : Path) : Decidable (t.CanHold p) :=
  match hmade : t.ensureDirectories p.parent with
  | .error _ => .isFalse fun ⟨_, _, _, h, _⟩ => by simp [hmade] at h
  | .ok made =>
    match hstored : made.writeText p [] with
    | .ok stored => .isTrue ⟨made, [], stored, hmade, hstored⟩
    | .error _ => .isFalse fun h => by
      obtain ⟨_, _, hmade', hstored', -⟩ := h.store []
      cases hmade.symm.trans hmade'
      cases hstored.symm.trans hstored'

/-- A path that a file can be written to holds no character that no name may hold. -/
theorem FileTree.CanHold.hasZero {t : FileTree} {p : Path} (h : t.CanHold p) :
    p.hasZero = false := by
  obtain ⟨made, s, stored, -, hstored⟩ := h
  unfold FileTree.writeText FileTree.write at hstored
  split at hstored
  · cases hstored
  · cases hstored
  · rename_i hparent
    exact (FileTree.locateParent_eq_ok hparent).1

namespace Command

open Highlight Console

variable {α β : Type} {s s' : Session}

/-! ### Parts in a row -/

theorem run_bind_ok {first : Task α} {a : α} (h : first.run.run s = (.ok a, s'))
    (next : α → Task β) : (first >>= next).run.run s = (next a).run.run s' := by
  have hbind : (first >>= next).run.run s =
      (ExceptT.bindCont next (first.run.run s).1).run (first.run.run s).2 := rfl
  rw [hbind, h]
  rfl

theorem run_bind_error {first : Task α} {stop : Stop} (h : first.run.run s = (.error stop, s'))
    (next : α → Task β) : (first >>= next).run.run s = (.error stop, s') := by
  have hbind : (first >>= next).run.run s =
      (ExceptT.bindCont next (first.run.run s).1).run (first.run.run s).2 := rfl
  rw [hbind, h]
  rfl

/-- A command ends in its first part, or it goes on with what that has given. -/
theorem run_bind_cases (first : Task α) (next : α → Task β) (s : Session) :
    (∃ stop s', first.run.run s = (.error stop, s') ∧
      (first >>= next).run.run s = (.error stop, s')) ∨
    ∃ a s', first.run.run s = (.ok a, s') ∧
      (first >>= next).run.run s = (next a).run.run s' := by
  cases hfirst : first.run.run s with
  | mk result s' =>
    cases result with
    | ok a => exact .inr ⟨a, s', rfl, run_bind_ok hfirst next⟩
    | error stop => exact .inl ⟨stop, s', rfl, run_bind_error hfirst next⟩

/-- A command that ends well has gone through both of its parts. -/
theorem exists_of_run_bind {first : Task α} {next : α → Task β} {b : β}
    (h : (first >>= next).run.run s = (.ok b, s')) :
    ∃ a s₁, first.run.run s = (.ok a, s₁) ∧ (next a).run.run s₁ = (.ok b, s') := by
  rcases run_bind_cases first next s with ⟨stop, s₁, -, herror⟩ | ⟨a, s₁, hfirst, hnext⟩
  · cases h.symm.trans herror
  · exact ⟨a, s₁, hfirst, hnext.symm.trans h⟩

/-! ### The parts -/

/-- Two sessions have the same files and the same highlighters. -/
structure SameWorld (s s' : Session) : Prop where
  tree : s'.tree = s.tree
  installed : s'.installed = s.installed

theorem run_get : (get : Task Session).run.run s = (.ok s, s) := rfl

theorem run_readConfig {path : Text} {config : Config}
    (h : loadConfig s.tree (Path.ofText path) = .ok config) :
    (readConfig path).run.run s = (.ok config, s) := by
  rw [readConfig, run_bind_ok run_get, h]
  rfl

/-- A configuration that was read is the one that is loaded, and reading it changes nothing. -/
theorem loadConfig_of_run {path : Text} {config : Config}
    (h : (readConfig path).run.run s = (.ok config, s')) :
    loadConfig s.tree (Path.ofText path) = .ok config ∧ s' = s := by
  cases hload : loadConfig s.tree (Path.ofText path) with
  | ok loaded =>
    rw [run_readConfig hload] at h
    cases h
    exact ⟨rfl, rfl⟩
  | error e =>
    rw [readConfig, run_bind_ok run_get, hload] at h
    cases h

theorem run_readSource {source text : Text} (hsource : source ≠ standardInput)
    (h : s.tree.readText (Path.ofText source) = .ok text) :
    (readSource source).run.run s = (.ok text, s) := by
  rw [readSource, run_bind_ok run_get, if_neg (by simpa using hsource), h]
  rfl

theorem run_printMarkup_ok {markup shown : Text} (h : Console.printed markup = .ok shown) :
    (printMarkup markup).run.run s = (.ok (), { s with printed := s.printed ++ shown }) := by
  unfold printMarkup
  rw [h]
  rfl

theorem run_printMarkup_error {markup : Text} {e : MarkupError}
    (h : Console.printed markup = .error e) :
    (printMarkup markup).run.run s = (.error (.crash (.markup e)), s) := by
  unfold printMarkup
  rw [h]
  rfl

/-- Printing leaves the files alone, also if it fails. -/
theorem tree_printMarkup (markup : Text) :
    ((printMarkup markup).run.run s).2.tree = s.tree := by
  cases h : Console.printed markup with
  | ok shown => rw [run_printMarkup_ok h]
  | error e => rw [run_printMarkup_error h]

/-- The message that a parser is not known is markup that can be shown. -/
def CanAnnounce (parser : Text) : Prop :=
  ∃ shown, Console.printed (disabledMessage parser) = .ok shown

/-- Only a parser that is not known is spoken of on the console. -/
theorem run_makeRenderer (config : MarkdownConfig) :
    (makeRenderer config).run.run s =
      (do
        if (resolveParser config.parser).isNone then printMarkup (disabledMessage config.parser)
        return (Renderer.ofConfig config).1 : Task (Option Renderer)).run.run
          { s with logs := s.logs ++ (Renderer.ofConfig config).2 } := by
  have hnone : (resolveParser config.parser).isNone = (Renderer.ofConfig config).1.isNone := by
    rw [Renderer.fst_ofConfig, Option.isNone_map]
  rw [hnone]
  rfl

/-- Making a renderer ends well if the parser is known or its name can be shown. -/
theorem run_makeRenderer_ok {config : MarkdownConfig}
    (h : (resolveParser config.parser).isSome = true ∨ CanAnnounce config.parser) :
    ∃ s', (makeRenderer config).run.run s = (.ok (Renderer.ofConfig config).1, s') ∧
      SameWorld s s' := by
  rw [run_makeRenderer]
  cases hparser : resolveParser config.parser with
  | some parser =>
    rw [if_neg (by simp)]
    exact ⟨_, rfl, rfl, rfl⟩
  | none =>
    obtain ⟨shown, hshown⟩ := h.resolve_left (by simp [hparser])
    rw [if_pos (by simp), run_bind_ok (run_printMarkup_ok hshown)]
    exact ⟨_, rfl, rfl, rfl⟩

/-- A name that is not known and cannot be shown ends the command at once. -/
theorem run_makeRenderer_error {config : MarkdownConfig}
    (h : ¬ ((resolveParser config.parser).isSome = true ∨ CanAnnounce config.parser)) :
    ∃ e s', (makeRenderer config).run.run s = (.error (.crash (.markup e)), s') ∧
      SameWorld s s' := by
  obtain ⟨hparser, hannounce⟩ := not_or.1 h
  rw [run_makeRenderer, if_pos (by simpa using hparser)]
  cases hshown : Console.printed (disabledMessage config.parser) with
  | ok shown => exact absurd ⟨shown, hshown⟩ hannounce
  | error e =>
    rw [run_bind_error (run_printMarkup_error hshown)]
    exact ⟨e, _, rfl, rfl, rfl⟩

theorem run_orCrash_ok {ε : Type} {toCrash : ε → Crash} {a : α} :
    (orCrash toCrash (.ok a)).run.run s = (.ok a, s) := rfl

theorem run_renderText {r : Option Renderer} {text html : Text}
    (h : (renderMarkdown r s.installed {} text).html = .ok html) :
    ∃ s', (renderText r text).run.run s = (.ok html, s') ∧ SameWorld s s' := by
  rw [renderText, run_bind_ok run_get]
  dsimp only
  rw [h]
  exact ⟨_, rfl, rfl, rfl⟩

theorem run_writeOutput {output : Path} {text : Text} {made stored : FileTree}
    (hmade : s.tree.ensureDirectories output.parent = .ok made)
    (hstored : made.writeText output text = .ok stored) :
    (writeOutput output text).run.run s = (.ok (), { s with tree := stored }) := by
  have hset : ∀ (s : Session) (t : FileTree),
      (setTree t).run.run s = (.ok (), { s with tree := t }) := fun _ _ => rfl
  rw [writeOutput, run_bind_ok run_get, hmade, run_bind_ok run_orCrash_ok, run_bind_ok (hset _ _),
    run_bind_ok run_get, hstored, run_bind_ok run_orCrash_ok, hset]

/-- HTML for a file is stored in it. If it is no Unicode, that ends the command afterwards. -/
theorem run_deliverHtml {unencodable : Bool} {output : Path} {html : Text} {made stored : FileTree}
    (hmade : s.tree.ensureDirectories output.parent = .ok made)
    (hstored : made.writeText output (storedHtml unencodable html) = .ok stored) :
    (deliverHtml unencodable (some output) html).run.run s =
      (if unencodable then .error (.crash .unencodable) else .ok (),
        { s with tree := stored }) := by
  rw [deliverHtml, run_bind_ok (run_writeOutput hmade hstored)]
  cases unencodable <;> rfl

end Command

end Docpress
