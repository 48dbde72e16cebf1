import Docpress.Proofs.Markdown.Written
import Docpress.Renderer
/-!
Blocks of code. Each divides its document in two, is written with the highlighter's answer to it, and
has the class of source code on the tag around it, whatever tags are spelled out in the code or in
the answer.
-/

namespace Docpress

open Text Markdown Highlight

namespace Markdown

/-! ### Blocks and answers -/

/-- A block of code in a document. -/
inductive CodeBlock where
  | fenced (info content : Text)
  | indented (content : Text)

/-- The event of a block of code. -/
def CodeBlock.event : CodeBlock → Event (List Span)
  | .fenced info content => .fence info content
  | .indented content => .code content

/-- A highlighter's answer to a block, given its answers to the fences from there on. Indented code
    is not given to a highlighter. -/
def CodeBlock.answer (answers : List (Option Text)) : CodeBlock → Option Text
  | .fenced _ _ => answers.head?.join
  | .indented _ => none

/-- A block of code as HTML with a highlighter's answer to it, before its tag is marked. -/
def CodeBlock.html (answer : Option Text) : CodeBlock → Text
  | .fenced info content => fenceHtml info content (answer.getD [])
  | .indented content => codeHtml content

/-- The replies that fences are written with: no answer is an empty reply. -/
def repliesOf (answers : List (Option Text)) : List Text :=
  answers.map (·.getD [])

/-! ### The place of a block -/

/-- Before a block of code a line ends as it does at the end of a document. -/
theorem endsLine_append_codeBlock (e : Element) (block : CodeBlock)
    (rest after : List (Event (List Span))) :
    endsLine e (rest ++ block.event :: after) = endsLine e rest := by
  cases rest with
  | nil => cases block <;> rfl
  | cons event rest => cases event <;> rfl

/-- A block of code divides a document: what stands before it is written as if the document ended
    there, and from the block on writing goes on with the answers that are left. -/
theorem writeEvents_append_codeBlock (breaks hidden : Bool) (answers : List (Option Text))
    (before : List (Event (List Span))) (block : CodeBlock) (after : List (Event (List Span))) :
    writeEvents breaks hidden (repliesOf answers) (before ++ block.event :: after) =
      writeEvents breaks hidden (repliesOf answers) before ++
        writeEvents breaks false (repliesOf (answers.drop (fences before).length))
          (block.event :: after) := by
  induction before generalizing hidden answers with
  | nil => cases block <;> rfl
  | cons event before ih =>
    cases event with
    | fence info content =>
      have hdrop : (repliesOf answers).drop 1 = repliesOf (answers.drop 1) := List.map_drop.symm
      simp only [List.cons_append, writeEvents, hdrop, ih, fences, List.length_cons, List.drop_drop,
        Nat.add_comm, List.append_assoc]
    | _ =>
      simp only [List.cons_append, writeEvents, endsLine_append_codeBlock, ih, fences,
        List.append_assoc]

/-- What follows a block of code is written as a document of its own. -/
theorem writeEvents_codeBlock (breaks hidden : Bool) (answers : List (Option Text))
    (block : CodeBlock) (after : List (Event (List Span))) :
    writeEvents breaks hidden (repliesOf answers) (block.event :: after) =
      markSource (block.html (block.answer answers)) ++
        writeDocument breaks (repliesOf (answers.drop (fences [block.event]).length)) after := by
  cases block with
  | fenced info content => cases answers <;> rfl
  | indented content => rfl

/-! ### The tag of a block -/

/-- Unless the answer is an element of its own, there is a plain tag around the block. -/
theorem CodeBlock.exists_html_eq {answer : Option Text} (block : CodeBlock)
    (h : ∀ reply ∈ answer, startsWith reply "<pre".toList = false) :
    ∃ rest, block.html answer = "<pre>".toList ++ rest := by
  cases block with
  | indented content => exact ⟨_, rfl⟩
  | fenced info content =>
    have hreply : startsWith (answer.getD []) "<pre".toList = false := by
      cases answer with
      | none => rfl
      | some reply => exact h reply rfl
    exact ⟨_, fenceHtml_of_not_startsWith info content hreply⟩

/-- An answer that is an element of its own is the whole of a fence. -/
theorem CodeBlock.html_of_startsWith {block : CodeBlock} {answers : List (Option Text)} {reply : Text}
    (hanswer : block.answer answers = some reply) (h : startsWith reply "<pre".toList = true) :
    block.html (some reply) = reply ++ ['\n'] := by
  cases block with
  | indented content => cases hanswer
  | fenced info content => exact fenceHtml_of_startsWith info content h

/-- A block of code is written between what stands before and after it, and what is written is the
    block as it would be by default with its own tag marked. Unless the answer to it is an element of
    its own, that tag is the one which the default begins with; if the answer begins with a plain
    tag, it is this one. Everything after the tag is as it was. -/
theorem writeDocument_marks_own_tag (breaks : Bool) (answers : List (Option Text))
    (before after : List (Event (List Span))) (block : CodeBlock) :
    let left := answers.drop (fences before).length
    let answer := block.answer left
    let written := markSource (block.html answer)
    writeDocument breaks (repliesOf answers) (before ++ block.event :: after) =
        writeDocument breaks (repliesOf answers) before ++ (written ++
          writeDocument breaks (repliesOf (left.drop (fences [block.event]).length)) after) ∧
      ((∀ reply ∈ answer, startsWith reply "<pre".toList = false) →
        ∃ rest, block.html answer = "<pre>".toList ++ rest ∧ written = sourceTag ++ rest) ∧
      ∀ rest, answer = some ("<pre>".toList ++ rest) → written = sourceTag ++ rest ++ ['\n'] := by
  intro left answer written
  refine ⟨?_, fun h => ?_, fun rest h => ?_⟩
  · rw [writeDocument, writeEvents_append_codeBlock, writeEvents_codeBlock]
    rfl
  · obtain ⟨rest, hrest⟩ := block.exists_html_eq h
    exact ⟨rest, hrest, by rw [← markSource_pre, ← hrest]⟩
  · have hhtml : block.html answer = "<pre>".toList ++ (rest ++ ['\n']) := by
      rw [h, CodeBlock.html_of_startsWith h rfl, List.append_assoc]
    rw [List.append_assoc, ← markSource_pre, ← hhtml]

/-- A fence whose answer spells out a second tag, between blocks whose code spells one out. -/
theorem writeDocument_marks_own_tag_nested :
    let code : Event (List Span) := .code "<pre>".toList
    let answer := "<pre><i><pre></i></pre>".toList
    let plain := "<pre class=\"source\"><code>&lt;pre&gt;</code></pre>\n".toList
    writeDocument false (repliesOf [some answer]) [code, .fence [] [], code] =
      plain ++ ("<pre class=\"source\"><i><pre></i></pre>\n".toList ++ plain) := by
  intro code answer plain
  have hcode : codeHtml "<pre>".toList =
      "<pre>".toList ++ "<code>&lt;pre&gt;</code></pre>\n".toList := by
    decide
  have hmarked : sourceTag ++ "<code>&lt;pre&gt;</code></pre>\n".toList = plain := by
    decide
  have hplain (answers : List (Option Text)) :
      writeDocument false (repliesOf answers) [code] = plain := by
    obtain ⟨hparts, hown, -⟩ :=
      writeDocument_marks_own_tag false answers [] [] (.indented "<pre>".toList)
    obtain ⟨rest, hrest, hwritten⟩ := hown nofun
    obtain rfl := List.append_cancel_left (hcode.symm.trans hrest)
    rw [hwritten, hmarked] at hparts
    exact hparts.trans (List.append_nil plain)
  have hanswer : sourceTag ++ "<i><pre></i></pre>".toList ++ ['\n'] =
      "<pre class=\"source\"><i><pre></i></pre>\n".toList := by
    decide
  obtain ⟨hparts, -, hwhole⟩ :=
    writeDocument_marks_own_tag false [some answer] [code] [code] (.fenced [] [])
  rw [hwhole "<i><pre></i></pre>".toList rfl, hplain, hplain, hanswer] at hparts
  exact hparts

/-- An answer whose own tag is not plain keeps that tag. If there is a plain one further on, the
    first of them is marked instead, and otherwise none. -/
theorem markSource_fenceHtml_of_ne (info content : Text) {c : Char} (hc : c ≠ '>') (rest : Text) :
    let html := fenceHtml info content ("<pre".toList ++ c :: rest)
    (hasPart "<pre>".toList html = false ∧ markSource html = html) ∨
      ∃ before after, before ≠ [] ∧ hasPart "<pre>".toList before = false ∧
        html = before ++ ("<pre>".toList ++ after) ∧
        markSource html = before ++ (sourceTag ++ after) := by
  intro html
  have hhtml : html = "<pre".toList ++ c :: (rest ++ ['\n']) :=
    fenceHtml_of_startsWith info content rfl
  refine (replaceFirst_cases '<' "pre>".toList sourceTag html).imp id ?_
  rintro ⟨before, after, hparts, hfirst, hmarked⟩
  refine ⟨before, after, ?_, hfirst, hparts, hmarked⟩
  rintro rfl
  have hplain : "<pre".toList ++ c :: (rest ++ ['\n']) = "<pre".toList ++ '>' :: after :=
    hhtml.symm.trans hparts
  exact hc (List.cons.inj (List.append_cancel_left hplain)).1

example : markSource (fenceHtml [] [] "<pre id=\"a\"><pre></pre></pre>".toList) =
    "<pre id=\"a\"><pre class=\"source\"></pre></pre>\n".toList := by
  decide

end Markdown

/-! ### The answers of a highlighter -/

namespace Highlight

/-- A highlighter's answers to blocks of code, in order, or the failure that ended it. -/
def answersTo (b : Backend) :
    LoadState → List (Text × Text) → Except Failure (List (Option Text))
  | _, [] => .ok []
  | s, (language, code) :: rest =>
    let answer := s.ask (fun _ => b.load) language (b.reply code language)
    match answer.result with
    | .error e => .error e
    | .ok html => (answersTo b answer.state rest).map (html :: ·)

theorem result_highlightAll (b : Backend) (s : LoadState) (blocks : List (Text × Text)) :
    (highlightAll b s blocks).result = (answersTo b s blocks).map repliesOf := by
  induction blocks generalizing s with
  | nil => rfl
  | cons block rest ih =>
    obtain ⟨language, code⟩ := block
    simp only [highlightAll, answersTo]
    generalize s.ask (fun _ => b.load) language (b.reply code language) = answer
    cases answer.result with
    | error e => rfl
    | ok html =>
      dsimp only
      rw [ih]
      cases answersTo b answer.state rest <;> rfl

end Highlight

/-- The fences of a page are written with the highlighter's answers to them. -/
theorem Renderer.html_engineWith (r : Renderer) (b : Backend) (state : LoadState) (text : Text) :
    let events := r.config.document text
    (r.engineWith (some b) state text).html =
      (answersTo b state (fences events)).map fun answers =>
        writeDocument r.config.hardwrap (repliesOf answers) events := by
  intro events
  simp only [Renderer.engineWith, result_highlightAll]
  cases answersTo b state (fences events) <;> rfl

end Docpress
