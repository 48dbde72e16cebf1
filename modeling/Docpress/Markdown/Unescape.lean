import Docpress.Html.Entity
import Docpress.Text.Punctuation
/-!
Backslash escapes and character references in the parts of a document that are not parsed further:
link targets, link titles and the info text of a fence.
-/

namespace Docpress.Markdown

/-- The text between an ampersand and the semicolon that closes a reference: its first character
    satisfies `first`, from one to 31 letters or digits follow. -/
def referenceBody? (first : Char → Bool) : Text → Option Text
  | [] => none
  | c :: s =>
    let name := s.takeWhile Char.isAlphanum
    if first c && !name.isEmpty && name.length ≤ 31 && (s.drop name.length).head? == some ';' then
      some (c :: name)
    else none

/-- What a reference with this body stands for, if anything. -/
def referenceText? (body : Text) : Option Text :=
  match Html.namedReference? body, body with
  | some text, _ => some text
  | none, '#' :: digits =>
    match Html.referenceNumber? 8 8 digits with
    | some n => if Html.isReferable n then some [Char.ofNat n] else none
    | none => none
  | none, _ => none

/-- Resolve the escape or reference that the text begins with. -/
def unescapeLead? : Text → Option (Text × Nat)
  | '\\' :: c :: _ => if isAsciiPunctuation c then some ([c], 1) else none
  | '&' :: s => do
    let body ← referenceBody? (fun c => c.isAlpha || c == '#') s
    let text := (referenceText? body).getD ('&' :: body ++ [';'])
    return (text, body.length + 1)
  | _ => none

/-- Resolve all backslash escapes and references of a text. -/
def unescape (s : Text) : Text :=
  Text.substitute unescapeLead? s

end Docpress.Markdown
