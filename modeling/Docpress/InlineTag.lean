import Docpress.Text.Basic
/-!
Inline tags such as a link to another page, written as an at sign and a body between braces. A tag
lies on one line, its body is not empty, and it ends at the first closing brace.
-/

namespace Docpress.InlineTag

/-- A character that a tag's body may hold: anything but a closing brace or a line end. -/
def isBody (c : Char) : Bool :=
  c != '}' && c != '\r' && c != '\n'

/-- The tag that the text begins with, braces included. -/
def lead? : Text → Option Text
  | '{' :: '@' :: s =>
    match s.dropWhile isBody with
    | '}' :: _ =>
      let body := s.takeWhile isBody
      if body.isEmpty then none else some ('{' :: '@' :: body ++ ['}'])
    | _ => none
  | _ => none

/-- Change each tag of a text, from the left, and keep what lies between. -/
def mapTags (f : Text → Text) (s : Text) : Text :=
  Text.substitute (fun here => (lead? here).map fun tag => (f tag, tag.length - 1)) s

/-- A backslash before each underscore that does not follow one. -/
def guardUnderscores : Bool → Text → Text
  | _, [] => []
  | guarded, c :: s =>
    if c == '_' && !guarded then '\\' :: '_' :: guardUnderscores false s
    else c :: guardUnderscores (c == '\\') s

/-- Put a backslash before each underscore of each tag, unless one is there already. Markdown takes
    the backslash away again, and the underscore is then no emphasis. -/
def escapeUnderscores (s : Text) : Text :=
  mapTags (guardUnderscores false) s

/-- Turn the entities of double quotes back into quotes inside tags. -/
def decodeQuotes (s : Text) : Text :=
  mapTags (Text.replaceAll "&quot;".toList ['"']) s

end Docpress.InlineTag
