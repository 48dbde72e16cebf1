import Docpress.Text.Basic
/-!
Writing text as HTML: what stands for the characters that HTML gives a meaning.
-/

namespace Docpress.Html

/-- The entity of a character that may not stand in running text or in a quoted attribute. -/
def escapeChar : Char → Text
  | '&' => "&amp;".toList
  | '<' => "&lt;".toList
  | '>' => "&gt;".toList
  | '"' => "&quot;".toList
  | c => [c]

/-- Escape text for use between tags and in attributes. -/
def escape (s : Text) : Text :=
  s.flatMap escapeChar

/-- The entity of a character that may not stand in a code block; ampersands stay as they are. -/
def escapeCodeChar : Char → Text
  | '<' => "&lt;".toList
  | '>' => "&gt;".toList
  | '"' => "&quot;".toList
  | '\'' => "&#39;".toList
  | c => [c]

/-- Escape text that is embedded as it is in a code block, one kind of character after another. -/
def escapeCode (s : Text) : Text :=
  let s := Text.replaceAll ['<'] "&lt;".toList s
  let s := Text.replaceAll ['>'] "&gt;".toList s
  let s := Text.replaceAll ['"'] "&quot;".toList s
  Text.replaceAll ['\''] "&#39;".toList s

/-- Turn the numeric entities of apostrophes back into apostrophes. -/
def decodeApostrophes (s : Text) : Text :=
  Text.replaceAll "&#39;".toList ['\''] s

end Docpress.Html
