import Docpress.Text.Basic
/-!
Blank characters. Two sets are in use: the wide one of all white space and separator controls, and
the one that Markdown counts around delimiters and at the ends of a paragraph.
-/

namespace Docpress

/-- White space of every kind, the information separators included. -/
def isBlank (c : Char) : Bool :=
  let n := c.toNat
  (9 ≤ n && n ≤ 13) || (28 ≤ n && n ≤ 32) || n == 0x85 || n == 0xA0 || n == 0x1680 ||
    (0x2000 ≤ n && n ≤ 0x200A) || n == 0x2028 || n == 0x2029 || n == 0x202F || n == 0x205F ||
    n == 0x3000

/-- White space as Markdown sees it: the space separators and the ASCII format controls. -/
def isSpaceSeparator (c : Char) : Bool :=
  let n := c.toNat
  (9 ≤ n && n ≤ 13) || n == 32 || n == 0xA0 || n == 0x1680 || (0x2000 ≤ n && n ≤ 0x200A) ||
    n == 0x202F || n == 0x205F || n == 0x3000

/-- A space or a tab: the characters that indent a line. -/
def isIndent (c : Char) : Bool :=
  c == ' ' || c == '\t'

/-- The text without white space at its end. -/
def Text.trimBlankEnd (s : Text) : Text :=
  Text.trimEnd isBlank s

/-- The text without white space at either end. -/
def Text.trimBlank (s : Text) : Text :=
  Text.trim isBlank s

end Docpress
