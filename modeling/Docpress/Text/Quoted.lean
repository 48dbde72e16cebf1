import Docpress.Text.Printable
/-!
Quoted text, as messages show it: between single quotes, or double ones if that saves an escape,
with an escape for each character that cannot be shown.
-/

namespace Docpress.Text

/-- A lower-case hexadecimal digit. -/
def hexLower (n : Nat) : Char :=
  (Nat.digitChar (n % 16))

/-- The last `count` hexadecimal digits of a number. -/
def hexDigits (count n : Nat) : Text :=
  (List.range count).reverse.map fun place => hexLower (n / Nat.pow 16 place)

/-- A character between quotes. -/
def quotedChar (quote c : Char) : Text :=
  let n := c.toNat
  if c == quote || c == '\\' then ['\\', c]
  else if c == '\t' then "\\t".toList
  else if c == '\n' then "\\n".toList
  else if c == '\r' then "\\r".toList
  else if isPrintable c then [c]
  else if n < 0x100 then "\\x".toList ++ hexDigits 2 n
  else if n < 0x10000 then "\\u".toList ++ hexDigits 4 n
  else "\\U".toList ++ hexDigits 8 n

/-- The quotes that suit a text. -/
def quoteFor (s : Text) : Char :=
  if s.contains '\'' && !s.contains '"' then '"' else '\''

/-- A text between quotes. -/
def quoted (s : Text) : Text :=
  quoteFor s :: s.flatMap (quotedChar (quoteFor s)) ++ [quoteFor s]

end Docpress.Text
