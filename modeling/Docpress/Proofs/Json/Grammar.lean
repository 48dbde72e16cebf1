import Docpress.Data.Value
import Docpress.Text.Digit
import Docpress.Yaml.Cursor
import Docpress.Yaml.Token
/-!
JSON as it is written: a document with its gaps, escapes and forms of numbers, the text that it is
and the value that it stands for. Not every JSON document is a YAML document with the same value;
what YAML reads otherwise is told from how the document is written.
-/

namespace Docpress.Json

open Yaml (isAllowed isBreak)

/-! ### Gaps -/

/-- White space between tokens. -/
inductive Blank where
  | space
  | tab
  | lineFeed
  | carriageReturn
deriving DecidableEq, Repr

/-- The character of a blank. -/
def Blank.char : Blank → Char
  | .space => ' '
  | .tab => '\t'
  | .lineFeed => '\n'
  | .carriageReturn => '\r'

/-- What stands between two tokens. -/
abbrev Gap := List Blank

/-- The text of a gap. -/
def Gap.text (gap : Gap) : Text :=
  gap.map Blank.char

/-! ### Strings -/

/-- A hexadecimal digit. -/
structure HexDigit where
  char : Char
  isHex : (Text.hexDigit? char).isSome = true

/-- Four hexadecimal digits. -/
structure Quad where
  first : HexDigit
  second : HexDigit
  third : HexDigit
  fourth : HexDigit

/-- The text of four digits. -/
def Quad.text (q : Quad) : Text :=
  [q.first.char, q.second.char, q.third.char, q.fourth.char]

/-- The number that four digits write. -/
def Quad.code (q : Quad) : Nat :=
  Text.hexValue q.text

/-- The escapes of one letter. -/
inductive Letter where
  | quote
  | backslash
  | slash
  | backspace
  | formFeed
  | lineFeed
  | carriageReturn
  | tab
deriving DecidableEq, Repr

/-- The letter after the backslash. -/
def Letter.char : Letter → Char
  | .quote => '"'
  | .backslash => '\\'
  | .slash => '/'
  | .backspace => 'b'
  | .formFeed => 'f'
  | .lineFeed => 'n'
  | .carriageReturn => 'r'
  | .tab => 't'

/-- The character that an escape of one letter stands for. -/
def Letter.value : Letter → Char
  | .quote => '"'
  | .backslash => '\\'
  | .slash => '/'
  | .backspace => Char.ofNat 0x08
  | .formFeed => Char.ofNat 0x0C
  | .lineFeed => '\n'
  | .carriageReturn => '\r'
  | .tab => '\t'

/-- A character of a string: itself, an escape of one letter, or its code, which is that of a
    surrogate pair for a character beyond the first 65536. -/
inductive StringChar where
  | plain (c : Char) (isPlain : 0x20 ≤ c.toNat ∧ c ≠ '"' ∧ c ≠ '\\')
  | letter (l : Letter)
  | code (q : Quad) (isWhole : isSurrogate q.code = false)
  | pair (high low : Quad) (isHigh : 0xD800 ≤ high.code ∧ high.code < 0xDC00)
      (isLow : 0xDC00 ≤ low.code ∧ low.code < 0xE000)

/-- How a character is written. -/
def StringChar.text : StringChar → Text
  | .plain c _ => [c]
  | .letter l => ['\\', l.char]
  | .code q _ => '\\' :: 'u' :: q.text
  | .pair high low _ _ => '\\' :: 'u' :: high.text ++ '\\' :: 'u' :: low.text

/-- The character that is written. -/
def StringChar.value : StringChar → Char
  | .plain c _ => c
  | .letter l => l.value
  | .code q _ => Char.ofNat q.code
  | .pair high low _ _ =>
    Char.ofNat (0x10000 + (high.code - 0xD800) * 0x400 + (low.code - 0xDC00))

/-- YAML reads the character in the same way: it may stand in a document, it ends no line, and it is
    not written as a pair. -/
def StringChar.isYaml : StringChar → Bool
  | .plain c _ => isAllowed c && !isBreak c
  | .letter _ => true
  | .code _ _ => true
  | .pair _ _ _ _ => false

/-- A string as it is written, in its quotes. -/
def quotedText (s : List StringChar) : Text :=
  '"' :: s.flatMap StringChar.text ++ ['"']

/-! ### Numbers -/

/-- One digit or more. -/
structure Digits where
  chars : Text
  isDigit : ∀ c ∈ chars, c.isDigit = true
  ne_nil : chars ≠ []

/-- An exponent. -/
structure Exponent where
  capital : Bool
  negative : Option Bool
  digits : Digits

/-- A number. Only zero itself begins with a zero. -/
structure Number where
  negative : Bool
  whole : Digits
  isProper : whole.chars.head? = some '0' → whole.chars = ['0']
  fraction : Option Digits
  exponent : Option Exponent

/-- A sign as it is written. -/
def signText : Option Bool → Text
  | none => []
  | some true => ['-']
  | some false => ['+']

/-- An exponent as it is written. -/
def Exponent.text (e : Exponent) : Text :=
  (if e.capital then 'E' else 'e') :: signText e.negative ++ e.digits.chars

/-- The power of ten that an exponent stands for. -/
def Exponent.value (e : Exponent) : Int :=
  if e.negative = some true then -Text.digitsValue e.digits.chars
  else Text.digitsValue e.digits.chars

namespace Number

/-- The digits after the point. -/
def fractionDigits (n : Number) : Text :=
  (n.fraction.map Digits.chars).getD []

/-- A number as it is written, without its sign. -/
def body (n : Number) : Text :=
  n.whole.chars ++ (n.fraction.map fun d => '.' :: d.chars).getD [] ++
    (n.exponent.map Exponent.text).getD []

/-- A number as it is written. -/
def text (n : Number) : Text :=
  if n.negative then '-' :: n.body else n.body

/-- The value of a number: a whole number if it has neither a fraction nor an exponent. -/
def value (n : Number) : Value :=
  if n.fraction.isNone && n.exponent.isNone then
    .whole (if n.negative then -Text.digitsValue n.whole.chars
      else Text.digitsValue n.whole.chars)
  else
    .real (.ofDecimal n.negative (Text.digitsValue (n.whole.chars ++ n.fractionDigits))
      ((n.exponent.map Exponent.value).getD 0 - n.fractionDigits.length))

/-- YAML reads the number in the same way: an exponent has a sign and follows a fraction, and a
    whole number is not too long. -/
def isYaml (n : Number) : Bool :=
  match n.fraction, n.exponent with
  | none, none => n.whole.chars.length ≤ longestDecimal
  | _, none => true
  | some _, some e => e.negative.isSome
  | none, some _ => false

end Number

/-! ### Values -/

/-- A value without parts. -/
inductive Leaf where
  | null
  | flag (b : Bool)
  | number (n : Number)
  | string (s : List StringChar)

/-- A leaf as it is written. -/
def Leaf.text : Leaf → Text
  | .null => "null".toList
  | .flag b => if b then "true".toList else "false".toList
  | .number n => n.text
  | .string s => quotedText s

/-- The value of a leaf. -/
def Leaf.value : Leaf → Value
  | .null => .null
  | .flag b => .flag b
  | .number n => n.value
  | .string s => .text (s.map StringChar.value)

/-- YAML reads the leaf in the same way. -/
def Leaf.isYaml : Leaf → Bool
  | .number n => n.isYaml
  | .string s => s.all StringChar.isYaml
  | _ => true

/-- The name of a member of an object, up to its colon. -/
structure Name where
  before : Gap
  chars : List StringChar
  after : Gap

/-- YAML reads the name in the same way: it is in one line with its colon, and not too far before
    it. -/
def Name.isYaml (name : Name) : Bool :=
  !name.before.contains .tab && name.chars.all StringChar.isYaml &&
    name.after.all (· == .space) && (quotedText name.chars).length + name.after.length ≤ 1024

mutual

/-- A value as it is written, without the gaps around it. -/
inductive Written where
  | leaf (l : Leaf)
  | emptyArray (gap : Gap)
  | array (items : Items)
  | emptyObject (gap : Gap)
  | object (members : Members)

/-- The items of an array, with the gaps around them. -/
inductive Items where
  | one (before : Gap) (item : Written) (after : Gap)
  | more (before : Gap) (item : Written) (after : Gap) (rest : Items)

/-- The members of an object. -/
inductive Members where
  | one (name : Name) (before : Gap) (value : Written) (after : Gap)
  | more (name : Name) (before : Gap) (value : Written) (after : Gap) (rest : Members)

end

mutual

/-- The text of a value if gaps are written as `g` says. -/
def Written.write (g : Gap → Text) : Written → Text
  | .leaf l => l.text
  | .emptyArray gap => '[' :: g gap ++ [']']
  | .array items => '[' :: items.write g ++ [']']
  | .emptyObject gap => '\x7b' :: g gap ++ ['\x7d']
  | .object members => '\x7b' :: members.write g ++ ['\x7d']

/-- The text of items. -/
def Items.write (g : Gap → Text) : Items → Text
  | .one before item after => g before ++ item.write g ++ g after
  | .more before item after rest =>
    g before ++ item.write g ++ g after ++ ',' :: rest.write g

/-- The text of members. -/
def Members.write (g : Gap → Text) : Members → Text
  | .one name before value after =>
    g name.before ++ quotedText name.chars ++ g name.after ++ ':' ::
      (g before ++ value.write g ++ g after)
  | .more name before value after rest =>
    g name.before ++ quotedText name.chars ++ g name.after ++ ':' ::
      (g before ++ value.write g ++ g after ++ ',' :: rest.write g)

end

mutual

/-- The value that is written. -/
def Written.value : Written → Value
  | .leaf l => l.value
  | .emptyArray _ => .list []
  | .array items => .list items.values
  | .emptyObject _ => .mapping []
  | .object members => .mapping members.entries

/-- The values of items. -/
def Items.values : Items → List Value
  | .one _ item _ => [item.value]
  | .more _ item _ rest => item.value :: rest.values

/-- The names and the values of members. -/
def Members.entries : Members → List (Value × Value)
  | .one name _ value _ => [(.text (name.chars.map StringChar.value), value.value)]
  | .more name _ value _ rest =>
    (.text (name.chars.map StringChar.value), value.value) :: rest.entries

end

/-- YAML knows no tabs between tokens. -/
def Gap.isYaml (gap : Gap) : Bool :=
  !gap.contains .tab

mutual

/-- YAML reads the value in the same way. -/
def Written.isYaml : Written → Bool
  | .leaf l => l.isYaml
  | .emptyArray gap => gap.isYaml
  | .array items => items.isYaml
  | .emptyObject gap => gap.isYaml
  | .object members => members.isYaml

/-- YAML reads the items in the same way. -/
def Items.isYaml : Items → Bool
  | .one before item after => before.isYaml && item.isYaml && after.isYaml
  | .more before item after rest =>
    before.isYaml && item.isYaml && after.isYaml && rest.isYaml

/-- YAML reads the members in the same way. -/
def Members.isYaml : Members → Bool
  | .one name before value after =>
    name.isYaml && before.isYaml && value.isYaml && after.isYaml
  | .more name before value after rest =>
    name.isYaml && before.isYaml && value.isYaml && after.isYaml && rest.isYaml

end

/-- A document: a value and the gaps around it. -/
structure Document where
  before : Gap
  root : Written
  after : Gap

namespace Document

/-- The text of a document. -/
def text (d : Document) : Text :=
  d.before.text ++ d.root.write Gap.text ++ d.after.text

/-- The value of a document. -/
def value (d : Document) : Value :=
  d.root.value

/-- YAML reads the document in the same way. -/
def isYaml (d : Document) : Bool :=
  d.before.isYaml && d.root.isYaml && d.after.isYaml

end Document

end Docpress.Json
