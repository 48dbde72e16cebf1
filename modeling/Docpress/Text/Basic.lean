/-!
Text as a list of characters, with the searches and replacements that the rest of the library is
built from. Every function here recurses on the text itself.
-/

namespace Docpress

/-- A text is the list of its characters. -/
abbrev Text := List Char

namespace Text

/-- What follows `lead` in a text that begins with it. -/
def dropLead? : Text → Text → Option Text
  | [], s => some s
  | _ :: _, [] => none
  | p :: ps, c :: s => if p == c then dropLead? ps s else none

/-- A text begins with `lead`. -/
def startsWith (s lead : Text) : Bool :=
  (dropLead? lead s).isSome

/-- A text ends with `tail`. -/
def endsWith (s tail : Text) : Bool :=
  startsWith s.reverse tail.reverse

/-- `part` occurs somewhere in the text. -/
def hasPart (part : Text) : Text → Bool
  | [] => part.isEmpty
  | c :: s => startsWith (c :: s) part || hasPart part s

/-- The text before the first occurrence of `part` and the text after it. -/
def splitFirst? (part : Text) : Text → Option (Text × Text)
  | [] => if part.isEmpty then some ([], []) else none
  | c :: s =>
    match dropLead? part (c :: s) with
    | some rest => some ([], rest)
    | none => (splitFirst? part s).map fun (before, rest) => (c :: before, rest)

/-- The text without the characters at its start that satisfy `p`. -/
def trimStart (p : Char → Bool) (s : Text) : Text :=
  s.dropWhile p

/-- The text without the characters at its end that satisfy `p`. -/
def trimEnd (p : Char → Bool) (s : Text) : Text :=
  (s.reverse.dropWhile p).reverse

/-- The text without the characters at either end that satisfy `p`. -/
def trim (p : Char → Bool) (s : Text) : Text :=
  trimEnd p (trimStart p s)

/-- The pieces between the characters that satisfy `p`, empty ones included. -/
def splitBy (p : Char → Bool) : Text → List Text
  | [] => [[]]
  | c :: s =>
    if p c then [] :: splitBy p s
    else match splitBy p s with
      | piece :: pieces => (c :: piece) :: pieces
      | [] => [[c]]

/-- The maximal pieces without a character that satisfies `p`, empty ones left out. -/
def words (p : Char → Bool) (s : Text) : List Text :=
  (splitBy p s).filter (!·.isEmpty)

/-- The texts of a list, with `sep` between neighbours. -/
def join (sep : Text) : List Text → Text
  | [] => []
  | [s] => s
  | s :: t :: rest => s ++ sep ++ join sep (t :: rest)

/-- One left-to-right pass in which `find` may claim the text at the current place: it answers
    what to write for it and how many characters it has claimed beyond the first. The counter
    holds the claimed characters that are still to be passed over. -/
def substituteFrom (find : Text → Option (Text × Nat)) : Nat → Text → Text
  | _, [] => []
  | skip + 1, _ :: s => substituteFrom find skip s
  | 0, c :: s =>
    match find (c :: s) with
    | some (new, more) => new ++ substituteFrom find more s
    | none => c :: substituteFrom find 0 s

/-- Replace the leftmost claimed places, none of which overlap. -/
def substitute (find : Text → Option (Text × Nat)) (s : Text) : Text :=
  substituteFrom find 0 s

/-- Replace each occurrence of the nonempty text `old` by `new`, from the left. -/
def replaceAll (old new s : Text) : Text :=
  substitute (fun here => if startsWith here old then some (new, old.length - 1) else none) s

/-- Replace the first occurrence of `old` by `new`, if there is one. -/
def replaceFirst (old new s : Text) : Text :=
  match splitFirst? old s with
  | some (before, rest) => before ++ new ++ rest
  | none => s

/-- Carriage returns, with or without a line feed, become line feeds. -/
def unifyLineEnds : Text → Text
  | [] => []
  | '\r' :: '\n' :: s => '\n' :: unifyLineEnds s
  | c :: s => (if c == '\r' then '\n' else c) :: unifyLineEnds s

/-- The decimal numeral of a number. -/
def ofNat (n : Nat) : Text :=
  Nat.toDigits 10 n

/-- The decimal numeral of a number that may be negative. -/
def ofInt : Int → Text
  | .ofNat n => ofNat n
  | .negSucc n => '-' :: ofNat (n + 1)

/-- The number that decimal digits write. -/
def digitsValue (digits : Text) : Nat :=
  digits.foldl (fun n c => n * 10 + (c.toNat - '0'.toNat)) 0

/-- The value of a hexadecimal digit. -/
def hexDigit? (c : Char) : Option Nat :=
  if c.isDigit then some (c.toNat - '0'.toNat)
  else if 'a' ≤ c ∧ c ≤ 'f' then some (c.toNat - 'a'.toNat + 10)
  else if 'A' ≤ c ∧ c ≤ 'F' then some (c.toNat - 'A'.toNat + 10)
  else none

/-- The number that hexadecimal digits write, other characters counting as zero. -/
def hexValue (digits : Text) : Nat :=
  digits.foldl (fun n c => n * 16 + (hexDigit? c).getD 0) 0

/-- Lexicographic order by code point. -/
def precedes : Text → Text → Bool
  | _, [] => false
  | [], _ :: _ => true
  | a :: s, b :: t => a.toNat < b.toNat || (a == b && precedes s t)

end Text

/-- The character lies in one of the closed ranges of code points. -/
def inRanges (ranges : List (Nat × Nat)) (c : Char) : Bool :=
  ranges.any fun r => r.1 ≤ c.toNat && c.toNat ≤ r.2

/-- The code point is half of a surrogate pair. -/
def isSurrogate (code : Nat) : Bool :=
  0xD800 ≤ code && code ≤ 0xDFFF

/-- The text of code points, with the replacement character for each half of a surrogate pair. -/
def Text.ofCodes (codes : List Nat) : Text :=
  codes.map fun code => Char.ofNat (if isSurrogate code then 0xFFFD else code)

end Docpress
