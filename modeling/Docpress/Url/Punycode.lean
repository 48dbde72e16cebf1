import Docpress.Text.Basic
/-!
Punycode, the ASCII form of the labels of international host names.
-/

namespace Docpress.Punycode

/-- The largest code point. -/
def maxCodePoint : Nat := 0x10FFFF

/-- The threshold of the digit at a place. -/
def threshold (bias place : Nat) : Nat :=
  let k := 36 * (place + 1)
  if k ≤ bias then 1 else min (k - bias) 26

/-- Divide by 35 until at most 455 is left, counting 36 for each division. -/
def adaptLoop : (fuel delta k : Nat) → Nat × Nat
  | 0, delta, k => (delta, k)
  | fuel + 1, delta, k => if 455 < delta then adaptLoop fuel (delta / 35) (k + 36) else (delta, k)

/-- The bias after an insertion. -/
def adapt (delta : Nat) (first : Bool) (count : Nat) : Nat :=
  let delta := if first then delta / 700 else delta / 2
  let (delta, k) := adaptLoop 64 (delta + delta / count) 0
  k + 36 * delta / (delta + 38)

/-- The digit of a number below 36. -/
def digit (n : Nat) : Char :=
  if n < 26 then Char.ofNat ('a'.toNat + n) else Char.ofNat ('0'.toNat + (n - 26))

/-- A number as digits of growing place, the last one below its threshold. -/
def writeNumber (bias : Nat) : (fuel place n : Nat) → Text
  | 0, _, _ => []
  | fuel + 1, place, n =>
    let t := threshold bias place
    if n < t then [digit n]
    else digit (t + (n - t) % (36 - t)) :: writeNumber bias fuel (place + 1) ((n - t) / (36 - t))

/-- State of the encoder: the distance since the last insertion, the bias, how many characters are
    written, and whether none has been inserted yet. -/
structure Encoder where
  delta : Nat
  bias : Nat
  handled : Nat
  first : Bool
  out : Text

/-- Pass one character of the label while the code point `m` is being inserted. -/
def Encoder.pass (m : Nat) (e : Encoder) (c : Char) : Encoder :=
  if c.toNat < m then { e with delta := e.delta + 1 }
  else if c.toNat == m then
    { delta := 0, bias := adapt e.delta e.first (e.handled + 1), handled := e.handled + 1,
      first := false, out := e.out ++ writeNumber e.bias 64 0 e.delta }
  else e

/-- Insert the code points of the label from `n` on, in order. -/
def encodeLoop (label : Text) : (fuel n : Nat) → Encoder → Text
  | 0, _, e => e.out
  | fuel + 1, n, e =>
    match (label.filterMap fun c => if n ≤ c.toNat then some c.toNat else none).min? with
    | none => e.out
    | some m =>
      let e := { e with delta := e.delta + (m - n) * (e.handled + 1) }
      let e := label.foldl (Encoder.pass m) e
      encodeLoop label fuel (m + 1) { e with delta := e.delta + 1 }

/-- The Punycode form of a label. -/
def encode (label : Text) : Text :=
  let basic := label.filter (·.toNat < 128)
  let lead := if basic.isEmpty then [] else basic ++ ['-']
  lead ++ encodeLoop label label.length 128
    { delta := 0, bias := 72, handled := basic.length, first := true, out := [] }

/-- The value of a digit, in either case. -/
def digitValue? (c : Char) : Option Nat :=
  if 'a' ≤ c ∧ c ≤ 'z' then some (c.toNat - 'a'.toNat)
  else if 'A' ≤ c ∧ c ≤ 'Z' then some (c.toNat - 'A'.toNat)
  else if c.isDigit then some (c.toNat - '0'.toNat + 26)
  else none

/-- Read a number: digits of growing place up to one below its threshold. -/
def readNumber? (bias : Nat) : (place weight n : Nat) → Text → Option (Nat × Text)
  | _, _, _, [] => none
  | place, weight, n, c :: s =>
    match digitValue? c with
    | none => none
    | some d =>
      let t := threshold bias place
      if d < t then some (n + d * weight, s)
      else readNumber? bias (place + 1) (weight * (36 - t)) (n + d * weight) s

/-- Insert code points until the digits are used up; none if they are malformed. -/
def decodeLoop? : (fuel : Nat) → (char position bias : Nat) → (first : Bool) → List Nat → Text →
    Option (List Nat)
  | 0, _, _, _, _, _, _ => none
  | fuel + 1, char, position, bias, first, out, digits =>
    if digits.isEmpty then some out
    else match readNumber? bias 0 1 0 digits with
      | none => none
      | some (delta, rest) =>
        let size := out.length + 1
        let total := position + delta
        let char := char + total / size
        let position := total % size
        if maxCodePoint < char then none
        else decodeLoop? fuel char (position + 1) (adapt delta first size) false
          (out.take position ++ char :: out.drop position) rest

/-- The code points of the label that a Punycode form stands for, if it is well formed. Halves of
    surrogate pairs may be among them. -/
def decodeCodes? (form : Text) : Option (List Nat) :=
  let tail := (form.reverse.takeWhile (· != '-')).reverse
  let lead := form.take (form.length - tail.length - 1)
  if lead.all (·.toNat < 128) then
    decodeLoop? (tail.length + 1) 128 0 72 true (lead.map Char.toNat) tail
  else none

/-- The label that a Punycode form stands for, if it is well formed. -/
def decode? (form : Text) : Option Text :=
  (decodeCodes? form).map .ofCodes

/-- The label that a Punycode form stands for is broken. -/
def isBroken (form : Text) : Bool :=
  (decodeCodes? form).any (·.any isSurrogate)

end Docpress.Punycode
