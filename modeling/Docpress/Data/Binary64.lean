import Docpress.Text.Basic
/-!
Numbers in double precision: a whole number times a power of two, read from decimals by rounding to
the nearest of them, a half to the even one.
-/

namespace Docpress

/-- A number in double precision. -/
inductive Binary64 where
  /-- The number `significand * 2 ^ exponent`. -/
  | finite (significand : Int) (exponent : Int)
  | infinite (negative : Bool)
  | undefined
deriving DecidableEq, Repr

namespace Binary64

/-- The quotient rounded to the nearest whole number, a half to the even one. -/
def roundDiv (num den : Nat) : Nat :=
  let q := num / den
  let twice := 2 * (num % den)
  if twice < den then q else if den < twice then q + 1 else q + q % 2

/-- The product of a quotient and a power of two, rounded to a whole number. -/
def roundScaled (num den : Nat) (power : Int) : Nat :=
  if 0 ≤ power then roundDiv (num * Nat.pow 2 power.toNat) den
  else roundDiv num (den * Nat.pow 2 (-power).toNat)

/-- The exponent at which a positive quotient has a significand of 53 bits, or fewer if it is too
    small for that. -/
def exponentOf (num den : Nat) : Int :=
  let guess : Int := (num.log2 : Int) - den.log2 - 53
  let tooWide : Bool :=
    if 0 ≤ guess then den * Nat.pow 2 (guess.toNat + 53) ≤ num
    else den * Nat.pow 2 53 ≤ num * Nat.pow 2 (-guess).toNat
  max (if tooWide then guess + 1 else guess) (-1074)

/-- The nearest number to a quotient. -/
def ofQuotient (negative : Bool) (num den : Nat) : Binary64 :=
  if num == 0 then .finite 0 0
  else
    let exponent := exponentOf num den
    let significand := roundScaled num den (-exponent)
    if 1024 ≤ (significand.log2 : Int) + exponent then .infinite negative
    else .finite (if negative then -significand else significand) exponent

/-- The nearest number to a decimal `digits * 10 ^ power`. A decimal far beyond the range is not
    worked out. -/
def ofDecimal (negative : Bool) (digits : Nat) (power : Int) : Binary64 :=
  if digits == 0 then .finite 0 0
  else
    let order := (Text.ofNat digits).length + power
    if 400 < order then .infinite negative
    else if order < -400 then .finite 0 0
    else if 0 ≤ power then ofQuotient negative (digits * Nat.pow 10 power.toNat) 1
    else ofQuotient negative digits (Nat.pow 10 (-power).toNat)

/-- The nearest number to a whole number. -/
def ofInt (n : Int) : Binary64 :=
  ofQuotient (n < 0) n.natAbs 1

/-- The number if it is whole. -/
def toInt? : Binary64 → Option Int
  | .finite significand exponent =>
    if 0 ≤ exponent then some (significand * Int.pow 2 exponent.toNat)
    else
      let unit := Int.pow 2 (-exponent).toNat
      if significand % unit == 0 then some (significand / unit) else none
  | _ => none

/-- The number is zero. -/
def isZero : Binary64 → Bool
  | .finite significand _ => significand == 0
  | _ => false

/-- The number with its sign changed. -/
def neg : Binary64 → Binary64
  | .finite significand exponent => .finite (-significand) exponent
  | .infinite negative => .infinite (!negative)
  | .undefined => .undefined

/-- The sum of two numbers, rounded. -/
def add : Binary64 → Binary64 → Binary64
  | .finite a e, .finite b f =>
    let low := min e f
    let sum := a * Int.pow 2 (e - low).toNat + b * Int.pow 2 (f - low).toNat
    if 0 ≤ low then ofQuotient (sum < 0) (sum.natAbs * Nat.pow 2 low.toNat) 1
    else ofQuotient (sum < 0) sum.natAbs (Nat.pow 2 (-low).toNat)
  | .infinite s, .infinite t => if s == t then .infinite s else .undefined
  | .infinite s, .finite _ _ => .infinite s
  | .finite _ _, .infinite t => .infinite t
  | _, _ => .undefined

/-- The product with a positive whole number, rounded. -/
def scale (n : Nat) : Binary64 → Binary64
  | .finite a e =>
    if 0 ≤ e then ofQuotient (a < 0) (a.natAbs * n * Nat.pow 2 e.toNat) 1
    else ofQuotient (a < 0) (a.natAbs * n) (Nat.pow 2 (-e).toNat)
  | x => x

/-- Read the exponent of a decimal: nothing, or a sign and digits after an `e`. -/
def readPower? : Text → Option Int
  | [] => some 0
  | c :: s =>
    if c != 'e' && c != 'E' then none
    else
      let (negative, digits) := match s with
        | '-' :: s => (true, s)
        | '+' :: s => (false, s)
        | s => (false, s)
      if digits.isEmpty || !digits.all Char.isDigit then none
      else
        let n : Int := Text.digitsValue digits
        some (if negative then -n else n)

/-- Read a decimal without a sign: digits with a point anywhere, and an exponent perhaps. -/
def readUnsigned? (negative : Bool) (s : Text) : Option Binary64 :=
  let whole := s.takeWhile Char.isDigit
  let rest := s.dropWhile Char.isDigit
  let (fraction, rest) := match rest with
    | '.' :: t => (t.takeWhile Char.isDigit, t.dropWhile Char.isDigit)
    | t => ([], t)
  if whole.isEmpty && fraction.isEmpty then none
  else (readPower? rest).map fun power =>
    ofDecimal negative (Text.digitsValue (whole ++ fraction)) (power - fraction.length)

/-- Read a number: a decimal, an infinity, or the word for no number, perhaps with a sign. -/
def ofText? (s : Text) : Option Binary64 :=
  let (negative, body) := match s with
    | '-' :: t => (true, t)
    | '+' :: t => (false, t)
    | t => (false, t)
  let word := body.map Char.toLower
  if word == "inf".toList || word == "infinity".toList then some (.infinite negative)
  else if word == "nan".toList then some .undefined
  else readUnsigned? negative body

end Binary64

end Docpress
