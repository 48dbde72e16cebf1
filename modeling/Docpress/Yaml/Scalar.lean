import Docpress.Data.Value
import Docpress.Text.Blank
import Docpress.Text.Case
import Docpress.Yaml.Resolution
/-!
The values of scalars by their types.
-/

namespace Docpress.Yaml

/-- The text without underscores, which may group digits. -/
def dropLines (s : Text) : Text :=
  s.filter (· != '_')

/-- Split a sign from a number: whether it is negative, and the rest. An empty text has no sign to
    look at. -/
def splitSign (s : Text) : Except ScalarFault (Bool × Text) :=
  match s with
  | [] => .error .emptyNumber
  | '-' :: t => .ok (true, t)
  | '+' :: t => .ok (false, t)
  | t => .ok (false, t)

/-- The value of digits in a base up to sixteen; white space around them and a sign before them are
    allowed. Too many decimal digits are a fault even if something else follows them. -/
def readDigits (base : Nat) (written : Text) : Except ScalarFault Int :=
  let (negative, digits) := match (Text.trimBlank written).withAsciiDigits with
    | '-' :: t => (true, t)
    | '+' :: t => (false, t)
    | t => (false, t)
  let isDigit (c : Char) : Bool := match Text.hexDigit? c with
    | some d => d < base
    | none => false
  let count := (digits.takeWhile isDigit).length
  if base == 10 && longestDecimal < count then .error (.longNumber count)
  else if !digits.isEmpty && digits.all isDigit then
    let n : Int := digits.foldl (fun n c => n * base + (Text.hexDigit? c).getD 0) 0
    .ok (if negative then -n else n)
  else .error (.noNumber base written)

/-- The number whose places, the last one first, count sixty times as much each as the one
    before. -/
def sexagesimal : List Int → Int
  | [] => 0
  | n :: more => n + 60 * sexagesimal more

/-- The value of a whole number. -/
def wholeValue (s : Text) : Except ScalarFault Int := do
  let (negative, body) ← splitSign (dropLines s)
  let n ← match body with
    | [] => throw .emptyNumber
    | ['0'] => pure 0
    | '0' :: 'b' :: digits => readDigits 2 digits
    | '0' :: 'x' :: digits => readDigits 16 digits
    | '0' :: _ => readDigits 8 body
    | _ =>
      if body.contains ':' then
        let places ← (Text.splitBy (· == ':') body).mapM (readDigits 10)
        pure (sexagesimal places.reverse)
      else readDigits 10 body
  return if negative then -n else n

/-- Read a number with a point; white space around it is allowed. -/
def readReal (s : Text) : Except ScalarFault Binary64 :=
  match Binary64.ofText? (Text.trimBlank s).withAsciiDigits with
  | some x => .ok x
  | none => .error (.noReal s)

/-- The sum of sexagesimal places, the last one first, with the weight of the first of them. -/
def sumPlaces : Nat → Binary64 → List Binary64 → Binary64
  | _, sum, [] => sum
  | weight, sum, x :: more => sumPlaces (weight * 60) (sum.add (x.scale weight)) more

/-- The value of a number with a point. -/
def realValue (s : Text) : Except ScalarFault Binary64 := do
  let (negative, body) ← splitSign (lower (dropLines s))
  let x ← if body == ".inf".toList then pure (Binary64.infinite false)
    else if body == ".nan".toList then return .undefined
    else if body.contains ':' then do
      let places ← (Text.splitBy (· == ':') body).mapM readReal
      pure (sumPlaces 1 (.finite 0 0) places.reverse)
    else readReal body
  return if negative then x.neg else x

/-- The value of a flag. -/
def flagValue (s : Text) : Except ScalarFault Bool :=
  let word := String.ofList (lower s)
  if ["yes", "true", "on"].contains word then .ok true
  else if ["no", "false", "off"].contains word then .ok false
  else .error (.noFlag (lower s))

/-! ### Dates -/

/-- The number of days in a month. -/
def daysInMonth (year month : Nat) : Nat :=
  let leap := year % 4 == 0 && (year % 100 != 0 || year % 400 == 0)
  if month == 2 then (if leap then 29 else 28)
  else if [4, 6, 9, 11].contains month then 30 else 31

/-- Check the parts of a date. -/
def checkDate (year month day : Nat) : Except ScalarFault Unit := do
  if year == 0 then throw (.badDate "year 0 is out of range".toList)
  if month == 0 || 12 < month then throw (.badDate "month must be in 1..12".toList)
  if day == 0 || daysInMonth year month < day then
    throw (.badDate "day is out of range for month".toList)

/-- Check the parts of a time of day. -/
def checkTime (hour minute second : Nat) : Except ScalarFault Unit := do
  if 23 < hour then throw (.badDate "hour must be in 0..23".toList)
  if 59 < minute then throw (.badDate "minute must be in 0..59".toList)
  if 59 < second then throw (.badDate "second must be in 0..59".toList)

/-- A span of time in days and seconds, as a report shows it. -/
def spanText (days : Int) (seconds : Nat) : Text :=
  let parts := (if days == 0 then [] else ["days=".toList ++ Text.ofInt days]) ++
    (if seconds == 0 then [] else ["seconds=".toList ++ Text.ofNat seconds])
  "datetime.timedelta(".toList ++
    (if parts.isEmpty then ['0'] else Text.join ", ".toList parts) ++ [')']

/-- Check an offset from universal time: it is less than a day. -/
def checkOffset (negative : Bool) (hours minutes : Nat) : Except ScalarFault Unit :=
  let offset : Int := hours * 60 + minutes
  if offset < 1440 then .ok ()
  else
    let signed := if negative then -offset else offset
    .error (.badDate (("offset must be a timedelta strictly between -timedelta(hours=24) and " ++
      "timedelta(hours=24), not ").toList ++
      spanText (signed / 1440) (signed % 1440 * 60).toNat ++ ['.']))

/-- The value of a date, perhaps with a time. -/
def dateValue (s : Text) : Except ScalarFault Value := do
  match dateParts? s with
  | none => throw .noDate
  | some parts =>
    let year := Text.digitsValue parts.year
    let month := Text.digitsValue parts.month
    let day := Text.digitsValue parts.day
    match parts.time with
    | none =>
      checkDate year month day
      return .date
    | some (hour, minute, second) =>
      match parts.zone with
      | some (some sign, hours, minutes) =>
        checkOffset (sign == '-') (Text.digitsValue hours) (Text.digitsValue minutes)
      | _ => pure ()
      checkDate year month day
      checkTime (Text.digitsValue hour) (Text.digitsValue minute) (Text.digitsValue second)
      return .moment

/-! ### Bytes -/

/-- The value of a character of base 64. -/
def base64Digit? (c : Char) : Option Nat :=
  if 'A' ≤ c && c ≤ 'Z' then some (c.toNat - 'A'.toNat)
  else if 'a' ≤ c && c ≤ 'z' then some (c.toNat - 'a'.toNat + 26)
  else if c.isDigit then some (c.toNat - '0'.toNat + 52)
  else if c == '+' then some 62
  else if c == '/' then some 63
  else none

/-- Why a text is not base 64. -/
inductive Base64Fault where
  /-- The digits end within a byte, and no padding follows. -/
  | padding
  /-- One digit is left over after so many. -/
  | leftover (digits : Nat)
deriving DecidableEq, Repr

/-- The wording of a fault. -/
def Base64Fault.message : Base64Fault → Text
  | .padding => "Incorrect padding".toList
  | .leftover digits =>
    "Invalid base64-encoded string: number of data characters (".toList ++ Text.ofNat digits ++
      ") cannot be 1 more than a multiple of 4".toList

/-- Decode base 64. `phase` counts the digits of the group of four that is open, `rest` holds the
    bits that make no byte yet, `total` counts all digits, and `pads` the padding. Enough padding
    ends the text; other characters are passed over. -/
def decodeBase64 (phase rest total pads : Nat) : Text → Except Base64Fault (List Nat)
  | [] =>
    if phase == 0 then .ok []
    else if phase == 1 then .error (.leftover total)
    else .error .padding
  | c :: s =>
    if c == '=' then
      if 2 ≤ phase && 4 ≤ phase + pads + 1 then .ok []
      else decodeBase64 phase rest total (if 2 ≤ phase then pads + 1 else pads) s
    else match base64Digit? c with
      | none => decodeBase64 phase rest total pads s
      | some d =>
        match phase with
        | 0 => decodeBase64 1 d (total + 1) 0 s
        | 1 => (decodeBase64 2 (d % 16) (total + 1) 0 s).map ((rest * 4 + d / 16) :: ·)
        | 2 => (decodeBase64 3 (d % 4) (total + 1) 0 s).map ((rest * 16 + d / 4) :: ·)
        | _ => (decodeBase64 0 0 (total + 1) 0 s).map ((rest * 64 + d) :: ·)

end Docpress.Yaml
