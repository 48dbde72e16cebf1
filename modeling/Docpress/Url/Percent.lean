import Docpress.Text.Utf8
/-!
Percent encoding of URLs. Encoding leaves escapes that are there already; decoding leaves those of
characters that would change what the URL means.
-/

namespace Docpress.Url

/-- The upper-case hexadecimal digit of a number below sixteen. -/
def hexUpper (n : Nat) : Char :=
  "0123456789ABCDEF".toList.getD n '0'

/-- A byte as a percent escape. -/
def escapeByte (b : Nat) : Text :=
  ['%', hexUpper (b / 16), hexUpper (b % 16)]

/-- ASCII characters that a URL holds as they are. -/
def isUrlSafe (c : Char) : Bool :=
  c.isAlphanum || ";/?:@&=+$,-_.!~*'()#".toList.contains c

/-- A character as it stands in an encoded URL. -/
def encodeUrlChar (c : Char) : Text :=
  if c.toNat < 128 then (if isUrlSafe c then [c] else escapeByte c.toNat)
  else (Utf8.encodeChar c).flatMap escapeByte

/-- A hexadecimal digit. -/
def isHexDigit (c : Char) : Bool :=
  (Text.hexDigit? c).isSome

/-- Percent-encode what a URL may not hold; an escape that is there already is kept. -/
def percentEncode : Text → Text
  | [] => []
  | c :: s =>
    match c, s with
    | '%', a :: b :: _ =>
      (if isHexDigit a && isHexDigit b then ['%'] else escapeByte '%'.toNat) ++ percentEncode s
    | _, _ => encodeUrlChar c ++ percentEncode s

/-- Characters whose escapes decoding leaves, the percent sign among them. -/
def staysEscaped (c : Char) : Bool :=
  ";/?:@&=+$,#%".toList.contains c

/-- The replacement character. -/
def replacementChar : Char :=
  Char.ofNat 0xFFFD

/-- What a decoded sequence of bytes becomes: its character, or a replacement for each byte. -/
def decodedBytes (bytes : List Nat) : Text :=
  match Utf8.decode bytes with
  | .ok s => s
  | .error _ => bytes.map fun _ => replacementChar

/-- How many bytes the sequence that begins with this byte should have. -/
def sequenceLength (lead : Nat) : Nat :=
  if 0xC0 ≤ lead && lead < 0xE0 then 2
  else if 0xE0 ≤ lead && lead < 0xF0 then 3
  else if 0xF0 ≤ lead && lead < 0xF8 then 4
  else 1

/-- Decode a run of escaped bytes; the counter holds bytes that a sequence has taken already. -/
def decodeBytes : Nat → List Nat → Text
  | _, [] => []
  | skip + 1, _ :: s => decodeBytes skip s
  | 0, b :: s =>
    if b < 0x80 then
      (if staysEscaped (Char.ofNat b) then escapeByte b else [Char.ofNat b]) ++ decodeBytes 0 s
    else
      let more := sequenceLength b - 1
      let next := s.take more
      if 0 < more && next.length == more && next.all Utf8.isContinuation then
        decodedBytes (b :: next) ++ decodeBytes more s
      else replacementChar :: decodeBytes 0 s

/-- The longest run of percent escapes at the start, as bytes. -/
def escapedRun : Text → List Nat
  | '%' :: a :: b :: s =>
    match Text.hexDigit? a, Text.hexDigit? b with
    | some x, some y => (x * 16 + y) :: escapedRun s
    | _, _ => []
  | _ => []

/-- Decode the percent escapes of a URL for display. -/
def percentDecode (s : Text) : Text :=
  Text.substitute (fun here =>
    let run := escapedRun here
    if run.isEmpty then none else some (decodeBytes 0 run, 3 * run.length - 1)) s

end Docpress.Url
