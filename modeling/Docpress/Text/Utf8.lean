import Docpress.Text.Basic
/-!
UTF-8: the bytes of a character, and the strict reading of bytes with the reason and the place of
the first fault.
-/

namespace Docpress.Utf8

/-- The bytes of one character. -/
def encodeChar (c : Char) : List Nat :=
  let n := c.toNat
  if n < 0x80 then [n]
  else if n < 0x800 then [0xC0 + n / 64, 0x80 + n % 64]
  else if n < 0x10000 then [0xE0 + n / 4096, 0x80 + n / 64 % 64, 0x80 + n % 64]
  else [0xF0 + n / 262144, 0x80 + n / 4096 % 64, 0x80 + n / 64 % 64, 0x80 + n % 64]

/-- The bytes of a text. -/
def encode (s : Text) : List Nat :=
  s.flatMap encodeChar

/-- Why bytes are not UTF-8. -/
inductive Fault where
  | invalidStart
  | invalidContinuation
  | unexpectedEnd
deriving DecidableEq, Repr

/-- The wording of a fault. -/
def Fault.reason : Fault → Text
  | .invalidStart => "invalid start byte".toList
  | .invalidContinuation => "invalid continuation byte".toList
  | .unexpectedEnd => "unexpected end of data".toList

/-- A continuation byte. -/
def isContinuation (b : Nat) : Bool :=
  0x80 ≤ b && b < 0xC0

/-- The second bytes that may follow a leading byte: surrogates, overlong forms and code points
    beyond the last one are left out. -/
def isSecond (lead b : Nat) : Bool :=
  if lead == 0xE0 then 0xA0 ≤ b && b < 0xC0
  else if lead == 0xED then 0x80 ≤ b && b < 0xA0
  else if lead == 0xF0 then 0x90 ≤ b && b < 0xC0
  else if lead == 0xF4 then 0x80 ≤ b && b < 0x90
  else isContinuation b

/-- Read one character; a fault comes with the number of bytes that it takes up. -/
def decodeChar : List Nat → Except (Fault × Nat) (Char × List Nat)
  | [] => .error (.unexpectedEnd, 0)
  | a :: s =>
    if a < 0x80 then .ok (Char.ofNat a, s)
    else if a < 0xC2 || 0xF4 < a then .error (.invalidStart, 1)
    else match s with
      | [] => .error (.unexpectedEnd, 1)
      | b :: s =>
        if !isSecond a b then .error (.invalidContinuation, 1)
        else if a < 0xE0 then .ok (Char.ofNat ((a - 0xC0) * 64 + (b - 0x80)), s)
        else match s with
          | [] => .error (.unexpectedEnd, 2)
          | c :: s =>
            if !isContinuation c then .error (.invalidContinuation, 2)
            else if a < 0xF0 then
              .ok (Char.ofNat ((a - 0xE0) * 4096 + (b - 0x80) * 64 + (c - 0x80)), s)
            else match s with
              | [] => .error (.unexpectedEnd, 3)
              | d :: s =>
                if !isContinuation d then .error (.invalidContinuation, 3)
                else .ok (Char.ofNat
                  ((a - 0xF0) * 262144 + (b - 0x80) * 4096 + (c - 0x80) * 64 + (d - 0x80)), s)

/-- Where bytes stop being UTF-8: how many bytes come before, the first byte of the fault, how many
    bytes it takes up, and the reason. -/
structure DecodingError where
  start : Nat
  first : Nat
  size : Nat
  reason : Fault
deriving DecidableEq, Repr

/-- Read bytes after `start` others, with one step of fuel for each. -/
def decodeFrom (start : Nat) : Nat → List Nat → Except DecodingError Text
  | _, [] => .ok []
  | 0, b :: _ => .error ⟨start, b, 1, .unexpectedEnd⟩
  | fuel + 1, b :: bytes =>
    match decodeChar (b :: bytes) with
    | .error (reason, size) => .error ⟨start, b, size, reason⟩
    | .ok (c, rest) =>
      (decodeFrom (start + (encodeChar c).length) fuel rest).map (c :: ·)

/-- Read bytes as UTF-8. -/
def decode (bytes : List Nat) : Except DecodingError Text :=
  decodeFrom 0 bytes.length bytes

end Docpress.Utf8
