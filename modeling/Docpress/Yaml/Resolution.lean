import Docpress.Yaml.Token
/-!
The types of plain scalars: numbers, flags, dates and nulls are told from texts by their form.
-/

namespace Docpress.Yaml

/-- What the tags of the standard types begin with. -/
def standardLead : Text :=
  "tag:yaml.org,2002:".toList

/-- The tag of a standard type. -/
def standardTag (name : String) : Text :=
  standardLead ++ name.toList

/-- A digit or an underscore. -/
def isDigitOrLine (c : Char) : Bool :=
  c.isDigit || c == '_'

/-- The text without a sign at its beginning. -/
def dropSign : Text → Text
  | '+' :: s => s
  | '-' :: s => s
  | s => s

/-- Sexagesimal places: each is a colon and one digit or two, the first of two below six. The places
    end before `tail`, which is handed on. -/
def sexagesimalTail? : Text → Option Text
  | ':' :: a :: b :: s =>
    if a.isDigit && b.isDigit && a.toNat < '6'.toNat then
      (sexagesimalTail? s).or (some s)
    else if a.isDigit then (sexagesimalTail? (b :: s)).or (some (b :: s))
    else none
  | [':', a] => if a.isDigit then some [] else none
  | _ => none

/-- A whole number: binary, octal, decimal, hexadecimal or sexagesimal. -/
def isWholeForm (s : Text) : Bool :=
  let all (p : Char → Bool) (t : Text) : Bool := !t.isEmpty && t.all p
  match dropSign s with
  | '0' :: 'b' :: t => all (fun c => c == '0' || c == '1' || c == '_') t
  | '0' :: 'x' :: t => all (fun c => (Text.hexDigit? c).isSome || c == '_') t
  | '0' :: t => t.all fun c => ('0' ≤ c && c ≤ '7') || c == '_'
  | c :: t =>
    if !c.isDigit then false
    else match t.dropWhile isDigitOrLine with
      | [] => true
      | rest => sexagesimalTail? rest == some []
  | [] => false

/-- An exponent with its sign, or nothing. -/
def isExponent : Text → Bool
  | [] => true
  | e :: sign :: digits =>
    (e == 'e' || e == 'E') && (sign == '+' || sign == '-') && !digits.isEmpty &&
      digits.all Char.isDigit
  | _ => false

/-- A number with a point: decimal or sexagesimal, infinite, or no number at all. -/
def isRealForm (s : Text) : Bool :=
  let body := dropSign s
  let isDecimal := match body with
    | c :: t =>
      c.isDigit && match t.dropWhile isDigitOrLine with
        | '.' :: u => isExponent (u.dropWhile isDigitOrLine)
        | u => match sexagesimalTail? u with
          | some ('.' :: v) => v.all isDigitOrLine
          | _ => false
    | [] => false
  let isFraction := match s with
    | '.' :: c :: t => c.isDigit && isExponent (t.dropWhile isDigitOrLine)
    | _ => false
  isDecimal || isFraction ||
    [".inf", ".Inf", ".INF"].contains (String.ofList body) ||
    [".nan", ".NaN", ".NAN"].contains (String.ofList s)

/-- The parts of a date, and of the time of day if there is one. -/
structure DateParts where
  year : Text
  month : Text
  day : Text
  time : Option (Text × Text × Text) := none
  fraction : Text := []
  /-- The offset from universal time: a sign, hours and minutes. Universal time itself has no
      sign. -/
  zone : Option (Option Char × Text × Text) := none

/-- Take digits from a text, between `least` and `most` of them. -/
def takeDigits? (least most : Nat) (s : Text) : Option (Text × Text) :=
  let run := (s.take most).takeWhile Char.isDigit
  if least ≤ run.length then some (run, s.drop run.length) else none

/-- Take a character from a text. -/
def takeChar? (c : Char) : Text → Option Text
  | d :: s => if c == d then some s else none
  | [] => none

/-- The zone of a time, which ends the text: none, universal time, or an offset. -/
def zone? (s : Text) : Option (Option (Option Char × Text × Text)) :=
  match s.dropWhile fun c => c == ' ' || c == '\t' with
  | [] => if s.isEmpty then some none else none
  | ['Z'] => some (some (none, [], []))
  | sign :: t =>
    if sign != '+' && sign != '-' then none
    else do
      let (hours, t) ← takeDigits? 1 2 t
      match t with
      | [] => return some (some sign, hours, [])
      | ':' :: t =>
        let (minutes, t) ← takeDigits? 2 2 t
        if t.isEmpty then return some (some sign, hours, minutes) else none
      | _ => none

/-- The time that follows a date: a mark or a gap, hours, minutes, seconds, perhaps a fraction, and
    perhaps a zone. -/
def timeParts? (date : DateParts) (s : Text) : Option DateParts := do
  let t ← match s with
    | c :: t =>
      if c == 'T' || c == 't' then some t
      else if c == ' ' || c == '\t' then some (t.dropWhile fun c => c == ' ' || c == '\t')
      else none
    | [] => none
  let (hour, t) ← takeDigits? 1 2 t
  let t ← takeChar? ':' t
  let (minute, t) ← takeDigits? 2 2 t
  let t ← takeChar? ':' t
  let (second, t) ← takeDigits? 2 2 t
  let (fraction, t) := match t with
    | '.' :: t => (t.takeWhile Char.isDigit, t.dropWhile Char.isDigit)
    | t => ([], t)
  let zone ← zone? t
  return { date with time := some (hour, minute, second), fraction, zone }

/-- The parts of a text that is a date, perhaps with a time. -/
def dateParts? (s : Text) : Option DateParts := do
  let (year, t) ← takeDigits? 4 4 s
  let t ← takeChar? '-' t
  let (month, t) ← takeDigits? 1 2 t
  let t ← takeChar? '-' t
  let (day, t) ← takeDigits? 1 2 t
  if t.isEmpty then return { year, month, day } else timeParts? { year, month, day } t

/-- A plain scalar that is a date. Without a time the month and the day have two digits each. -/
def isDateForm (s : Text) : Bool :=
  match dateParts? s with
  | some parts => parts.time.isSome || (parts.month.length == 2 && parts.day.length == 2)
  | none => false

/-- The words that are flags. -/
def flagWords : List String :=
  ["yes", "Yes", "YES", "no", "No", "NO", "true", "True", "TRUE", "false", "False", "FALSE",
    "on", "On", "ON", "off", "Off", "OFF"]

/-- The tag of a scalar whose type depends on its text. -/
def tagOfForm (s : Text) : Text :=
  let word := String.ofList s
  if flagWords.contains word then standardTag "bool"
  else if isRealForm s then standardTag "float"
  else if isWholeForm s then standardTag "int"
  else if word == "<<" then standardTag "merge"
  else if ["~", "null", "Null", "NULL", ""].contains word then standardTag "null"
  else if isDateForm s then standardTag "timestamp"
  else if word == "=" then standardTag "value"
  else standardTag "str"

end Docpress.Yaml
