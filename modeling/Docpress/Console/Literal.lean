import Docpress.Text.Blank
/-!
Literals: numbers, quoted texts, the three named constants, and tuples, lists, sets and mappings of
literals. Only whether a text is one is asked.
-/

namespace Docpress.Console.Literal

/-- The characters between the parts of a literal. -/
def isGap (c : Char) : Bool :=
  c == ' ' || c == '\t' || c == '\n' || c == Char.ofNat 12

/-- The text without the gap before it. -/
def skipGap (s : Text) : Text :=
  s.dropWhile isGap

/-- The rest after the closing quote of a quoted text; none if the line or the text ends first. -/
def afterQuote? (quote : Char) : Text → Option Text
  | [] => none
  | '\\' :: _ :: s => afterQuote? quote s
  | c :: s => if c == quote then some s else if c == '\n' then none else afterQuote? quote s

/-- The rest after digits, which underscores may separate one by one. -/
def afterDigits (p : Char → Bool) : Text → Text
  | [] => []
  | '_' :: c :: s => if p c then afterDigits p s else '_' :: c :: s
  | c :: s => if p c then afterDigits p s else c :: s

/-- The rest after an exponent, if there is a whole one. -/
def afterExponent (s : Text) : Text :=
  match s with
  | e :: rest =>
    if e == 'e' || e == 'E' then
      let digits := match rest with
        | sign :: digits => if sign == '+' || sign == '-' then digits else rest
        | [] => []
      if digits.head?.any Char.isDigit then afterDigits Char.isDigit digits else s
    else s
  | [] => []

/-- The rest after a numeral in another base, if there is one. -/
def afterBased? : Text → Option Text
  | '0' :: b :: s =>
    let isDigit : Char → Bool :=
      if b == 'x' || b == 'X' then fun c => (Text.hexDigit? c).isSome
      else if b == 'o' || b == 'O' then fun c => '0' ≤ c && c ≤ '7'
      else if b == 'b' || b == 'B' then fun c => c == '0' || c == '1'
      else fun _ => false
    let digits := if s.head? == some '_' then s.drop 1 else s
    if digits.head?.any isDigit then some (afterDigits isDigit digits) else none
  | _ => none

/-- The rest after a number without a sign, if there is one. A whole number does not begin with an
    idle zero. -/
def afterNumber? (s : Text) : Option Text :=
  match afterBased? s with
  | some rest => some rest
  | none =>
    let whole := afterDigits Char.isDigit s
    let digits := s.take (s.length - whole.length)
    let point := match whole with
      | '.' :: rest => afterDigits Char.isDigit rest
      | rest => rest
    let rest := afterExponent point
    let hasDigits := digits.head?.any Char.isDigit ||
      (whole.head? == some '.' && (whole.drop 1).head?.any Char.isDigit)
    let isWhole := rest.length == whole.length
    let imaginary := rest.head? == some 'j' || rest.head? == some 'J'
    if !hasDigits then none
    else if imaginary then some (rest.drop 1)
    else if isWhole && digits.head? == some '0' && digits.any fun c => '1' ≤ c && c ≤ '9' then none
    else some rest

/-- The rest after a named constant, if there is one. -/
def afterConstant? (s : Text) : Option Text :=
  ["None", "True", "False"].firstM fun name => Text.dropLead? name.toList s

/-- The bracket that closes one that opens. -/
def closing? (c : Char) : Option Char :=
  match c with
  | '(' => some ')'
  | '[' => some ']'
  | '\x7b' => some '\x7d'
  | _ => none

mutual

/-- The rest after a literal, if there is one; the number bounds the depth and the length. -/
def after? : Nat → Text → Option Text
  | 0, _ => none
  | n + 1, s =>
    match skipGap s with
    | [] => none
    | c :: rest =>
      if c == '\'' || c == '"' then afterQuote? c rest
      else match closing? c with
        | some close => afterItems? n close rest
        | none =>
          if c == '-' || c == '+' then afterNumber? (skipGap rest)
          else (afterConstant? (c :: rest)).or (afterNumber? (c :: rest))

/-- The rest after the items of a bracket and the character that closes it. In curly brackets an
    item may be a pair with a colon between. -/
def afterItems? : Nat → Char → Text → Option Text
  | 0, _, _ => none
  | n + 1, close, s =>
    match skipGap s with
    | [] => none
    | c :: rest =>
      if c == close then some rest
      else do
        let item := skipGap (← after? n (c :: rest))
        let item ← match item with
          | ':' :: value => if close == '\x7d' then (after? n value).map skipGap else none
          | item => some item
        match item with
        | ',' :: more => afterItems? n close more
        | d :: more => if d == close then some more else none
        | [] => none

end

/-- The text is a literal, or literals with commas between, which are a tuple. -/
def isLiteral (s : Text) : Bool :=
  let n := s.length + 2
  !(s.all isGap) && afterItems? n ')' (s ++ [')']) == some []

end Docpress.Console.Literal
