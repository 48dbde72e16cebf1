import Docpress.Text.Blank
import Docpress.Text.Case
import Docpress.Text.Digit
import Docpress.Text.Punctuation
/-!
Addresses that stand in running text without any markup: URLs with a scheme, URLs that begin with
two slashes, and e-mail addresses.
-/

namespace Docpress.Markdown.BareLink

/-- A space separator of any kind, or a control character. -/
def isSpaceOrControl (c : Char) : Bool :=
  let n := c.toNat
  n ≤ 32 || (127 ≤ n && n ≤ 160) || n == 0x1680 || (0x2000 ≤ n && n ≤ 0x200A) || n == 0x2028 ||
    n == 0x2029 || n == 0x202F || n == 0x205F || n == 0x3000

/-- A character that no address holds. -/
def isSeparator (c : Char) : Bool :=
  c == '>' || c == '<' || c == '\uff5c'

/-- A space, a control character or punctuation. -/
def isBoundary (c : Char) : Bool :=
  isSpaceOrControl c || isPunctuation c

/-- A letter of a host's label in the wide sense. -/
def isHostLetter (c : Char) : Bool :=
  !isSeparator c && !isBoundary c

/-- The text begins with the given lower-case ASCII text in any case; the rest. -/
def dropLeadFolded? : Text → Text → Option Text
  | [], s => some s
  | _ :: _, [] => none
  | p :: ps, c :: s => if foldChar c == p then dropLeadFolded? ps s else none

/-- A letter that is one of ASCII where case does not matter, or a digit. -/
def isPlainAlphanum (c : Char) : Bool :=
  (foldChar c).isAlphanum

/-! ### Hosts -/

/-- A label in the ASCII form of an international one. -/
def isEncodedLabel (label : Text) : Bool :=
  match dropLeadFolded? "xn--".toList label with
  | some form =>
    !form.isEmpty && form.length ≤ 59 && form.all fun c => isPlainAlphanum c || c == '-'
  | none => false

/-- A label of a host: at most 63 letters and hyphens, with letters at its ends. -/
def isHostLabel (label : Text) : Bool :=
  isEncodedLabel label ||
    (label.length ≤ 63 && label.head?.any isHostLetter && label.getLast?.any isHostLetter)

/-- A label that may stand last in a host without a scheme: it has no hyphen. -/
def isRootLabel (label : Text) : Bool :=
  isEncodedLabel label || (!label.isEmpty && label.length ≤ 63 && label.all isHostLetter)

/-- A character of a host's label. -/
def isLabelChar (c : Char) : Bool :=
  isHostLetter c || c == '-'

/-- The labels at the start of a text, as far as points join them, and the rest. -/
def hostLabels : (fuel : Nat) → Text → List Text × Text
  | 0, s => ([], s)
  | fuel + 1, s =>
    let label := s.takeWhile isLabelChar
    let rest := s.drop label.length
    match rest with
    | '.' :: c :: _ =>
      if isLabelChar c then
        let (labels, rest) := hostLabels fuel (rest.drop 1)
        (label :: labels, rest)
      else ([label], rest)
    | _ => ([label], rest)

/-- A host may end before this text. -/
def endsHost : Text → Bool
  | [] => true
  | ':' :: c :: _ => !isDecimalDigit c
  | '.' :: [] => true
  | '.' :: c :: _ => isBoundary c && c != '-'
  | c :: _ => (isSeparator c || isBoundary c) && c != '-' && c != '_'

/-- The digits write a number that is no larger than as many digits of the limit; those up to the
    one that decides are ASCII. -/
def isWithin : (limit digits : Text) → Bool
  | l :: limit, d :: digits => (d.isDigit && d < l) || (d == l && isWithin limit digits)
  | _, _ => true

/-- What follows the port at the start of a text, if one is written there; a port is below 65536
    and has no more digits than it needs, unless they are at most four. -/
def afterPort? : Text → Option Text
  | ':' :: s =>
    let digits := s.takeWhile isDecimalDigit
    let fits := digits.length ≤ 4 ||
      (digits.length == 5 && digits.head? != some '0' && isWithin "65535".toList digits)
    if !digits.isEmpty && fits then some (s.drop digits.length) else none
  | _ => none

/-- What follows a host whose labels are as required; `port` if a port may follow it. -/
def afterHost? (valid : List Text → Bool) (port : Bool) (s : Text) : Option Text :=
  let (labels, rest) := hostLabels (s.length + 1) s
  if valid labels then
    let rest := if port then (afterPort? rest).getD rest else rest
    if endsHost rest then some rest else none
  else none

/-- The largest number of characters of a user name. -/
def userLimit : Nat :=
  50

/-- What follows a user name and its at sign, if they stand at the start of a text. A password with
    its colon counts as part of the name. -/
def afterUser? (s : Text) : Option Text :=
  let name := s.takeWhile fun c => !isSpaceOrControl c && !("@/[]()".toList.contains c)
  match s.drop name.length with
  | '@' :: rest => if name.isEmpty || userLimit < name.length then none else some rest
  | _ => none

/-- What follows a host with or without a user name before it. -/
def afterAuthority? (valid : List Text → Bool) (s : Text) : Option Text :=
  ((afterUser? s).bind (afterHost? valid true)) <|> afterHost? valid true s

/-! ### Paths -/

/-- What follows a bracketed part of a path; the opening bracket is read already. -/
def afterBracketed? (close : Char) (s : Text) : Option Text :=
  match s.dropWhile fun c => !isSpaceOrControl c && c != close with
  | c :: rest => if c == close then some rest else none
  | [] => none

/-- What follows a quoted part of a path; the opening quote is read already. -/
def afterQuotedPart? (quote : Char) (s : Text) : Option Text :=
  if s.head? == some quote then none else afterBracketed? quote s

/-- A mark such as a comma belongs to a path only if the path goes on after it. -/
def goesOn : Text → Bool
  | [] => false
  | c :: _ => !isSpaceOrControl c

/-- What follows the next piece of a path. -/
def afterPathPiece? : Text → Option Text
  | [] => none
  | c :: s =>
    if isSpaceOrControl c || isSeparator c then none
    else match c with
    | '[' => afterBracketed? ']' s
    | '(' => afterBracketed? ')' s
    | '{' => afterBracketed? '}' s
    | '"' => afterQuotedPart? '"' s
    | '\'' => afterQuotedPart? '\'' s <|>
      (if s.head?.any fun d => isHostLetter d || d == '-' then some s else none)
    | '.' =>
      let rest := s.dropWhile (· == '.')
      if rest.length < s.length then
        match rest with
        | d :: rest => if isPlainAlphanum d || "%/&".toList.contains d then some rest else none
        | [] => none
      else if goesOn s then some s else none
    | '-' => some (s.dropWhile (· == '-'))
    | ',' => if goesOn s then some s else none
    | ';' => if goesOn s then some s else none
    | '!' =>
      let rest := s.dropWhile (· == '!')
      if goesOn rest then some rest else none
    | '?' => if goesOn s && s.head? != some '?' then some s else none
    | ')' => none
    | ']' => none
    | '}' => none
    | _ => some s

/-- What follows the pieces of a path. -/
def afterPieces : (fuel : Nat) → Text → Text
  | 0, s => s
  | fuel + 1, s =>
    match afterPathPiece? s with
    | some rest => afterPieces fuel rest
    | none => s

/-- What follows the path, search and fragment of a URL. -/
def afterPath : Text → Text
  | [] => []
  | c :: s =>
    if c == '/' || c == '?' || c == '#' then
      let rest := afterPieces s.length s
      if rest.length < s.length || c == '/' then rest else c :: s
    else c :: s

/-! ### Schemes -/

/-- The schemes that are recognized. -/
inductive Scheme where
  | http
  | https
  | ftp
  | slashes
  | mailto
deriving DecidableEq, Repr

/-- How a scheme is written. -/
def Scheme.text : Scheme → Text
  | .http => "http:".toList
  | .https => "https:".toList
  | .ftp => "ftp:".toList
  | .slashes => "//".toList
  | .mailto => "mailto:".toList

/-- The scheme at the start of a text, in any case. -/
def scheme? (s : Text) : Option Scheme :=
  [.http, .https, .ftp, .slashes, .mailto].find? fun (k : Scheme) =>
    (dropLeadFolded? k.text s).isSome

/-- A character of an e-mail address before its at sign. -/
def isMailboxChar (c : Char) : Bool :=
  isPlainAlphanum c || "-;:&=+$,._".toList.contains c

/-- The largest number of characters of a mailbox name. -/
def mailboxLimit : Nat :=
  64

/-- What follows a mailbox name and its at sign; the name may hold quotes, but not as its first
    character. -/
def afterMailbox? (s : Text) : Option Text :=
  let name := s.takeWhile fun c => isMailboxChar c || c == '"'
  match s.drop name.length with
  | '@' :: rest =>
    if name.head?.any isMailboxChar && name.length ≤ mailboxLimit then some rest else none
  | _ => none

/-- The labels make a host with at least two levels, or the local one. -/
def isPublicHost (labels : List Text) : Bool :=
  (match labels with
    | [label] => dropLeadFolded? "localhost".toList label == some []
    | _ => false) ||
  (2 ≤ labels.length && labels.dropLast.all isHostLabel && labels.getLast?.any isRootLabel)

/-- What follows an address whose scheme is read already. `before` is the character in front of the
    scheme: two slashes after a colon or a slash belong to a misspelt scheme. -/
def afterScheme? (before : Option Char) : Scheme → Text → Option Text
  | .slashes, s =>
    if before == some ':' || before == some '/' then none
    else (afterAuthority? isPublicHost s).map afterPath
  | .mailto, s => (afterMailbox? s).bind (afterHost? (·.all isHostLabel) false)
  | _, s => do
    let s ← Text.dropLead? ['/', '/'] s
    let rest ← afterAuthority? (·.all isHostLabel) s
    return afterPath rest

/-- What follows the address that a text begins with, whose scheme is given. In a scheme no other
    letter stands for one of ASCII. -/
def afterAddress? (before : Option Char) (k : Scheme) (s : Text) : Option Text :=
  let (scheme, rest) := s.splitAt k.text.length
  if lower scheme == k.text then afterScheme? before k rest else none

/-! ### Top-level domains -/

/-- The generic top-level domains that are recognized. -/
def genericDomains : List Text :=
  ["biz".toList, "com".toList, "edu".toList, "gov".toList, "net".toList, "org".toList,
    "pro".toList, "web".toList, "xxx".toList, "aero".toList, "asia".toList, "coop".toList,
    "info".toList, "museum".toList, "name".toList, "shop".toList, "рф".toList]

/-- The second letters of the country domains with a given first letter. -/
def countryLetters : List (Char × String) :=
  [('a', "cdefgilmnoqrstuwxz"), ('b', "abdefghijmnorstvwyz"), ('c', "acdfghiklmnoruvwxyz"),
    ('d', "ejkmoz"), ('e', "cegrstu"), ('f', "ijkmor"), ('g', "abdefghilmnpqrstuwy"),
    ('h', "kmnrtu"), ('i', "delmnoqrst"), ('j', "emop"), ('k', "eghimnprwyz"),
    ('l', "abcikrstuvy"), ('m', "acdeghklmnopqrstuvwxyz"), ('n', "acefgilopruz"), ('o', "m"),
    ('p', "aefghklmnrstwy"), ('q', "a"), ('r', "eosuw"), ('s', "abcdeghijklmnortuvxyz"),
    ('t', "cdfghjklmnortvwz"), ('u', "agksyz"), ('v', "aceginu"), ('w', "fs"), ('y', "et"),
    ('z', "amw")]

/-- The label is a top-level domain. -/
def isTopLevel (label : Text) : Bool :=
  let l := label.map foldChar
  genericDomains.contains l || isEncodedLabel label ||
    (match l with
      | [a, b] => ((countryLetters.lookup a).getD "").toList.contains b
      | _ => false)

/-- A number of an IP address, as it is written. -/
def isOctet : Text → Bool
  | [a] => a.isDigit
  | [a, b] => a.isDigit && b.isDigit
  | [a, b, c] => a.isDigit && b.isDigit && c.isDigit && Text.digitsValue [a, b, c] < 256
  | _ => false

/-- The labels make the host of an e-mail address: an IP address or a name under a top-level
    domain. -/
def isMailHost (labels : List Text) : Bool :=
  (labels.length == 4 && labels.all isOctet) ||
    (2 ≤ labels.length && labels.dropLast.all isHostLabel && labels.getLast?.any isTopLevel)

/-- What follows the e-mail address at the start of a text. -/
def afterMail? (s : Text) : Option Text :=
  (afterMailbox? s).bind (afterHost? isMailHost false)

/-! ### Searching -/

/-- An address in a text: where it begins and ends, and its scheme, which is `mailto` for an e-mail
    address that is written without one. -/
structure Found where
  start : Nat
  stop : Nat
  scheme : Scheme
deriving DecidableEq, Repr

/-- A character that a scheme may follow: a space, a control character or punctuation other than an
    underscore. -/
def precedesScheme (c : Char) : Bool :=
  c != '_' && (isSeparator c || isBoundary c)

/-- A character that an e-mail address without a scheme may follow. -/
def precedesMail (c : Char) : Bool :=
  isSeparator c || c == '"' || c == '(' || isSpaceOrControl c

/-- The longer of two addresses that begin at one place, and the first of two that are as long. -/
def longer? : Option Found → Option Found → Option Found
  | some a, some b => some (if a.stop < b.stop then b else a)
  | a, b => a <|> b

/-- The addresses that begin in a text, whose first character stands at place `i` after `before`.
    Schemes and e-mail addresses are looked for side by side, each kind at the start of the text and
    after the characters that may precede it. A scheme and an e-mail address take up their own
    characters, so the next of the same kind has a character between; `inScheme` and `inMail` count
    the places until then. -/
def candidates (before : Option Char) (inScheme inMail i : Nat) : Text → List Found
  | [] => []
  | c :: s =>
    let here := c :: s
    let found (after : Text) (k : Scheme) : Found := ⟨i, i + (here.length - after.length), k⟩
    let scheme := if inScheme == 0 && before.all precedesScheme then scheme? here else none
    let schemed := scheme.bind fun k => (afterAddress? before k here).map (found · k)
    let mail :=
      if inMail == 0 && before.all precedesMail then (afterMail? here).map (found · .mailto)
      else none
    let inScheme := scheme.elim (inScheme - 1) (·.text.length)
    let inMail := mail.elim (inMail - 1) fun f => f.stop - f.start
    match longer? schemed mail with
    | some f => f :: candidates (some c) inScheme inMail (i + 1) s
    | none => candidates (some c) inScheme inMail (i + 1) s

/-- The addresses that begin where the one before has ended or later; the last one before them ended
    at place `done`. -/
def apart (done : Nat) : List Found → List Found
  | [] => []
  | f :: rest => if f.start < done then apart done rest else f :: apart f.stop rest

/-- The addresses in a text, from left to right. -/
def findAll (s : Text) : List Found :=
  apart 0 (candidates none 0 0 0 s)

/-- A scheme stands in the text where an address may begin. -/
def hasScheme (before : Option Char) : Text → Bool
  | [] => false
  | c :: s =>
    (before.all precedesScheme && (scheme? (c :: s)).isSome) || hasScheme (some c) s

/-- A top-level domain stands at the start of a text, and a boundary or the end after it. -/
def leadsTopLevel (s : Text) : Bool :=
  let ends (rest : Text) : Bool := rest.head?.all fun c => isBoundary c || c == '>'
  let named (n : Nat) : Bool :=
    n ≤ s.length && isTopLevel (s.take n) && ends (s.drop n)
  (List.range 64).any named

/-- A number of at most three digits and a point stand at the start of a text. -/
def leadsShortNumber (s : Text) : Bool :=
  let digits := s.takeWhile isDecimalDigit
  !digits.isEmpty && digits.length ≤ 3 && (s.drop digits.length).head? == some '.'

/-- The text looks as if it might hold a host: it names the local one, or has `www` or a short
    number or a top-level domain next to a point. -/
def hasHost : Text → Bool
  | [] => false
  | c :: s =>
    (dropLeadFolded? "localhost".toList (c :: s)).isSome ||
      (dropLeadFolded? "www.".toList (c :: s)).isSome ||
      (c == '.' && (leadsShortNumber s || leadsTopLevel s)) ||
      hasHost s

/-- The text is worth searching for addresses at all. -/
def mayHold (s : Text) : Bool :=
  hasScheme none s || s.any (· == '@') || hasHost s

end Docpress.Markdown.BareLink
