import Docpress.Markdown.BareLink
import Docpress.Markdown.Delimiter
import Docpress.Html.Tag
import Docpress.Url.Normal
/-!
Reading running text from a place in it: what stands at the place, how far it reaches, and where
the label of a link ends. Nothing is written here.
-/

namespace Docpress.Markdown

/-- A place in running text. The text is read up to the end of a range, which a link's label
    narrows; code spans may look beyond it. -/
structure Place where
  pos : Nat
  /-- What precedes the place, the nearest character first. -/
  back : Text
  /-- What follows, up to the end of the range. -/
  rest : Text
  /-- What follows the range. -/
  beyond : Text

/-- The start of a text. -/
def Place.start (s : Text) : Place :=
  { pos := 0, back := [], rest := s, beyond := [] }

/-- The place `n` characters on. -/
def Place.advance (p : Place) (n : Nat) : Place :=
  { p with pos := p.pos + n, back := (p.rest.take n).reverse ++ p.back, rest := p.rest.drop n }

/-- The next `n` characters as a range of their own. -/
def Place.narrow (p : Place) (n : Nat) : Place :=
  { p with rest := p.rest.take n, beyond := p.rest.drop n ++ p.beyond }

/-- What is known about a text from reading it ahead: how far the piece at a place reaches, and,
    once a code span has found no end, where the last run of backticks of each length begins. -/
structure Memo where
  skips : List (Nat × Nat) := []
  runs : List (Nat × Nat) := []
  runsKnown : Bool := false

/-! ### Pieces without a label -/

/-- A character that no piece begins with and that ends no label. -/
def isOrdinary (c : Char) : Bool :=
  !("\n\\\x60[]!<&:".toList.contains c)

/-- A line end and the indentation of the next line: how many characters they are. -/
def lineEndLength (s : Text) : Nat :=
  1 + (s.takeWhile isIndent).length

/-- The length of the run of backticks at the start. -/
def runLength (s : Text) : Nat :=
  (s.takeWhile (· == '\x60')).length

/-- Look for a run of backticks of length `n` in the text, whose first `rest` characters belong to
    the range. Gives the text before the run, if it is there, and the runs of other lengths that
    were passed. -/
def findRun (n : Nat) : (fuel pos rest : Nat) → Text → Option Text × List (Nat × Nat)
  | 0, _, _, _ => (none, [])
  | fuel + 1, pos, rest, s =>
    let before := s.takeWhile (· != '\x60')
    let start := pos + before.length
    let s' := s.drop before.length
    if s'.isEmpty then (none, [])
    else
      let inRange := rest - before.length
      let size := max 1 (runLength (s'.take inRange))
      if size == n then (some before, [])
      else
        let (found, passed) := findRun n fuel (start + size) (inRange - size) (s'.drop size)
        (found.map fun code => before ++ s'.take size ++ code, passed ++ [(size, start)])

/-- The content of a code span: line ends become spaces, and a space is taken from both ends if
    both have one and there is anything else. -/
def codeContent (s : Text) : Text :=
  let s := s.map fun c => if c == '\n' then ' ' else c
  if s.head? == some ' ' && s.getLast? == some ' ' && s.any (· != ' ') then (s.drop 1).dropLast
  else s

/-- What stands at a run of backticks: a code span, or the run itself if nothing closes it. -/
def codeAt (memo : Memo) (p : Place) : (Option Text × Nat) × Memo :=
  let n := runLength p.rest
  if memo.runsKnown && (memo.runs.lookup n).getD 0 ≤ p.pos then ((none, n), memo)
  else
    let s := p.rest.drop n ++ p.beyond
    let (found, passed) := findRun n s.length (p.pos + n) (p.rest.length - n) s
    let memo := { memo with runs := passed ++ memo.runs }
    match found with
    | some code => ((some (codeContent code), n + code.length + n), memo)
    | none => ((none, n), { memo with runsKnown := true })

/-- The name of a scheme at the end of the pending text, which is given in reverse. -/
def schemeBefore? (pending : Text) : Option Text :=
  let name := (pending.takeWhile fun c => c.isAlphanum || "+.-".toList.contains c).reverse
  if name.head?.any Char.isAlpha then some name else none

/-- A bare URL whose scheme has been read already: the scheme's name and the URL. -/
def bareUrlAt? (pending : Text) (p : Place) : Option (Text × Text) :=
  if !Text.startsWith p.rest "://".toList then none
  else do
    let name ← schemeBefore? pending
    let s := (p.back.take name.length).reverse ++ p.rest ++ p.beyond
    let kind ← BareLink.scheme? s
    let after ← BareLink.afterAddress? none kind s
    let url := s.take (s.length - after.length)
    if url.length ≤ name.length then none
    else
      let url := Text.trimEnd (· == '*') url
      if Url.isAllowed (Url.target url) then some (name, url) else none

/-- A character of an e-mail address in angle brackets before the at sign. -/
def isMailboxAtom (c : Char) : Bool :=
  c.isAlphanum || ".!#$%&'*+/=?^_\x60\x7b|\x7d~-".toList.contains c

/-- A label of the host of an e-mail address in angle brackets. -/
def isMailLabel (label : Text) : Bool :=
  !label.isEmpty && label.length ≤ 63 && label.all (fun c => c.isAlphanum || c == '-') &&
    label.head? != some '-' && label.getLast? != some '-'

/-- The text between angle brackets is an e-mail address. -/
def isMailAddress (s : Text) : Bool :=
  let name := s.takeWhile isMailboxAtom
  match s.drop name.length with
  | '@' :: host => !name.isEmpty && (Text.splitBy (· == '.') host).all isMailLabel
  | _ => false

/-- The text between angle brackets is a URL with a scheme. -/
def isSchemeUrl : Text → Bool
  | [] => false
  | c :: s =>
    let name := s.takeWhile fun c => c.isAlphanum || "+.-".toList.contains c
    match s.drop name.length with
    | ':' :: rest =>
      c.isAlpha && 1 ≤ name.length && name.length ≤ 31 &&
        rest.all fun c => 32 < c.toNat && c != '<' && c != '>'
    | _ => false

/-- A link in angle brackets: its target and the text between the brackets. -/
def angleLinkAt? : Text → Option (Text × Text)
  | '<' :: s =>
    let inner := s.takeWhile fun c => c != '<' && c != '>'
    if (s.drop inner.length).head? != some '>' then none
    else
      let full := if isSchemeUrl inner then some inner
        else if isMailAddress inner then some ("mailto:".toList ++ inner) else none
      match full with
      | some url => if Url.isAllowed (Url.target url) then some (Url.target url, inner) else none
      | none => none
  | _ => none

/-- A raw HTML tag at the start of a text. -/
def rawTagAt? (p : Place) : Option Text :=
  match p.rest with
  | '<' :: c :: _ :: _ =>
    if c == '!' || c == '?' || c == '/' || c.isAlpha then
      (Html.tag? (p.rest ++ p.beyond)).map (·.1)
    else none
  | _ => none

/-- A character reference in running text: what it stands for, and how many characters it takes. -/
def referenceAt? (p : Place) : Option (Text × Nat) :=
  match p.rest, p.rest.drop 1 ++ p.beyond with
  | [_], _ => none
  | _, '#' :: s =>
    let digits := s.takeWhile Char.isAlphanum
    if (s.drop digits.length).head? == some ';' then
      (Html.referenceNumber? 7 6 digits).map fun n =>
        (if Html.isReferable n then [Char.ofNat n] else [Url.replacementChar], digits.length + 3)
    else none
  | _, s => do
    let name ← referenceBody? Char.isAlpha s
    let text ← Html.namedReference? name
    return (text, name.length + 2)

/-! ### Labels, links and images -/

/-- How to pass over the piece at a place: the number of its characters. -/
abbrev Skip := Place → Memo → Nat × Memo

/-- Find the bracket that closes a label, at nesting depth `depth`. If links may not be nested, a
    link within the label ends the search. -/
def findLabelEnd (skip : Skip) (nested : Bool) :
    (fuel depth : Nat) → Place → Memo → Option Place × Memo
  | 0, _, _, memo => (none, memo)
  | fuel + 1, depth, p, memo =>
    match p.rest with
    | [] => (none, memo)
    | c :: _ =>
      if c == ']' && depth == 1 then (some p, memo)
      else
        let depth := if c == ']' then depth - 1 else depth
        let (n, memo) := skip p memo
        if c == '[' && n != 1 && !nested then (none, memo)
        else
          findLabelEnd skip nested fuel (if c == '[' && n == 1 then depth + 1 else depth)
            (p.advance n) memo

/-- The outcome of reading a link's target in parentheses. -/
inductive Parenthesized where
  | found (target : LinkTarget) (rest : Text)
  /-- No closing parenthesis stands where it should. -/
  | unclosed (here : Text)
  /-- The text ends before any target. -/
  | ended

/-- Read a link's target after its opening parenthesis. -/
def parenthesized (s : Text) : Parenthesized :=
  let s := s.dropWhile isLinkSpace
  if s.isEmpty then .ended
  else
    let (url, s) := match destination? s with
      | some (written, rest) =>
        if Url.isAllowed (Url.target written) then (Url.target written, rest) else ([], s)
      | none => ([], s)
    let t := s.dropWhile isLinkSpace
    let (title, t) := match (if t.length < s.length then title? t else none) with
      | some (title, rest) => (title, rest.dropWhile isLinkSpace)
      | none => ([], t)
    match t with
    | ')' :: rest => .found { url, title } rest
    | _ => .unclosed t

/-- A link or an image: its label, its target and the number of its characters. -/
structure LinkHit where
  label : Text
  target : LinkTarget
  size : Nat

/-- Look up the target of a link by reference: by the label that stands at the place, or else by
    the link's own one, which ends at `labelEnd`. -/
def byReference (skip : Skip) (refs : References) (label : Text) (labelEnd here : Place)
    (memo : Memo) : Option (LinkTarget × Nat) × Memo :=
  if refs.isEmpty then (none, memo)
  else
    let own := (refs.lookup (normalLabel label)).map fun target => (target, labelEnd.pos + 1)
    if here.rest.head? == some '[' then
      let first := here.advance 1
      match findLabelEnd skip true first.rest.length 1 first memo with
      | (some close, memo) =>
        let other := first.rest.take (close.pos - first.pos)
        let name := if other.isEmpty then label else other
        ((refs.lookup (normalLabel name)).map fun target => (target, close.pos + 1), memo)
      | (none, memo) => (own, memo)
    else (own, memo)

/-- The link at an opening bracket. -/
def linkAt? (skip : Skip) (refs : References) (p : Place) (memo : Memo) : Option LinkHit × Memo :=
  let first := p.advance 1
  match findLabelEnd skip false first.rest.length 1 first memo with
  | (none, memo) => (none, memo)
  | (some close, memo) =>
    let label := first.rest.take (close.pos - first.pos)
    let after := close.advance 1
    let hit (found : Option (LinkTarget × Nat)) : Option LinkHit :=
      found.map fun (target, stop) => ⟨label, target, stop - p.pos⟩
    match after.rest with
    | '(' :: s =>
      match parenthesized s with
      | .found target rest => (some ⟨label, target, p.rest.length - rest.length⟩, memo)
      | .ended => (none, memo)
      | .unclosed here =>
        let (found, memo) := byReference skip refs label close
          (after.advance (after.rest.length - (here.length - 1))) memo
        (hit found, memo)
    | _ =>
      let (found, memo) := byReference skip refs label close after memo
      (hit found, memo)

/-- The image at an exclamation mark. -/
def imageAt? (skip : Skip) (refs : References) (p : Place) (memo : Memo) : Option LinkHit × Memo :=
  match p.rest with
  | '!' :: '[' :: _ =>
    let first := p.advance 2
    match findLabelEnd skip true first.rest.length 1 first memo with
    | (none, memo) => (none, memo)
    | (some close, memo) =>
      let label := first.rest.take (close.pos - first.pos)
      let after := close.advance 1
      match after.rest with
      | '(' :: s =>
        match parenthesized s with
        | .found target rest => (some ⟨label, target, p.rest.length - rest.length⟩, memo)
        | _ => (none, memo)
      | _ =>
        let (found, memo) := byReference skip refs label close after memo
        (found.map fun (target, stop) => ⟨label, target, stop - p.pos⟩, memo)
  | _ => (none, memo)

/-- The size of the piece at a place that is no ordinary character. `pending` is the text, in
    reverse, that was last read for good, and `inLink` tells whether it stands in a link. -/
def pieceSize (skip : Skip) (refs : References) (pending : Text) (inLink : Bool) (p : Place)
    (memo : Memo) : Nat × Memo :=
  match p.rest with
  | [] => (1, memo)
  | c :: s =>
    if c == '\n' then (lineEndLength s, memo)
    else if c == '\\' then
      (match s with
      | [] => 1
      | '\n' :: s => 1 + lineEndLength s
      | _ => 2, memo)
    else if c == '\x60' then
      let ((_, size), memo) := codeAt memo p
      (size, memo)
    else if c == '[' then
      let (hit, memo) := linkAt? skip refs p memo
      ((hit.map (·.size)).getD 1, memo)
    else if c == '!' then
      let (hit, memo) := imageAt? skip refs p memo
      ((hit.map (·.size)).getD 1, memo)
    else if c == '<' then
      match angleLinkAt? p.rest, rawTagAt? p with
      | some (_, inner), _ => (inner.length + 2, memo)
      | none, some tag => (tag.length, memo)
      | none, none => (1, memo)
    else if c == '&' then (((referenceAt? p).map (·.2)).getD 1, memo)
    else if c == ':' && !inLink then
      match bareUrlAt? pending p with
      | some (name, url) => (url.length - name.length, memo)
      | none => (1, memo)
    else (1, memo)

/-- Pass over the piece at a place, or over a run of ordinary characters. Below `room` further
    levels of brackets nothing is read any more, and the rest of the range is passed over. What has
    been passed over once is passed over in the same way again. -/
def skipPiece (refs : References) (pending : Text) (inLink : Bool) : (room : Nat) → Skip
  | 0, p, memo =>
    match memo.skips.lookup p.pos with
    | some stop => (stop - p.pos, memo)
    | none =>
      (p.rest.length + 1, { memo with skips := (p.pos, p.pos + p.rest.length + 1) :: memo.skips })
  | room + 1, p, memo =>
    match memo.skips.lookup p.pos with
    | some stop => (stop - p.pos, memo)
    | none =>
      let run := (p.rest.takeWhile isOrdinary).length
      let (size, memo) :=
        if 0 < run then (run, memo)
        else pieceSize (skipPiece refs pending inLink room) refs pending inLink p memo
      (size, { memo with skips := (p.pos, p.pos + size) :: memo.skips })

end Docpress.Markdown
