import Docpress.Markdown.Place
/-!
Running text and its pieces. The text is read once from left to right; the content of a link is
read as a range of its own, and the description of an image as a text of its own.
-/

namespace Docpress.Markdown

/-- The state of reading running text. -/
structure Reader where
  place : Place
  /-- Characters that stand for themselves and are not yet a piece, in reverse. -/
  pending : Text := []
  /-- The pieces so far, in reverse, and their number. -/
  spans : List Span := []
  count : Nat := 0
  /-- The delimiters so far, in reverse. -/
  delimiters : List Delimiter := []
  /-- How many links are open, raw HTML ones counted. -/
  links : Int := 0
  memo : Memo := {}

/-- Pass over `n` characters. -/
def Reader.advance (r : Reader) (n : Nat) : Reader :=
  { r with place := r.place.advance n }

/-- Make the pending characters a piece. -/
def Reader.flush (r : Reader) : Reader :=
  if r.pending.isEmpty then r
  else { r with pending := [], spans := .text r.pending.reverse :: r.spans, count := r.count + 1 }

/-- Add a piece after what is pending. -/
def Reader.push (r : Reader) (span : Span) : Reader :=
  let r := r.flush
  { r with spans := span :: r.spans, count := r.count + 1 }

/-- Let the next `n` characters stand for themselves. -/
def Reader.take (r : Reader) (n : Nat) : Reader :=
  { r with pending := (r.place.rest.take n).reverse ++ r.pending }.advance n

/-- The reader's scope is complete: its pieces with their emphasis in place. -/
def Reader.finish (r : Reader) : List Span :=
  let r := r.flush
  resolveEmphasis r.spans.reverse r.delimiters.reverse

/-- Add a mark that may be part of emphasis. -/
def Reader.pushMark (r : Reader) (written : Text) (mark : Char) (length : Nat)
    (flanks : Bool × Bool) : Reader :=
  let r := r.push (.text written)
  { r with delimiters := ⟨mark, length, r.count - 1, flanks.1, flanks.2, none⟩ :: r.delimiters }

/-- Add `n` marks of the same run. -/
def Reader.pushMarks (written : Text) (mark : Char) (length : Nat) (flanks : Bool × Bool) :
    (n : Nat) → Reader → Reader
  | 0, r => r
  | n + 1, r =>
    Reader.pushMarks written mark length flanks n (r.pushMark written mark length flanks)

/-- Read the run of delimiters at the place. -/
def Reader.readMarks (r : Reader) (mark : Char) : Reader :=
  let run := (r.place.rest.takeWhile (· == mark)).length
  let before := r.place.back.headD ' '
  let after := (r.place.rest.drop run).headD ' '
  let flanks := flanks (mark != '_') before after
  if mark == '~' then
    if run < 2 then r.take 1
    else
      let r' := if run % 2 == 1 then r.push (.text [mark]) else r
      (Reader.pushMarks [mark, mark] mark 0 flanks (run / 2) r').advance run
  else (Reader.pushMarks [mark] mark run flanks run r).advance run

/-- Read a line end: two spaces before it make it one to be kept, and spaces before it are
    dropped. -/
def Reader.readLineEnd (r : Reader) (rest : Text) : Reader :=
  let r' := match r.pending with
    | ' ' :: ' ' :: pending =>
      { r with pending := pending.dropWhile (· == ' ') }.push .hardBreak
    | ' ' :: pending => { r with pending }.push .softBreak
    | _ => r.push .softBreak
  r'.advance (lineEndLength rest)

/-- Read an escape after its backslash. -/
def Reader.readEscape (r : Reader) : Text → Reader
  | [] => r.take 1
  | '\n' :: rest => (r.push .hardBreak).advance (1 + lineEndLength rest)
  | c :: _ => (r.push (.literal (if isAsciiPunctuation c then [c] else ['\\', c]))).advance 2

/-- Read the code span at the place, or the backticks themselves. -/
def Reader.readCode (r : Reader) : Reader :=
  let ((code, size), memo) := codeAt r.memo r.place
  let r := { r with memo }
  match code with
  | some code => (r.push (.code code)).advance size
  | none => r.take size

/-- Add a link to a URL that shows another form of it, which needs no reading. -/
def Reader.pushPlainLink (r : Reader) (url written : Text) : Reader :=
  ((r.push (.openLink ⟨url, [], Url.isBroken written⟩)).push (.text (Url.display written))).push
    .closeLink

/-- Read a link in angle brackets or a raw tag. -/
def Reader.readAngle (r : Reader) : Reader :=
  match angleLinkAt? r.place.rest, rawTagAt? r.place with
  | some (url, inner), _ => (r.pushPlainLink url inner).advance (inner.length + 2)
  | none, some tag =>
    let r := (r.push (.html tag)).advance tag.length
    if Html.opensLink tag then { r with links := r.links + 1 }
    else if Html.closesLink tag then { r with links := r.links - 1 }
    else r
  | none, none => r.take 1

/-- Read a character reference. -/
def Reader.readReference (r : Reader) : Reader :=
  match referenceAt? r.place with
  | some (text, size) => (r.push (.literal text)).advance size
  | none => r.take 1

/-- Read the colon of a bare URL whose scheme is pending. -/
def Reader.readColon (r : Reader) : Reader :=
  if 0 < r.links then r.take 1
  else match bareUrlAt? r.pending r.place with
    | some (name, url) =>
      ({ r with pending := r.pending.drop name.length }.pushPlainLink (Url.target url) url).advance
        (url.length - name.length)
    | none => r.take 1

/-- Enter the range of a link's label. -/
def Reader.enter (r : Reader) (label : Text) : Reader :=
  { place := (r.place.advance 1).narrow label.length, links := r.links + 1, memo := r.memo }

/-- Add a link with its content, which was read by `inner`. -/
def Reader.leave (r : Reader) (hit : LinkHit) (inner : Reader) : Reader :=
  let r := r.push (.openLink hit.target)
  let content := inner.finish
  let r := { r with
    spans := content.reverse ++ r.spans, count := r.count + content.length
    links := inner.links - 1, memo := inner.memo }
  (r.push .closeLink).advance hit.size

/-- The image with its description, whose pieces are given. -/
def Span.ofImage (target : LinkTarget) (description : List Span) : Span :=
  .image { target with broken := description.any Span.isBroken } (description.flatMap Span.alt)
    (description.flatMap Span.innerAlt)

/-- Add an image with its description. -/
def Reader.pushImage (r : Reader) (hit : LinkHit) (description : List Span) : Reader :=
  (r.push (.ofImage hit.target description)).advance hit.size

/-- Read to the end of the range. `room` is how many more levels of nesting are read; each step
    takes one unit of fuel, and the text's length is enough. -/
def Reader.read (refs : References) : (fuel room : Nat) → Reader → Reader
  | 0, _, r => r
  | _, 0, r => r.take r.place.rest.length
  | fuel + 1, room + 1, r =>
    match r.place.rest with
    | [] => r
    | c :: rest =>
      if c == '\n' then Reader.read refs fuel (room + 1) (r.readLineEnd rest)
      else if c == '\\' then Reader.read refs fuel (room + 1) (r.readEscape rest)
      else if c == '\x60' then Reader.read refs fuel (room + 1) r.readCode
      else if c == '*' || c == '_' || c == '~' then
        Reader.read refs fuel (room + 1) (r.readMarks c)
      else if c == '[' then
        let (hit, memo) :=
          linkAt? (skipPiece refs r.pending (0 < r.links) (room + 1)) refs r.place r.memo
        let r := { r with memo }
        match hit with
        | some hit =>
          Reader.read refs fuel (room + 1)
            (r.leave hit (Reader.read refs fuel room (r.enter hit.label)))
        | none => Reader.read refs fuel (room + 1) (r.take 1)
      else if c == '!' then
        let (hit, memo) :=
          imageAt? (skipPiece refs r.pending (0 < r.links) (room + 1)) refs r.place r.memo
        let r := { r with memo }
        match hit with
        | some hit =>
          let description := Reader.read refs fuel 20 { place := .start hit.label }
          Reader.read refs fuel (room + 1) (r.pushImage hit (joinTexts description.finish))
        | none => Reader.read refs fuel (room + 1) (r.take 1)
      else if c == '<' then Reader.read refs fuel (room + 1) r.readAngle
      else if c == '&' then Reader.read refs fuel (room + 1) r.readReference
      else if c == ':' then Reader.read refs fuel (room + 1) r.readColon
      else Reader.read refs fuel (room + 1) (r.take 1)

/-- How deeply brackets may be nested. -/
def maxNesting : Nat := 20

/-- The pieces of running text. -/
def inlineSpans (refs : References) (s : Text) : List Span :=
  joinTexts (Reader.read refs (s.length + 1) maxNesting { place := .start s }).finish

end Docpress.Markdown
