import Docpress.Text.Blank
import Docpress.Text.Case
/-!
The parts of a URL. Reading is lenient: every text has parts, and putting them together again gives
the text without the blanks around it, up to an empty user name or port.
-/

namespace Docpress.Url

/-- The parts of a URL. The protocol keeps its colon, the search its question mark and the fragment
    its number sign; an absent part is empty. -/
structure Parts where
  protocol : Text := []
  slashes : Bool := false
  user : Text := []
  host : Text := []
  port : Text := []
  path : Text := []
  search : Text := []
  fragment : Text := []
deriving DecidableEq, Repr

/-- What stands before the host. -/
def Parts.lead (p : Parts) : Text :=
  p.protocol ++ (if p.slashes then ['/', '/'] else []) ++
    if p.user.isEmpty then [] else p.user ++ ['@']

/-- What stands after the host. -/
def Parts.tail (p : Parts) : Text :=
  (if p.port.isEmpty then [] else ':' :: p.port) ++ p.path ++ p.search ++ p.fragment

/-- The URL that the parts make, with `f` applied to what is written: a host with a colon in it is
    a number and stands in brackets. -/
def Parts.formatWith (f : Text → Text) (p : Parts) : Text :=
  f p.lead ++ (if p.host.any (· == ':') then '[' :: f p.host ++ [']'] else f p.host) ++ f p.tail

/-- The URL that the parts make. -/
def Parts.format (p : Parts) : Text :=
  p.formatWith id

/-- A character of a protocol's name. -/
def isProtocolChar (c : Char) : Bool :=
  c.isAlphanum || c == '.' || c == '+' || c == '-'

/-- The protocol with its colon, and the rest. -/
def splitProtocol (s : Text) : Text × Text :=
  match s.dropWhile isProtocolChar with
  | ':' :: rest =>
    let name := s.takeWhile isProtocolChar
    if name.isEmpty then ([], s) else (name ++ [':'], rest)
  | _ => ([], s)

/-- Protocols after which a host follows only behind two slashes. -/
def slashedProtocols : List Text :=
  ["http:".toList, "https:".toList, "ftp:".toList, "gopher:".toList, "file:".toList]

/-- A character that ends the part in which a user name may stand. -/
def endsAuthority (c : Char) : Bool :=
  c == '/' || c == '?' || c == '#'

/-- A character that no host holds. -/
def endsHost (c : Char) : Bool :=
  "%/?;#'\x7b\x7d|\\^\x60<>\" \r\n\t".toList.contains c

/-- The text before the last at sign and the text after it. -/
def splitLastAt? (s : Text) : Option (Text × Text) :=
  if s.any (· == '@') then
    let after := (s.reverse.takeWhile (· != '@')).reverse
    some (s.take (s.length - after.length - 1), after)
  else none

/-- The host without a port at its end, and that port. -/
def splitPort (host : Text) : Text × Text :=
  let digits := (host.reverse.takeWhile Char.isDigit).reverse
  let lead := host.take (host.length - digits.length)
  if lead.getLast? == some ':' then (lead.dropLast, digits) else (host, [])

/-- A character of a host's label. -/
def isLabelChar (c : Char) : Bool :=
  c.isAlphanum || c == '+' || c == '_' || c == '-'

/-- A label is at most 63 characters long and holds only label characters and non-ASCII ones; one
    that is all ASCII and one that is not are held to the same length. -/
def isLabel (label : Text) : Bool :=
  label.length ≤ 63 && label.all fun c => isLabelChar c || 127 < c.toNat

/-- The host up to its first bad label, and what is cut off with the rest of that label. -/
def cutHost : (before : List Text) → List Text → Text × Text
  | before, [] => (Text.join ['.'] before, [])
  | before, label :: labels =>
    if label.isEmpty || isLabel label then cutHost (before ++ [label]) labels
    else
      let start := (label.take 63).takeWhile isLabelChar
      (Text.join ['.'] (before ++ [start]),
        Text.join ['.'] (label.drop start.length :: labels))

/-- Set host and port from the text before the path, and return what is cut off it. -/
def Parts.withHost (p : Parts) (host : Text) : Parts × Text :=
  let (name, port) := splitPort host
  if name.head? == some '[' && name.getLast? == some ']' then
    let name := if 255 < name.length then [] else name
    ({ p with host := (name.drop 1).dropLast, port }, [])
  else
    let (name, cut) := cutHost [] (Text.splitBy (· == '.') name)
    ({ p with host := if 255 < name.length then [] else name, port }, cut)

/-- Read the authority at the start of a text: user, host and port. -/
def Parts.withAuthority (p : Parts) (s : Text) : Parts × Text :=
  let span := s.takeWhile (!endsAuthority ·)
  let (p, s) := match splitLastAt? span with
    | some (user, after) => ({ p with user }, after ++ s.drop span.length)
    | none => (p, s)
  let host := s.takeWhile (!endsHost ·)
  let host := if host.getLast? == some ':' then host.dropLast else host
  let (p, cut) := p.withHost host
  (p, cut ++ s.drop host.length)

/-- Read path, search and fragment. -/
def Parts.withPath (p : Parts) (s : Text) : Parts :=
  let s' := s.takeWhile (· != '#')
  { p with
    path := s'.takeWhile (· != '?')
    search := s'.dropWhile (· != '?')
    fragment := s.dropWhile (· != '#') }

/-- The parts of a URL; two slashes begin a host, also without a protocol. -/
def Parts.ofText (url : Text) : Parts :=
  let (protocol, s) := splitProtocol (Text.trimBlank url)
  let hostless := protocol == "javascript:".toList
  let slashes := Text.startsWith s ['/', '/']
  let p : Parts := { protocol }
  if hostless then p.withPath s
  else if slashes then
    let (p, rest) := { p with slashes := true : Parts }.withAuthority (s.drop 2)
    p.withPath rest
  else if protocol.isEmpty || slashedProtocols.contains protocol then p.withPath s
  else
    let (p, rest) := p.withAuthority s
    p.withPath rest

end Docpress.Url
