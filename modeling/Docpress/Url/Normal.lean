import Docpress.Url.Parts
import Docpress.Url.Percent
import Docpress.Url.Punycode
/-!
The forms in which a URL is written into a document: as the target of a link and as its text, and
the check that a target may be used at all.
-/

namespace Docpress.Url

/-- A character that separates the labels of a host. -/
def isLabelSeparator (c : Char) : Bool :=
  c == '.' || c == '\u3002' || c == '\uff0e' || c == '\uff61'

/-- The labels of a host; of a text with an at sign only the part after the first one is a host. -/
def hostLabels (host : Text) : List Text :=
  Text.splitBy isLabelSeparator (match Text.splitBy (· == '@') host with
    | _ :: host :: _ => host
    | _ => host)

/-- Apply `f` to each label of a host; of a text with an at sign only the part after the first one
    is a host, and what follows a second one is dropped. -/
def mapLabels (f : Text → Option Text) (host : Text) : Option Text :=
  match Text.splitBy (· == '@') host with
  | user :: host :: _ => (labels host).map fun s => user ++ '@' :: s
  | _ => labels host
where
  labels (host : Text) : Option Text :=
    ((Text.splitBy isLabelSeparator host).mapM f).map (Text.join ['.'])

/-- A host with its international labels in ASCII. -/
def hostToAscii (host : Text) : Option Text :=
  mapLabels (fun label =>
    some (if label.any (126 < ·.toNat) then "xn--".toList ++ Punycode.encode label else label)) host

/-- A host with its international labels readable, if all of them are well formed. -/
def hostToUnicode (host : Text) : Option Text :=
  mapLabels (fun label => match Text.dropLead? "xn--".toList label with
    | some form => Punycode.decode? (lower form)
    | none => some label) host

/-- A label in ASCII stands for a text with half of a surrogate pair. -/
def labelIsBroken (label : Text) : Bool :=
  (Text.dropLead? "xn--".toList label).any fun form => Punycode.isBroken (lower form)

/-- The protocols whose hosts are recoded; a URL without protocol is recoded too. -/
def recodedProtocols : List Text :=
  [[], "http:".toList, "https:".toList, "mailto:".toList]

/-- There is a host, and the protocol is none that leaves it. -/
def Parts.isRecoded (p : Parts) : Bool :=
  !p.host.isEmpty && recodedProtocols.contains p.protocol

/-- Recode the host, unless the protocol is one that leaves it or it cannot be recoded. -/
def Parts.recode (f : Text → Option Text) (p : Parts) : Parts :=
  if p.isRecoded then { p with host := (f p.host).getD p.host } else p

/-- A URL as the target of a link. -/
def target (url : Text) : Text :=
  ((Parts.ofText url).recode hostToAscii).formatWith percentEncode

/-- A URL as the text of a link. -/
def display (url : Text) : Text :=
  percentDecode ((Parts.ofText url).recode hostToUnicode).format

/-- A URL as the text of a link is broken: its host is recoded, and one of the labels stands for a
    text with half of a surrogate pair. -/
def isBroken (url : Text) : Bool :=
  let p := Parts.ofText url
  p.isRecoded && (hostToUnicode p.host).isSome && (hostLabels p.host).any labelIsBroken

/-- The protocols that no link may have. -/
def forbiddenProtocols : List Text :=
  ["vbscript:".toList, "javascript:".toList, "file:".toList, "data:".toList]

/-- The data that a link may hold all the same: pictures of four kinds. -/
def allowedData : List Text :=
  ["data:image/gif;".toList, "data:image/png;".toList, "data:image/jpeg;".toList,
    "data:image/webp;".toList]

/-- A link may have this target. -/
def isAllowed (target : Text) : Bool :=
  let s := lower (Text.trimBlank target)
  !forbiddenProtocols.any (Text.startsWith s) || allowedData.any (Text.startsWith s)

end Docpress.Url
