import Docpress.Text.Basic
/-!
Hiding the slashes after `http:` and `https:` while Markdown is rendered, so that a bare URL is not
made a link, and showing them again afterwards.
-/

namespace Docpress.Url

/-- The schemes whose slashes are hidden, the longer one first. -/
def hiddenSchemes : List Text :=
  ["https".toList, "http".toList]

/-- How the slashes are written while they are hidden. -/
def hiddenSlashes : Text :=
  ":\\/\\/".toList

/-- The two forms in which hidden slashes come back: as they were written, and with the
    backslashes percent-encoded, as they are in a link's target. -/
def hiddenForms : List Text :=
  [hiddenSlashes, ":%5C/%5C/".toList]

/-- Give a hidden scheme followed by one of the given separators the new separator. -/
def separatorTo (new : Text) (separators : List Text) (here : Text) : Option (Text × Nat) :=
  hiddenSchemes.findSome? fun scheme => separators.findSome? fun separator =>
    if Text.startsWith here (scheme ++ separator) then
      some (scheme ++ new, scheme.length + separator.length - 1)
    else none

/-- Hide the slashes of each URL. -/
def hideSlashes (s : Text) : Text :=
  Text.substitute (separatorTo hiddenSlashes ["://".toList]) s

/-- Show the hidden slashes of each URL again, in either form. -/
def showSlashes (s : Text) : Text :=
  Text.substitute (separatorTo "://".toList hiddenForms) s

end Docpress.Url
