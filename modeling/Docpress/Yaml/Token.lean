import Docpress.Text.Basic
import Docpress.Yaml.Fault
/-!
The tokens of a YAML document.
-/

namespace Docpress.Yaml

/-- The text of a scalar. A text with half of a surrogate pair, which an escape can write, is marked
    as broken, and a replacement character stands for the half. -/
structure ScalarText where
  chars : Text
  broken : Bool := false
deriving DecidableEq, Repr

/-- The text of code points. -/
def ScalarText.ofCodes (codes : List Nat) : ScalarText :=
  { chars := .ofCodes codes, broken := codes.any isSurrogate }

/-- A directive: the version of the language, a shorthand for tags, or one that is ignored. -/
inductive Directive where
  | version (major minor : Nat)
  | shorthand (handle lead : Text)
  | other
deriving DecidableEq, Repr

/-- What a token is. -/
inductive TokenKind where
  | streamStart
  | streamEnd
  | directive (d : Directive)
  | documentStart
  | documentEnd
  | blockSequenceStart
  | blockMappingStart
  | blockEnd
  | flowSequenceStart
  | flowSequenceEnd
  | flowMappingStart
  | flowMappingEnd
  | key
  | value
  | blockEntry
  | flowEntry
  | alias (anchor : Text)
  | anchor (name : Text)
  | tag (handle : Option Text) (suffix : Text)
  | scalar (s : ScalarText) (plain : Bool)
deriving DecidableEq, Repr

/-- The name of a token in reports. -/
def TokenKind.name : TokenKind → Text
  | .streamStart => "<stream start>".toList
  | .streamEnd => "<stream end>".toList
  | .directive _ => "<directive>".toList
  | .documentStart => "<document start>".toList
  | .documentEnd => "<document end>".toList
  | .blockSequenceStart => "<block sequence start>".toList
  | .blockMappingStart => "<block mapping start>".toList
  | .blockEnd => "<block end>".toList
  | .flowSequenceStart => ['[']
  | .flowSequenceEnd => [']']
  | .flowMappingStart => ['{']
  | .flowMappingEnd => ['}']
  | .key => ['?']
  | .value => [':']
  | .blockEntry => ['-']
  | .flowEntry => [',']
  | .alias _ => "<alias>".toList
  | .anchor _ => "<anchor>".toList
  | .tag _ _ => "<tag>".toList
  | .scalar _ _ => "<scalar>".toList

/-- A token, and where it starts and stops. -/
structure Token where
  kind : TokenKind
  start : Mark
  stop : Mark
deriving DecidableEq, Repr

end Docpress.Yaml
