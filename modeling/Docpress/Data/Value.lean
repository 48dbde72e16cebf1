import Docpress.Data.Binary64
import Docpress.Text.Utf8
/-!
The values that data files hold.
-/

namespace Docpress

/-- A value. The keys of a mapping are values, too. -/
inductive Value where
  | null
  | flag (b : Bool)
  | whole (n : Int)
  | real (x : Binary64)
  | text (s : Text)
  /-- A text that holds half of a surrogate pair, and so no Unicode. -/
  | brokenText
  | bytes (content : List Nat)
  | date
  | moment
  | list (items : List Value)
  | mapping (entries : List (Value × Value))
  | set (members : List Value)
deriving Repr, Inhabited

/-- The name of the kind of a value, as messages give it. -/
def Value.kind : Value → Text
  | .null => "NoneType".toList
  | .flag _ => "bool".toList
  | .whole _ => "int".toList
  | .real _ => "float".toList
  | .text _ => "str".toList
  | .brokenText => "str".toList
  | .bytes _ => "bytes".toList
  | .date => "date".toList
  | .moment => "datetime".toList
  | .list _ => "list".toList
  | .mapping _ => "dict".toList
  | .set _ => "set".toList

/-- The value counts as nothing: null, off, zero, or empty. -/
def Value.isBlank : Value → Bool
  | .null => true
  | .flag b => !b
  | .whole n => n == 0
  | .real x => x.isZero
  | .text s => s.isEmpty
  | .bytes content => content.isEmpty
  | .list items => items.isEmpty
  | .mapping entries => entries.isEmpty
  | .set members => members.isEmpty
  | _ => false

/-- The value is a text. -/
def Value.isText : Value → Bool
  | .text _ => true
  | .brokenText => true
  | _ => false

/-- The value can be the key of a mapping. -/
def Value.isKey : Value → Bool
  | .list _ => false
  | .mapping _ => false
  | .set _ => false
  | _ => true

/-- The value that a mapping gives to a name: of several entries with one key the last counts. -/
def valueOf? (name : Text) (entries : List (Value × Value)) : Option Value :=
  entries.foldl (fun found (key, value) =>
    match key with
    | .text s => if s == name then some value else found
    | _ => found) none

end Docpress
