import Docpress.Data.Value
/-!
What can be wrong with options, and how it is reported.
-/

namespace Docpress

/-- What is wrong with the value of an option. -/
inductive Complaint where
  | notText
  | notUnicode
  | notFlag
  | unreadableFlag
  | notOptions
  | frozen
deriving DecidableEq, Repr

/-- The code of a complaint. -/
def Complaint.code : Complaint → Text
  | .notText => "string_type".toList
  | .notUnicode => "string_unicode".toList
  | .notFlag => "bool_type".toList
  | .unreadableFlag => "bool_parsing".toList
  | .notOptions => "model_type".toList
  | .frozen => "frozen_instance".toList

/-- The wording of a complaint. -/
def Complaint.wording : Complaint → Text
  | .notText => "Input should be a valid string".toList
  | .notUnicode =>
    "Input should be a valid string, unable to parse raw data as a unicode string".toList
  | .notFlag => "Input should be a valid boolean".toList
  | .unreadableFlag => "Input should be a valid boolean, unable to interpret input".toList
  | .notOptions => "Input should be a valid dictionary or instance of MarkdownConfig".toList
  | .frozen => "Instance is frozen".toList

/-- A complaint about the option at a place, which is given by the names that lead to it. -/
structure Issue where
  place : List Text
  complaint : Complaint
deriving DecidableEq, Repr

/-- An issue as one line. -/
def Issue.message (i : Issue) : Text :=
  Text.join ['.'] i.place ++ ": ".toList ++ i.complaint.code ++ ": ".toList ++ i.complaint.wording

/-- The same issue, found below a name. -/
def Issue.below (name : Text) (i : Issue) : Issue :=
  { i with place := name :: i.place }

/-- Why options are refused: a list of issues, or at once, because a path is not a text or the name
    of an option is not. -/
inductive OptionsError where
  | issues (found : List Issue)
  | pathKind (kind : Text)
  | pathBytes
  | nameKind
deriving DecidableEq, Repr

/-- The wording of a refusal. -/
def OptionsError.message : OptionsError → Text
  | .issues found => Text.join ['\n'] (found.map Issue.message)
  | .pathKind kind => "expected str, bytes or os.PathLike object, not ".toList ++ kind
  | .pathBytes =>
    ("argument should be a str object or an os.PathLike object returning str, " ++
      "not <class 'bytes'>").toList
  | .nameKind => "keywords must be strings".toList

end Docpress
