import Docpress.Markdown.Unescape
import Docpress.Text.Blank
import Docpress.Text.Case
/-!
The pieces of a link: its destination, its title and the label by which a reference is found.
-/

namespace Docpress.Markdown

/-- A destination in angle brackets, after the opening one, as it is written; and what follows. -/
def bracketedDestination? : Text → Option (Text × Text)
  | [] => none
  | '>' :: s => some ([], s)
  | '\\' :: c :: s => (bracketedDestination? s).map fun (d, rest) => ('\\' :: c :: d, rest)
  | c :: s =>
    if c == '\n' || c == '<' then none
    else (bracketedDestination? s).map fun (d, rest) => (c :: d, rest)

/-- A destination without brackets, as it is written, and what follows. It ends at a space, a
    control character or an unopened closing parenthesis; at most 32 parentheses may be open, and
    none at the end. -/
def bareDestination? : (depth : Nat) → Text → Option (Text × Text)
  | depth, [] => if depth == 0 then some ([], []) else none
  | depth, c :: s =>
    if c.toNat ≤ 32 || c.toNat == 127 then (if depth == 0 then some ([], c :: s) else none)
    else if c == '\\' then
      match s with
      | ' ' :: _ => if depth == 0 then some ([], c :: s) else none
      | e :: s => (bareDestination? depth s).map fun (d, rest) => (c :: e :: d, rest)
      | [] => if depth == 0 then some ([c], []) else none
    else if c == '(' then
      if depth == 32 then none
      else (bareDestination? (depth + 1) s).map fun (d, rest) => (c :: d, rest)
    else if c == ')' then
      match depth with
      | 0 => some ([], c :: s)
      | depth + 1 => (bareDestination? depth s).map fun (d, rest) => (c :: d, rest)
    else (bareDestination? depth s).map fun (d, rest) => (c :: d, rest)

/-- The destination that a text begins with, resolved, and what follows. -/
def destination? : Text → Option (Text × Text)
  | '<' :: s => (bracketedDestination? s).map fun (d, rest) => (unescape d, rest)
  | s => match bareDestination? 0 s with
    | some (d, rest) => if d.isEmpty then none else some (unescape d, rest)
    | none => none

/-- A title up to its closing mark, as it is written, and what follows the mark. A title between
    parentheses holds no further opening one. -/
def titleBody? (close : Char) : Text → Option (Text × Text)
  | [] => none
  | c :: s =>
    if c == close then some ([], s)
    else if c == '(' && close == ')' then none
    else match c, s with
      | '\\', e :: s => (titleBody? close s).map fun (t, rest) => ('\\' :: e :: t, rest)
      | _, s => (titleBody? close s).map fun (t, rest) => (c :: t, rest)

/-- The title that a text begins with, resolved, and what follows. -/
def title? : Text → Option (Text × Text)
  | '"' :: s => (titleBody? '"' s).map fun (t, rest) => (unescape t, rest)
  | '\'' :: s => (titleBody? '\'' s).map fun (t, rest) => (unescape t, rest)
  | '(' :: s => (titleBody? ')' s).map fun (t, rest) => (unescape t, rest)
  | _ => none

/-- One space for each run of blanks; `inRun` while a run is being passed over. -/
def collapseBlanks : Bool → Text → Text
  | _, [] => []
  | inRun, c :: s =>
    if isBlank c then (if inRun then collapseBlanks true s else ' ' :: collapseBlanks true s)
    else c :: collapseBlanks false s

/-- Two labels name the same reference if they agree in this form: blanks are trimmed and
    collapsed, and case is folded. -/
def normalLabel (label : Text) : Text :=
  upper (lower (collapseBlanks false (Text.trimBlank label)))

/-- Where a link leads, and its title, which is empty if there is none. -/
structure LinkTarget where
  url : Text
  title : Text
  /-- What is shown for the link in place of text from the document is broken. -/
  broken : Bool := false
deriving DecidableEq, Repr

/-- The references that a document defines, by the normal form of their labels; of several
    definitions of one label the first counts. -/
abbrev References := List (Text × LinkTarget)

/-- Spaces, tabs and line ends. -/
def isLinkSpace (c : Char) : Bool :=
  isIndent c || c == '\n'

end Docpress.Markdown
