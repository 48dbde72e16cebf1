import Docpress.Text.Basic
/-!
Paths: a root, perhaps, and the names that follow it. Reading a path drops empty names and single
dots; two dots stay, because what they mean depends on the directories there are.
-/

namespace Docpress

/-- A path. The root is empty for a relative path, and otherwise one slash, or exactly two. -/
structure Path where
  root : Text := []
  names : List Text := []
deriving DecidableEq, Repr

namespace Path

/-- The name of the directory above. -/
def up : Text :=
  "..".toList

/-- The names that a text between slashes holds. -/
def namesOf (s : Text) : List Text :=
  (Text.words (· == '/') s).filter (· != ['.'])

/-- The root of a path that is written out: three slashes or more count as one. -/
def rootOf (s : Text) : Text :=
  let slashes := s.takeWhile (· == '/')
  if slashes.length ≤ 2 then slashes else ['/']

/-- Read a path. -/
def ofText (s : Text) : Path :=
  ⟨rootOf s, namesOf s⟩

/-- A path as text; the path without root and names is a dot. -/
def toText (p : Path) : Text :=
  match p.root ++ Text.join ['/'] p.names with
  | [] => ['.']
  | s => s

/-- The path does not depend on the current directory. -/
def isAbsolute (p : Path) : Bool :=
  !p.root.isEmpty

/-- The path `q` seen from the directory `p`. -/
def join (p q : Path) : Path :=
  if q.isAbsolute then q else { p with names := p.names ++ q.names }

/-- The path without its last name. -/
def parent (p : Path) : Path :=
  { p with names := p.names.dropLast }

/-- The last name, empty if there is none. -/
def name (p : Path) : Text :=
  p.names.getLast?.getD []

/-- A name split before its suffix, the last dot and what follows. A dot at either end begins no
    suffix. -/
def splitSuffix (name : Text) : Text × Text :=
  let tail := (name.reverse.takeWhile (· != '.')).reverse
  let stem := name.take (name.length - tail.length - 1)
  if tail.isEmpty || stem.isEmpty || tail.length == name.length then (name, [])
  else (stem, '.' :: tail)

/-- The suffix of the last name. -/
def suffix (p : Path) : Text :=
  (splitSuffix p.name).2

/-- The path with another suffix; none if there is no name to change. -/
def withSuffix? (p : Path) (suffix : Text) : Option Path :=
  if p.name.isEmpty then none
  else some { p with names := p.names.dropLast ++ [(splitSuffix p.name).1 ++ suffix] }

/-- What follows a list of names at the beginning of another. -/
def dropNames? : List Text → List Text → Option (List Text)
  | [], names => some names
  | _ :: _, [] => none
  | a :: lead, b :: names => if a == b then dropNames? lead names else none

/-- The path seen from a directory that it lies in, by its names alone. -/
def relativeTo? (p base : Path) : Option Path :=
  if p.root != base.root then none
  else (dropNames? base.names p.names).map fun names => { names }

/-- The order of paths: by their names, one by one. -/
def namesPrecede : List Text → List Text → Bool
  | _, [] => false
  | [], _ :: _ => true
  | a :: s, b :: t => Text.precedes a b || (a == b && namesPrecede s t)

/-- Names after a list of names, with each step up taken. -/
def settle : List Text → List Text → List Text
  | base, [] => base
  | base, name :: rest =>
    if name == up then settle base.dropLast rest else settle (base ++ [name]) rest

end Path

end Docpress
