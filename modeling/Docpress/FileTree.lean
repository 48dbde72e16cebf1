import Docpress.Path
import Docpress.Text.Quoted
import Docpress.Text.Utf8
/-!
A tree of files as a value: what is at each place, and what reading, writing and making directories
do to it. There are no links, so each path leads to one place.
-/

namespace Docpress

/-- A place in the tree: the names that lead to it from the top. -/
abbrev Place := List Text

/-- What is at a place. -/
inductive Entry where
  | file (content : List Nat)
  | directory
deriving DecidableEq, Repr

/-- A tree of files: the entries below the top, which is a directory itself, and the current
    directory. -/
structure FileTree where
  entries : List (Place × Entry) := []
  here : Place := []
deriving Repr

/-- Why a file cannot be used. -/
inductive FileFault where
  | missing
  | exists
  | notDirectory
  | isDirectory
  /-- The path holds a character that no name may hold. -/
  | zeroByte
deriving DecidableEq, Repr

/-- A fault, and the path that has it. -/
structure FileError where
  fault : FileFault
  path : Path
deriving DecidableEq, Repr

/-- The wording of an error. -/
def FileError.message (e : FileError) : Text :=
  let lead := match e.fault with
    | .missing => "[Errno 2] No such file or directory: "
    | .exists => "[Errno 17] File exists: "
    | .notDirectory => "[Errno 20] Not a directory: "
    | .isDirectory => "[Errno 21] Is a directory: "
    | .zeroByte => "embedded null byte"
  match e.fault with
  | .zeroByte => lead.toList
  | _ => lead.toList ++ Text.quoted e.path.toText

/-- The path holds the character that no name may hold. -/
def Path.hasZero (p : Path) : Bool :=
  p.names.any (·.contains (Char.ofNat 0))

namespace FileTree

/-- What is at a place. -/
def find? (t : FileTree) (place : Place) : Option Entry :=
  if place.isEmpty then some .directory else t.entries.lookup place

/-- Follow names from a place. A name leads on only from a directory, and only to what is there. -/
def walk (t : FileTree) : Place → List Text → Except FileFault Place
  | place, [] => .ok place
  | place, name :: rest =>
    match t.find? place with
    | none => .error .missing
    | some (.file _) => .error .notDirectory
    | some .directory =>
      if name == Path.up then walk t place.dropLast rest
      else if (t.find? (place ++ [name])).isSome then walk t (place ++ [name]) rest
      else .error .missing

/-- Where a path begins. -/
def start (t : FileTree) (p : Path) : Place :=
  if p.isAbsolute then [] else t.here

/-- The place of a path that leads to something. -/
def locate (t : FileTree) (p : Path) : Except FileFault Place :=
  if p.hasZero then .error .zeroByte else t.walk (t.start p) p.names

/-- What a path leads to. -/
def at? (t : FileTree) (p : Path) : Option Entry :=
  match t.locate p with
  | .ok place => t.find? place
  | .error _ => none

/-- The path leads to something. -/
def hasPath (t : FileTree) (p : Path) : Bool :=
  (t.at? p).isSome

/-- The path leads to a directory. -/
def isDirectory (t : FileTree) (p : Path) : Bool :=
  t.at? p == some .directory

/-- The place that a path stands for by its names alone, whether or not anything is there. -/
def settle (t : FileTree) (p : Path) : Place :=
  Path.settle (t.start p) p.names

/-- Put an entry at a place; what was there is gone. -/
def put (t : FileTree) (place : Place) (e : Entry) : FileTree :=
  { t with entries := t.entries.filter (·.1 != place) ++ [(place, e)] }

/-- The bytes of a file. -/
def readBytes (t : FileTree) (p : Path) : Except FileError (List Nat) :=
  match t.locate p with
  | .error fault => .error ⟨fault, p⟩
  | .ok place =>
    match t.find? place with
    | some (.file content) => .ok content
    | some .directory => .error ⟨.isDirectory, p⟩
    | none => .error ⟨.missing, p⟩

/-- The directory that a path's last name is to be found in, and that name. -/
def locateParent (t : FileTree) (p : Path) : Except FileFault (Option (Place × Text)) :=
  match p.names.getLast? with
  | none => .ok none
  | some name =>
    if p.hasZero then .error .zeroByte
    else match t.walk (t.start p) p.names.dropLast with
      | .error fault => .error fault
      | .ok place =>
        match t.find? place with
        | some .directory => .ok (if name == Path.up then none else some (place, name))
        | some (.file _) => .error .notDirectory
        | none => .error .missing

/-- Write a file, in place of one that is there. -/
def write (t : FileTree) (p : Path) (content : List Nat) : Except FileError FileTree :=
  match t.locateParent p with
  | .error fault => .error ⟨fault, p⟩
  | .ok none => .error ⟨.isDirectory, p⟩
  | .ok (some (place, name)) =>
    if t.find? (place ++ [name]) == some .directory then .error ⟨.isDirectory, p⟩
    else .ok (t.put (place ++ [name]) (.file content))

/-- Make one directory where there is nothing yet. -/
def makeDirectory (t : FileTree) (p : Path) : Except FileError FileTree :=
  match t.locateParent p with
  | .error fault => .error ⟨fault, p⟩
  | .ok none => .error ⟨.exists, p⟩
  | .ok (some (place, name)) =>
    if (t.find? (place ++ [name])).isSome then .error ⟨.exists, p⟩
    else .ok (t.put (place ++ [name]) .directory)

/-- Make a directory, unless it is there. -/
def ensureDirectory (t : FileTree) (p : Path) : Except FileError FileTree :=
  match t.makeDirectory p with
  | .ok made => .ok made
  | .error e =>
    if e.fault != .missing && e.fault != .zeroByte && t.isDirectory p then .ok t else .error e

/-- Make a directory and those above it, as many of them as there are names in `pending`, which
    lists the path's names from its end. -/
def ensureAbove (t : FileTree) (p : Path) : List Text → Except FileError FileTree
  | [] => t.ensureDirectory p
  | _ :: pending =>
    match t.ensureDirectory p with
    | .ok made => .ok made
    | .error e =>
      if e.fault == .missing then do
        let above ← ensureAbove t p.parent pending
        above.ensureDirectory p
      else .error e

/-- Make a directory and those above it that are missing. -/
def ensureDirectories (t : FileTree) (p : Path) : Except FileError FileTree :=
  t.ensureAbove p p.names.reverse

/-- The files below a place: for each the names that lead to it from there. -/
def filesBelow (t : FileTree) (place : Place) : List Place :=
  t.entries.filterMap fun (where_, e) =>
    match e, Path.dropNames? place where_ with
    | .file _, some (name :: rest) => some (name :: rest)
    | _, _ => none

end FileTree

end Docpress
