import Docpress.FileTree
/-!
Files of text: UTF-8, and any end of a line reads as a line feed.
-/

namespace Docpress

/-- Why a file cannot be read as text. -/
inductive ReadError where
  | file (e : FileError)
  | encoding (e : Utf8.DecodingError)
deriving DecidableEq, Repr

/-- A byte as messages give it. -/
def byteText (b : Nat) : Text :=
  "0x".toList ++ Text.hexDigits 2 b

/-- The wording of an error in the encoding. -/
def Utf8.DecodingError.message (e : Utf8.DecodingError) : Text :=
  let place :=
    if e.size == 1 then
      "byte ".toList ++ byteText e.first ++ " in position ".toList ++ Text.ofNat e.start
    else
      "bytes in position ".toList ++ Text.ofNat e.start ++ ['-'] ++
        Text.ofNat (e.start + e.size - 1)
  "'utf-8' codec can't decode ".toList ++ place ++ ": ".toList ++ e.reason.reason

/-- The wording of an error. -/
def ReadError.message : ReadError → Text
  | .file e => e.message
  | .encoding e => e.message

/-- Bytes as text with line feeds. -/
def textOfBytes (content : List Nat) : Except Utf8.DecodingError Text :=
  (Utf8.decode content).map Text.unifyLineEnds

/-- Read a file as text. -/
def FileTree.readText (t : FileTree) (p : Path) : Except ReadError Text :=
  match t.readBytes p with
  | .error e => .error (.file e)
  | .ok content =>
    match textOfBytes content with
    | .error e => .error (.encoding e)
    | .ok s => .ok s

/-- Write a text to a file. -/
def FileTree.writeText (t : FileTree) (p : Path) (s : Text) : Except FileError FileTree :=
  t.write p (Utf8.encode s)

end Docpress
