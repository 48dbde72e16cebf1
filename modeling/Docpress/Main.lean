import Docpress.Command.Run
/-!
The program: it looks at the files that its arguments name, runs the command on them, and then
prints what the command printed and writes the files that it changed. Of the highlighters only the
one for plain text is built in.
-/

namespace Docpress

/-- The names of a file on this machine. -/
def placeText (place : Place) : String :=
  String.ofList ('/' :: Text.join ['/'] place)

/-- The bytes of a file as numbers. -/
def numbersOf (bytes : ByteArray) : List Nat :=
  bytes.toList.map UInt8.toNat

/-- Numbers as the bytes of a file. -/
def bytesOf (content : List Nat) : ByteArray :=
  ByteArray.mk (content.map UInt8.ofNat).toArray

/-- Take what is at a place into a tree of files; for a directory also what is below it, as deep as
    the first number says. -/
def takeIn : Nat → FileTree → Place → IO FileTree
  | depth, t, place => do
    let path := (← IO.currentDir) / placeText place
    if ← path.isDir then
      let t := if (t.find? place).isSome then t else t.put place .directory
      match depth with
      | 0 => return t
      | depth + 1 =>
        (← path.readDir).foldlM (fun t entry => takeIn depth t (place ++ [entry.fileName.toList])) t
    else if ← path.pathExists then
      return t.put place (.file (numbersOf (← IO.FS.readBinFile path)))
    else return t

/-- How deep directories are looked into. -/
def deepest : Nat :=
  100

/-- Take in the directories that lead to a place, and what is there. -/
def takeInPlace (depth : Nat) (t : FileTree) (place : Place) : IO FileTree := do
  let t ← (List.range place.length).foldlM (fun t n => takeIn 0 t (place.take n)) t
  takeIn depth t place

/-- The paths that an invocation uses. -/
def Command.Invocation.paths : Command.Invocation → List Path
  | .render source config output =>
    [Path.ofText source, Path.ofText config, (Path.ofText config).join ⟨[], [configName]⟩] ++
      output.toList
  | .build config => [Path.ofText config, (Path.ofText config).join ⟨[], [configName]⟩]
  | .escape source => [Path.ofText source]
  | _ => []

/-- The invocation reads standard input. -/
def Command.Invocation.readsInput : Command.Invocation → Bool
  | .render source _ _ => source == standardInput
  | .escape source => source == standardInput
  | _ => false

/-- Take in the files that an invocation uses. -/
def takeInFiles (t : FileTree) (invocation : Command.Invocation) : IO FileTree := do
  let t ← invocation.paths.foldlM (fun t path => takeInPlace 0 t (t.settle path)) t
  match invocation with
  | .build config =>
    match loadConfig t (Path.ofText config) with
    | .ok config =>
      [config.sourceDir, config.outputDir].foldlM
        (fun t path => takeInPlace deepest t (t.settle path)) t
    | .error _ => return t
  | _ => return t

/-- Write the files of a tree that are not the same in another. -/
def putBack (before after : FileTree) : IO Unit :=
  after.entries.forM fun (place, entry) => do
    if before.find? place != some entry then
      match entry with
      | .directory => IO.FS.createDirAll (placeText place)
      | .file content => IO.FS.writeBinFile (placeText place) (bytesOf content)

/-- Tell the user how a command ended. -/
def explain (o : Command.Outcome) : IO Unit := do
  o.logs.forM fun entry => IO.eprintln (String.ofList entry.message)
  match o.stop with
  | none => return
  | some (.misuse m) => IO.eprintln (String.ofList ("Error: ".toList ++ m.message))
  | some (.crash _) => IO.eprintln "Error: the command could not be finished."

end Docpress

open Docpress in
/-- Run the program on the files of this machine. -/
def main (args : List String) : IO UInt32 := do
  let args := args.map String.toList
  let here := Path.namesOf (← IO.currentDir).toString.toList
  let start : FileTree := { here }
  let start ← takeInPlace 0 start here
  let invocation := (Command.Invocation.ofArguments args).toOption
  let tree ← match invocation with
    | some invocation => takeInFiles start invocation
    | none => pure start
  let readsInput := invocation.any (·.readsInput)
  let input ← if readsInput then (← IO.getStdin).readToEnd else pure ""
  let session : Command.Session :=
    { tree, input := input.toList, installed := ⟨some Highlight.plainLibrary, none⟩ }
  let outcome := Command.run args session
  putBack tree outcome.tree
  (← IO.getStdout).putStr (String.ofList outcome.printed)
  explain outcome
  return UInt32.ofNat outcome.exitCode
