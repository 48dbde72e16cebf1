import Docpress.Config.Options
import Docpress.Path
/-!
The configuration of a project: its name, where its documents are, where its pages go, and the
options of rendering.
-/

namespace Docpress

/-- The configuration of a project. -/
structure Config where
  projectName : Text := "Docmark Project".toList
  sourceDir : Path := Path.ofText "docs".toList
  outputDir : Path := Path.ofText "out".toList
  markdown : MarkdownConfig := {}
deriving DecidableEq, Repr

/-- Read a path; a value of another kind is refused at once. -/
def readPath (default : Path) : Option Value → Except OptionsError Path
  | none => .ok default
  | some (.text s) => .ok (Path.ofText s)
  | some .brokenText => .ok default
  | some (.bytes _) => .error .pathBytes
  | some v => .error (.pathKind v.kind)

/-- Read the section with the options of rendering; nothing means that all have their defaults. -/
def readMarkdown : Option Value → Except (List Issue) MarkdownConfig
  | none => .ok {}
  | some .null => .ok {}
  | some (.mapping entries) =>
    match MarkdownConfig.ofEntries entries with
    | .ok config => .ok config
    | .error issues => .error (issues.map (Issue.below "markdown".toList))
  | some _ => .error [⟨["markdown".toList], .notOptions⟩]

/-- Read the configuration from the entries of a mapping, whose keys must be texts. A path of the
    wrong kind counts before any other issue. -/
def Config.ofEntries (entries : List (Value × Value)) : Except OptionsError Config := do
  if !entries.all (·.1.isText) then throw .nameKind
  let default : Config := {}
  let name := Reading.ofOption ["project_name".toList] default.projectName readText
    (valueOf? "project_name".toList entries)
  let sourceDir ← readPath default.sourceDir (valueOf? "source_dir".toList entries)
  let outputDir ← readPath default.outputDir (valueOf? "output_dir".toList entries)
  match name.issues, readMarkdown (valueOf? "markdown".toList entries) with
  | [], .ok markdown => return { projectName := name.value, sourceDir, outputDir, markdown }
  | issues, .ok _ => throw (.issues issues)
  | issues, .error more => throw (.issues (issues ++ more))

end Docpress
