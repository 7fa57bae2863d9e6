import ServiceBindings.Workspace.Basic

/-! # Templates, generated files and their formatting

* `ensureTemplates` looks for the templates of a directory, and `renderTemplate` has one rendered.
* `writeFiles` makes the output directory and writes files into it, one after the other.
* `formatFiles` has files formatted by the program for that. -/

namespace ServiceBindings

/-! ## Templates -/

/-- Fail with the first of some templates that has no file, or whose path is too long to look for it. -/
def ensureTemplates (directory : Path) : List Template → Job Unit
  | [] => return
  | t :: rest => do
      let path := directory.join t.fileName
      match ← Job.readBytes path with
      | .ok _ => ensureTemplates directory rest
      | .error .tooLong => throw (.templateUnreachable path)
      | .error _ => throw (.templateMissing path)

/-- The files of a directory. -/
def Surroundings.filesIn (s : Surroundings) (files : FileSystem) (directory : Path) : TemplateFiles :=
  fun name => (s.readFile files (directory.join name)).toOption

/-- Have a template of a directory rendered. -/
def renderTemplate (directory : Path) (context : RenderContext) (t : Template) : Job String := do
  let s ← read
  Job.ofExcept (.notRendered t) (s.engine (s.filesIn (← get).files directory) t context)

/-- Have a module rendered from its templates in a directory, once all of them are there: its head and what
comes below. -/
def renderFrom (directory : Path) (m : ModuleTemplates) (context : RenderContext) : Job String := do
  ensureTemplates directory m.all
  let head ← renderTemplate directory context m.head
  let items ← renderTemplate directory context m.items
  return head ++ items

/-! ## Writing -/

/-- Make a directory unless it is there, and the ones above it where they are missing. -/
def makeOutputDir (directory : Path) : Job Unit := do
  let scene ← get
  let (files, result) := (← read).ensureDir scene.files directory
  set { scene with files }
  Job.ofExcept (fun fault => .directoryNotMade directory (.file fault)) result

/-- Write bytes into a file. -/
def writeBytes (path : Path) (bytes : ByteArray) : Job Unit := do
  let scene ← get
  let files ← Job.ofExcept (fun fault => .fileNotWritten path (.file fault))
    ((← read).writeFile scene.files path bytes)
  set { scene with files }

/-- Write a text into a file. A text that cannot be encoded leaves the file empty. -/
def writeText (path : Path) (text : String) : Job Unit := do
  if (← read).readers.surrogates.encodes text then writeBytes path text.toUTF8
  else
    writeBytes path .empty
    throw (.textNotEncoded path)

/-- Write texts into files of a directory, one after the other: the paths of the files. -/
def writeTexts (directory : Path) : List (String × String) → Job (List Path)
  | [] => return []
  | (name, text) :: rest => do
      let path := directory.join name
      writeText path text
      return path :: (← writeTexts directory rest)

/-- Make a directory and write files into it, given their names and texts. -/
def writeFiles (directory : Path) (files : List (String × String)) : Job (List Path) := do
  makeOutputDir directory
  writeTexts directory files

/-! ## Formatting -/

/-- The arguments of the program that formats files, in front of the files. -/
def formatterArguments : List String :=
  ["--yes", "prettier", "--parser", "typescript", "--single-quote", "--print-width", "100",
    "--trailing-comma", "none", "--tab-width", "2", "--write"]

/-- What a program that failed complained of: what it wrote to its error output, otherwise what it
wrote to its output, unless both are blank. -/
def complaint? (output errors : String) : Option String :=
  if !Text.isBlank errors then some (Text.strip errors)
  else if !Text.isBlank output then some (Text.strip output)
  else none

/-- Have files formatted; without files, nothing is done. -/
def formatFiles (paths : List Path) : Job Unit := do
  if paths.isEmpty then return
  match (← read).formatter with
  | none => throw .formatterMissing
  | some formatter =>
      let command := formatter.path :: formatterArguments ++ paths.map Path.text
      modify fun scene => { scene with commands := scene.commands ++ [command] }
      match formatter.run with
      | .notStarted reason => throw (.formatterNotStarted (.system reason))
      | .garbled => throw .formatterGarbled
      | .ended status output errors =>
          if status ≠ 0 then
            throw (.formatterFailed (complaint? output errors) (.exitStatus status))
          Job.log .info .output ("Formatted " ++ toString paths.length ++
            " generated files with prettier")

end ServiceBindings
