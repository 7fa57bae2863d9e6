import ServiceBindings.CommandLine

/-! # The program

`main` runs the command line of the program in the file system of the machine. It looks at the places
that the run can read, hands what stands there to `commandLine`, and then carries out what the run has
changed. The program makes no requests and starts no other program: the web answers nothing, and there
is nothing to format files with. -/

namespace ServiceBindings

/-- The paths of files that a run with the given settings reads or writes. -/
def Settings.paths (s : Settings) : List Path :=
  (if Document.isRemote s.docUrl then [] else [.ofText s.docUrl]) ++
    (match s.templateDir with
      | some dir => Template.all.map fun t => dir.join t.fileName
      | none => []) ++
    [s.outputDir.join s.servicesFileName, s.outputDir.join s.typesFileName]

namespace Program

/-- How a place is written, if all names are texts. -/
def placeText? (place : Location) : Option String :=
  (place.reverse.mapM FileName.text?).map fun names => (Path.mk .slash names).text

/-- Look at a place. -/
def look (files : FileSystem) (place : Location) : IO FileSystem := do
  let some text := placeText? place | return files
  let path := (← IO.currentDir) / text
  if ← path.isDir then return files.put place .directory
  else if ← path.pathExists then return files.put place (.file (← IO.FS.readBinFile path))
  else return files

/-- Look at the places that paths pass. -/
def lookAlong (s : Surroundings) (paths : List Path) (files : FileSystem) : IO FileSystem := do
  let places := paths.flatMap fun p =>
    FileSystem.placesFrom (if p.root = .relative then s.workingPlace else []) (s.systemPath p).names []
  places.foldlM look files

/-- Carry out a change. -/
def carryOut : Location × FileNode → IO Unit
  | (place, .directory) => (placeText? place).forM (IO.FS.createDirAll ·)
  | (place, .file bytes) => (placeText? place).forM (IO.FS.writeBinFile · bytes)

/-- What a run looks at: first the settings file, and then what the settings name. -/
def gather (s : Surroundings) (words : List String) : IO FileSystem := do
  match Arguments.ofWords words with
  | .ok (some a) =>
      let workingPlaces : List Path := [s.workingDir]
      let settingsPaths := a.config?.toList.map Path.ofText
      let files ← lookAlong s (workingPlaces ++ settingsPaths) .empty
      match (a.settings.perform s { files }).1 with
      | .ok settings => lookAlong s settings.paths files
      | .error _ => return files
  | _ => return .empty

/-- Write what the program ends with: its exit status. -/
def finish : Ending → IO UInt32
  | .help => do
      IO.print helpText
      return 0
  | .exit status output errors => do
      IO.print output
      IO.eprint errors
      return status.toUInt32
  | .interrupted failure => do
      IO.eprintln (failure.message Cause.message)
      return 1

/-- Run the program. -/
def run (words : List String) : IO UInt32 := do
  let s : Surroundings := { workingDir := .ofText (← IO.currentDir).toString }
  let files ← gather s words
  let (ending, after) := commandLine Cause.message words s { files }
  (after.files.changesSince files).forM carryOut
  finish ending

end Program

end ServiceBindings

/-- Run the program with the words of its command line. -/
def main (words : List String) : IO UInt32 := ServiceBindings.Program.run words
