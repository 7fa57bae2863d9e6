import ServiceBindings.Document
import ServiceBindings.Module.Engine
import ServiceBindings.Settings
import ServiceBindings.Workspace.FileSystem
import ServiceBindings.Workspace.Web

/-! # Workspaces

A run of the program acts on a workspace:

* `Surroundings` are what it finds and cannot change: its working directory, what it reads texts and
  validates settings with, the client of the web, the engine of the templates, and the program that
  formats files;
* `Scene` is what it can change: the file system, and the records of the requests it made, of the
  commands it started and of the messages it logged.

A `Job` reads the surroundings, changes the scene, and ends with a result or with a `Failure`.
**What was changed before a failure stays changed.** A failure that arose from another fault holds it
as its `Cause`. -/

namespace ServiceBindings

/-- The fault that a failure arose from. -/
inductive Cause where
  /-- A file or directory. -/
  | file (fault : FileFault)
  /-- A program that cannot be started. -/
  | system (reason : String)
  /-- A text that is not read as a value. -/
  | content (fault : Document.Fault)
  /-- Faulty settings. -/
  | settings (faults : List SettingFault)
  /-- A request. -/
  | web (fault : WebFault)
  /-- A program that ended with an exit status. -/
  | exitStatus (code : Int)
  deriving DecidableEq, Repr

namespace Cause

/-- The wording of a cause. -/
def message : Cause → String
  | file fault => fault.message
  | system reason => reason
  | content fault => fault.message
  | settings faults => Text.join "; " (faults.map fun fault =>
      Text.join "." (fault.place.map fun
        | .name key => key
        | .number n => toString n) ++ ": " ++ fault.kind.message)
  | web fault => fault.message
  | exitStatus code => "exit status " ++ toString code

/-- Whether a cause is one that the program expects. -/
def isReported : Cause → Bool
  | file fault => fault.isReported
  | content fault => fault.isReported
  | web fault => fault.isReported
  | _ => true

end Cause

/-- Why a job failed. -/
inductive Failure where
  /-- The file with the settings cannot be read. -/
  | settingsUnreadable (path : Path) (cause : Cause)
  /-- The file with the settings is malformed. -/
  | settingsMalformed (path : Path) (cause : Cause)
  /-- The file with the settings holds something else than a mapping. -/
  | settingsNotMapping (path : Path) (kind : String)
  /-- The settings are refused. -/
  | settingsRefused (refusal : Settings.Refusal)
  /-- The document cannot be fetched. -/
  | documentNotFetched (location : String) (fault : WebFault)
  /-- The file of the document cannot be read. -/
  | documentUnreadable (path : Path) (cause : Cause)
  /-- The document is malformed. -/
  | documentMalformed (location : String) (cause : Cause)
  /-- The document is something else than a mapping. -/
  | documentNotMapping (kind : String)
  /-- The version of the document is not accepted. -/
  | documentVersion (error : VersionError)
  /-- There are no bindings for the document. -/
  | bindings (error : BindingError)
  /-- Deriving the bindings takes more than the interpreter has. -/
  | derivationGivenUp (reason : String)
  /-- A template has no file. -/
  | templateMissing (path : Path)
  /-- The system refuses to look for the file of a template. -/
  | templateUnreachable (path : Path)
  /-- A template is not rendered. -/
  | notRendered (t : Template) (fault : RenderFault)
  /-- The directory for the generated modules cannot be made. -/
  | directoryNotMade (path : Path) (cause : Cause)
  /-- A generated module cannot be written. -/
  | fileNotWritten (path : Path) (cause : Cause)
  /-- The text of a generated module holds a surrogate, and cannot be encoded. -/
  | textNotEncoded (path : Path)
  /-- The program that formats files is not installed. -/
  | formatterMissing
  /-- The program that formats files cannot be started. -/
  | formatterNotStarted (cause : Cause)
  /-- The program that formats files failed, with a complaint unless it kept silent. -/
  | formatterFailed (complaint : Option String) (cause : Cause)
  /-- What the program that formats files wrote is no text. -/
  | formatterGarbled
  /-- A file is no text. -/
  | undecodable
  /-- The working directory is none, and no output directory is given. -/
  | workingDirLost
  /-- The report of a run cannot be written to the output of the program. -/
  | reportNotPrinted
  deriving DecidableEq, Repr

namespace Failure

/-- What a failure is about. -/
inductive Area where
  /-- The settings. -/
  | settings
  /-- Loading the document. -/
  | loading
  /-- Following references. -/
  | reference
  /-- The templates. -/
  | template
  /-- Writing and formatting the generated modules. -/
  | output
  deriving DecidableEq, Repr

/-- What a failure is about. The failures about none of the areas are **not reported** to the user of
the command line. -/
def area? : Failure → Option Area
  | settingsUnreadable _ cause => if cause.isReported then some .settings else none
  | settingsMalformed _ cause => if cause.isReported then some .settings else none
  | settingsNotMapping _ _ => some .settings
  | settingsRefused _ => some .settings
  | documentNotFetched _ fault => if fault.isReported then some .loading else none
  | documentUnreadable _ cause => if cause.isReported then some .loading else none
  | documentMalformed _ cause => if cause.isReported then some .loading else none
  | documentNotMapping _ => some .loading
  | documentVersion error => if error.isReported then some .loading else none
  | bindings .noPaths => some .loading
  | bindings (.reference error) => if error.isReported then some .reference else none
  | derivationGivenUp _ => none
  | templateMissing _ => some .template
  | templateUnreachable _ => none
  | notRendered _ _ => none
  | directoryNotMade _ cause => if cause.isReported then some .output else none
  | fileNotWritten _ cause => if cause.isReported then some .output else none
  | textNotEncoded _ => none
  | formatterMissing => some .output
  | formatterNotStarted _ => some .output
  | formatterFailed _ _ => some .output
  | formatterGarbled => none
  | undecodable => none
  | workingDirLost => none
  | reportNotPrinted => none

/-- The fault that a failure arose from. -/
def cause? : Failure → Option Cause
  | settingsUnreadable _ cause => some cause
  | settingsMalformed _ cause => some cause
  | settingsRefused (.faulty faults) => some (.settings faults)
  | documentNotFetched _ fault => some (.web fault)
  | documentUnreadable _ cause => some cause
  | documentMalformed _ cause => some cause
  | directoryNotMade _ cause => some cause
  | fileNotWritten _ cause => some cause
  | formatterNotStarted cause => some cause
  | formatterFailed _ cause => some cause
  | _ => none

/-- The wording of a failure, given the wording of causes. -/
def message (describe : Cause → String) : Failure → String
  | settingsUnreadable path cause =>
      "Failed to read config file " ++ path.text ++ ": " ++ describe cause
  | settingsMalformed path cause =>
      "Failed to parse config file " ++ path.text ++ ": " ++ describe cause
  | settingsNotMapping path kind =>
      "Config file " ++ path.text ++ " must contain a mapping, got <class '" ++ kind ++ "'>"
  | settingsRefused (.faulty faults) =>
      "Invalid generator configuration: " ++ describe (.settings faults)
  | settingsRefused .noDocument =>
      "Missing required option 'docUrl': the OpenAPI document location"
  | documentNotFetched location fault =>
      "Failed to fetch OpenAPI document from " ++ location ++ ": " ++ describe (.web fault)
  | documentUnreadable path cause =>
      "Failed to read OpenAPI file " ++ path.text ++ ": " ++ describe cause
  | documentMalformed location cause =>
      "Failed to parse OpenAPI document " ++ location ++ ": " ++ describe cause
  | documentNotMapping kind =>
      "OpenAPI document must deserialize to a mapping, got <class '" ++ kind ++ "'>"
  | documentVersion error => error.message
  | bindings error => error.message
  | derivationGivenUp reason => reason
  | templateMissing path => "Template file " ++ path.text ++ " does not exist"
  | templateUnreachable path => "File name too long: " ++ path.text
  | notRendered t fault => t.fileName ++ ": " ++ fault.message
  | directoryNotMade path cause =>
      "Failed to create output directory " ++ path.text ++ ": " ++ describe cause
  | fileNotWritten path cause =>
      "Failed to write file " ++ path.text ++ ": " ++ describe cause
  | textNotEncoded path => "the text for " ++ path.text ++ " cannot be encoded in UTF-8"
  | formatterMissing => "Cannot format generated files: 'npx' was not found on PATH"
  | formatterNotStarted cause => "Failed to execute prettier: " ++ describe cause
  | formatterFailed complaint cause =>
      "prettier failed: " ++ complaint.getD (describe cause)
  | formatterGarbled => "the output of prettier is not encoded in UTF-8"
  | undecodable => "a file is not encoded in UTF-8"
  | workingDirLost => "there is no working directory"
  | reportNotPrinted => "the report cannot be printed"

end Failure

/-- How the program that formats files ends. -/
inductive FormatterRun where
  /-- It cannot be started. -/
  | notStarted (reason : String)
  /-- It ends with an exit status, and with what it wrote. -/
  | ended (status : Int) (output errors : String)
  /-- It ends, and what it wrote is no text. -/
  | garbled
  deriving DecidableEq, Repr

/-- The program that formats files: where it is installed, and how it ends. It leaves the file system
as it is. -/
structure Formatter where
  /-- The path of the program. -/
  path : String
  /-- How it ends. -/
  run : FormatterRun
  deriving DecidableEq, Repr

/-- What a run finds and cannot change. -/
structure Surroundings where
  /-- The working directory, from the root. -/
  workingDir : Path
  /-- What texts are read with. -/
  readers : Readers := {}
  /-- What the entries of settings are validated with, given the working directory. -/
  validate : Path → List (Scalar × Value) → Except (List SettingFault) Settings := Settings.validate
  /-- The client of the web. -/
  client : WebClient := Web.client .plain ⟨[]⟩
  /-- Why the interpreter gives up deriving bindings from a document, if it does: because the document is nested
  too deep or holds itself, or because of a number with too many digits to be written. -/
  interruption : Selection → Value → Option String := fun _ _ => none
  /-- What renders the templates of a directory. -/
  engine : TemplateEngine := .plain
  /-- The program that formats files, if it is installed. -/
  formatter : Option Formatter := none
  /-- Whether the output of the program takes a text. -/
  prints : String → Bool := fun _ => true

namespace Surroundings

/-- Whether the system can be asked about a path, unless for the null character. -/
def encodesPath (s : Surroundings) (p : Path) : Bool := p.names.all s.readers.surrogates.encodesName

/-- The path that the system is asked about. -/
def systemPath (s : Surroundings) (p : Path) : SystemPath := .ofPath s.readers.surrogates p

/-- The place of the working directory. -/
def workingPlace (s : Surroundings) : Location := (s.systemPath s.workingDir).names.reverse

/-- The bytes of the file that a path leads to. -/
def readFile (s : Surroundings) (files : FileSystem) (p : Path) : Except FileFault ByteArray :=
  if s.encodesPath p then files.read s.workingPlace (s.systemPath p) else .error .unencodable

/-- Write a file, in a directory that is there. -/
def writeFile (s : Surroundings) (files : FileSystem) (p : Path) (bytes : ByteArray) :
    Except FileFault FileSystem :=
  if s.encodesPath p then files.write s.workingPlace (s.systemPath p) bytes else .error .unencodable

/-- Make the directory that a path leads to unless it is there, and the ones above it where they are
missing. -/
def ensureDir (s : Surroundings) (files : FileSystem) (p : Path) : FileSystem × Except FileFault Unit :=
  if s.encodesPath p then files.ensureDir s.workingPlace (s.systemPath p) else (files, .error .unencodable)

end Surroundings

/-- How important a message is. -/
inductive LogLevel where
  /-- What is being done. -/
  | info
  /-- What the user should look at. -/
  | warning
  deriving DecidableEq, Repr

/-- The part of the program that logs a message. -/
inductive LogSource where
  /-- Loading documents. -/
  | loading
  /-- Generating bindings. -/
  | generation
  /-- Writing and formatting. -/
  | output
  /-- Requests. -/
  | web
  deriving DecidableEq, Repr

namespace LogSource

/-- The name of a source. -/
def name : LogSource → String
  | loading => "openapi_to_ts_services_generator.loader"
  | generation => "openapi_to_ts_services_generator.generator"
  | output => "openapi_to_ts_services_generator.writer"
  | web => "httpx"

end LogSource

/-- A logged message. -/
structure LogEntry where
  /-- How important it is. -/
  level : LogLevel
  /-- Where it comes from. -/
  source : LogSource
  /-- What it says. -/
  message : String
  deriving DecidableEq, Repr

namespace LogEntry

/-- The line of a message. -/
def line (e : LogEntry) : String :=
  (match e.level with
    | .info => "INFO "
    | .warning => "WARNING ") ++ e.source.name ++ ": " ++ e.message ++ "\n"

end LogEntry

/-- What a run can change, and the records of what it did. -/
structure Scene where
  /-- The file system. -/
  files : FileSystem
  /-- The addresses that were requested. -/
  requests : List String := []
  /-- The commands that were started. -/
  commands : List (List String) := []
  /-- The messages that were logged. -/
  log : List LogEntry := []

/-- A part of a run: it reads the surroundings, changes the scene, and may fail. -/
abbrev Job := ReaderT Surroundings (ExceptT Failure (StateM Scene))

namespace Job

/-- Perform a job. -/
def perform {α : Type} (job : Job α) (s : Surroundings) (scene : Scene) :
    Except Failure α × Scene :=
  (job.run s).run scene

/-- Log a message. -/
def log (level : LogLevel) (source : LogSource) (message : String) : Job Unit :=
  modify fun scene => { scene with log := scene.log ++ [⟨level, source, message⟩] }

/-- End with a result or with a failure. -/
def ofExcept {ε α : Type} (failure : ε → Failure) : Except ε α → Job α
  | .ok a => pure a
  | .error e => throw (failure e)

/-- The bytes of a file. -/
def readBytes (p : Path) : Job (Except FileFault ByteArray) :=
  return (← read).readFile (← get).files p

/-- Bytes as a text, whose line ends become line feeds. -/
def decode (bytes : ByteArray) : Job String :=
  match String.fromUTF8? bytes with
  | some text => return Text.withLineFeeds text
  | none => throw .undecodable

/-- The text of a file. -/
def readText (p : Path) (failure : Cause → Failure) : Job String := do
  let bytes ← ofExcept (fun fault => failure (.file fault)) (← readBytes p)
  decode bytes

/-- A text that was read as a value, or not. -/
def readValue (failure : Cause → Failure) (result : Except Document.Fault Value) : Job Value :=
  ofExcept (fun fault => failure (.content fault)) result

end Job

end ServiceBindings
