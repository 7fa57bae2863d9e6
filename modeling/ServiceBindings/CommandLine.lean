import ServiceBindings.CommandLine.Arguments
import ServiceBindings.Generation

/-! # The command line

`commandLine` runs the program with the words of a command line. It ends with an exit status and with
what it writes to its two outputs: status 0 after a run that went through, status 2 and an error line
after a fault in the command line or a **reported** failure. Any other failure interrupts the program
(`Ending.interrupted`), and so does a report that cannot be printed. -/

namespace ServiceBindings

/-- How the program ends. -/
inductive Ending where
  /-- Help was asked for. -/
  | help
  /-- The program ran: its exit status, its output and its error output. -/
  | exit (status : Nat) (output errors : String)
  /-- A failure that is not reported. -/
  | interrupted (failure : Failure)
  deriving DecidableEq, Repr

/-- The name of the program. -/
def programName : String := "openapi-to-ts-services-generator"

/-- An error line. -/
def errorLine (message : String) : String := programName ++ ": error: " ++ message ++ "\n"

/-- The line of an option in the help. -/
def helpLine (s : Switch) : String :=
  "  " ++ Text.join ", " s.spellings ++ (if s.takesValue then " VALUE" else "") ++ "  " ++ s.purpose ++
    "\n"

/-- The help of the program. -/
def helpText : String :=
  "usage: " ++ programName ++ " [options]\n\n" ++
    "Generate TypeScript service functions and types from an OpenAPI v3 document\n\noptions:\n" ++
    .join (Switch.all.map helpLine)

/-- The entries of the settings file that a command line names; none if it names no file. -/
def Arguments.entries (a : Arguments) : Job (List (Scalar × Value)) :=
  match a.config? with
  | some path => loadSettings (.ofText path)
  | none => return []

/-- The settings that a command line asks for. -/
def Arguments.settings (a : Arguments) : Job Settings := do
  resolveSettings (← a.entries) a.overrides

/-- The run that a command line asks for. -/
def Arguments.run (a : Arguments) : Job Generation := do
  generate (← a.settings) true

/-- The messages of a run that are shown: the important ones, and all if asked to. -/
def shownMessages (verbose : Bool) (log : List LogEntry) : String :=
  .join ((log.filter fun e => verbose || e.level == .warning).map LogEntry.line)

/-- The output of a run that went through. -/
def report (g : Generation) : String :=
  .join (g.bindings.collisions.map fun collision => "Warning: " ++ collision.message ++ "\n") ++
    .join (g.written.map fun path => "Wrote " ++ path.text ++ "\n")

/-- Run the program, given the wording of causes. -/
def commandLine (describe : Cause → String) (words : List String) (s : Surroundings)
    (scene : Scene) : Ending × Scene :=
  match Arguments.ofWords words with
  | .error e => (.exit 2 "" (errorLine e.message), scene)
  | .ok none => (.help, scene)
  | .ok (some a) =>
      let (result, after) := a.run.perform s scene
      let messages := shownMessages (a.has .verbose) (after.log.drop scene.log.length)
      match result with
      | .ok g =>
          if s.prints (report g) then (.exit 0 (report g) messages, after)
          else (.interrupted .reportNotPrinted, after)
      | .error failure =>
          if failure.area?.isSome then
            (.exit 2 "" (messages ++ errorLine (failure.message describe)), after)
          else (.interrupted failure, after)

end ServiceBindings
