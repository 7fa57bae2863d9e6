import ServiceBindings.Bindings
import ServiceBindings.Text.Blank
import ServiceBindings.Workspace.Path

/-! # Settings

`Settings` are the options of a run. They are read from the entries of a mapping:

* an option stands under its own key or under its plain key (`Setting.key`, `Setting.plainKey`); if
  both are given, **its own key wins** and the plain key is left over;
* every option has a default (`Settings.default`), but the location of the document must not be
  blank;
* every value must have the form that its option asks for (`Checked`), and no key may be left over.

`Settings.validate` reads the options and reports **every** fault, in the order of the options and
then of the keys that are left over; `Settings.ofEntries` also asks for the document. `Settings.merge` puts
overrides over the entries of a file, where an absent override changes nothing. -/

namespace ServiceBindings

/-- The options of a run. -/
structure Settings where
  /-- The location of the document. -/
  docUrl : String
  /-- The base of all paths, which is dropped. -/
  base : String
  /-- The directory with the templates; the bundled ones without any. -/
  templateDir : Option Path
  /-- The directory for the generated modules. -/
  outputDir : Path
  /-- The file name of the services module. -/
  servicesFileName : String
  /-- The file name of the types module. -/
  typesFileName : String
  /-- The paths to include; empty for all. -/
  includePaths : List String
  /-- The paths to exclude. -/
  excludePaths : List String
  /-- The paths whose response is binary data. -/
  blobPaths : List String
  /-- Whether to format the generated modules. -/
  format : Bool
  deriving DecidableEq, Repr

/-- The options by name, in the order in which faults are reported. -/
inductive Setting where
  /-- The location of the document. -/
  | docUrl
  /-- The base of all paths. -/
  | base
  /-- The directory with the templates. -/
  | templateDir
  /-- The directory for the generated modules. -/
  | outputDir
  /-- The file name of the services module. -/
  | servicesFileName
  /-- The file name of the types module. -/
  | typesFileName
  /-- The paths to include. -/
  | includePaths
  /-- The paths to exclude. -/
  | excludePaths
  /-- The paths whose response is binary data. -/
  | blobPaths
  /-- Whether to format the generated modules. -/
  | format
  deriving DecidableEq, Repr

namespace Setting

/-- The key of an option. -/
def key : Setting → String
  | docUrl => "docUrl"
  | base => "baseURL"
  | templateDir => "templateDir"
  | outputDir => "outputDir"
  | servicesFileName => "servicesFileName"
  | typesFileName => "typesFileName"
  | includePaths => "includePaths"
  | excludePaths => "excludePaths"
  | blobPaths => "blobPaths"
  | format => "format"

/-- The plain key of an option, which counts where its own key is not given. -/
def plainKey : Setting → String
  | docUrl => "doc_url"
  | base => "base_url"
  | templateDir => "template_dir"
  | outputDir => "output_dir"
  | servicesFileName => "services_file_name"
  | typesFileName => "types_file_name"
  | includePaths => "include_paths"
  | excludePaths => "exclude_paths"
  | blobPaths => "blob_paths"
  | format => "format"

/-- All options. -/
def all : List Setting :=
  [docUrl, base, templateDir, outputDir, servicesFileName, typesFileName, includePaths,
    excludePaths, blobPaths, format]

/-- The key that an option is given under. -/
def usedKey (s : Setting) (entries : List (Scalar × Value)) : String :=
  if (Value.lookupText s.key entries).isSome then s.key else s.plainKey

/-- The value that an option is given. -/
def given? (s : Setting) (entries : List (Scalar × Value)) : Option Value :=
  Value.lookupText (s.usedKey entries) entries

end Setting

/-- Whether a number fits into a signed word of 64 bits. -/
def fitsInt64 (n : Int) : Bool := decide (Int64.minValue.toInt ≤ n ∧ n ≤ Int64.maxValue.toInt)

/-- A step to the place of a fault. -/
inductive FaultStep where
  /-- To the value of a key. -/
  | name (key : String)
  /-- To an item of a list, or to the value of a key that is a number. -/
  | number (n : Int)
  deriving DecidableEq, Repr

namespace FaultStep

/-- How far a clock is ahead of universal time, in days and seconds. -/
def zoneText (minutes : Int) : String :=
  let seconds := minutes * 60
  let ahead := "seconds=" ++ toString (seconds % 86400)
  let difference := if seconds < 0 then "days=-1, " ++ ahead else ahead
  if minutes = 0 then "datetime.timezone.utc"
  else "datetime.timezone(datetime.timedelta(" ++ difference ++ "))"

/-- The numbers of a point in time. Seconds and millionths are left out while they and all that follows
them are zero. -/
def timestampText (t : Timestamp) : String :=
  let small := if t.micro ≠ 0 then [t.second, t.micro] else if t.second ≠ 0 then [t.second] else []
  let numbers := [t.date.year, t.date.month, t.date.day, t.hour, t.minute] ++ small
  let zone := t.zone.map fun minutes => "tzinfo=" ++ zoneText minutes
  "datetime.datetime(" ++ Text.join ", " (numbers.map toString ++ zone.toList) ++ ")"

/-- The step to the value of a key. -/
def ofKey : Scalar → FaultStep
  | .int n => if fitsInt64 n then .number n else .name (toString n)
  | .flag b => .number (if b then 1 else 0)
  | .date d => .name s!"datetime.date({d.year}, {d.month}, {d.day})"
  | .timestamp t => .name (timestampText t)
  | key => .name key.display

end FaultStep

/-- What is wrong with the value of an option, or with a key. -/
inductive FaultKind where
  /-- A text is expected. -/
  | textExpected
  /-- A text is expected, and bytes are given that are none. -/
  | textUndecodable
  /-- The text of a path is expected. -/
  | pathExpected
  /-- A list is expected. -/
  | listExpected
  /-- A number or a text that means neither true nor false. -/
  | flagUnreadable
  /-- A flag is expected. -/
  | flagExpected
  /-- The key is that of no option, or its option is given under its own key. -/
  | keyLeftOver
  /-- The key is no text. -/
  | keyNotText
  deriving DecidableEq, Repr

namespace FaultKind

/-- The wording of a fault. -/
def message : FaultKind → String
  | textExpected => "a text is expected"
  | textUndecodable => "the bytes are no text"
  | pathExpected => "a path is expected"
  | listExpected => "a list is expected"
  | flagUnreadable => "neither true nor false"
  | flagExpected => "true or false is expected"
  | keyLeftOver => "no such option"
  | keyNotText => "the name of an option is a text"

end FaultKind

/-- A fault and its place. -/
structure SettingFault where
  /-- The steps to the place of the fault. -/
  place : List FaultStep
  /-- What is wrong there. -/
  kind : FaultKind
  deriving DecidableEq, Repr

/-- What an option reads as, with the faults of its value. -/
structure Checked (α : Type) where
  /-- What the option reads as; its default if the value is at fault. -/
  value : α
  /-- The faults. -/
  faults : List SettingFault

namespace Checked

/-- Read an option: its default if it is not given, otherwise what `read` makes of its value. A fault
is told by what is wrong and by the steps to it within the value. -/
def option {α : Type} (s : Setting) (entries : List (Scalar × Value)) (default : α)
    (read : Value → Except (List (List FaultStep × FaultKind)) α) : Checked α :=
  match s.given? entries with
  | none => ⟨default, []⟩
  | some v =>
      match read v with
      | .ok value => ⟨value, []⟩
      | .error faults =>
          ⟨default, faults.map fun (place, kind) => ⟨.name (s.usedKey entries) :: place, kind⟩⟩

end Checked

namespace Settings

/-- The text of bytes, if they are one. -/
def decode? (bytes : List UInt8) : Option String := String.fromUTF8? ⟨bytes.toArray⟩

/-- Read a text, or the bytes of one. -/
def readText : Value → Except (List (List FaultStep × FaultKind)) String
  | .scalar (.text s) => .ok s
  | .scalar (.bytes bs) =>
      match decode? bs with
      | some s => .ok s
      | none => .error [([], .textUndecodable)]
  | _ => .error [([], .textExpected)]

/-- Read a path. -/
def readPath : Value → Except (List (List FaultStep × FaultKind)) Path
  | .scalar (.text s) => .ok (.ofText s)
  | _ => .error [([], .pathExpected)]

/-- Read the items of a list of texts, the first item having the given index. All faults are told. -/
def readItems (index : Nat) : List Value → Except (List (List FaultStep × FaultKind)) (List String)
  | [] => .ok []
  | v :: rest =>
      match readText v, readItems (index + 1) rest with
      | .ok s, .ok others => .ok (s :: others)
      | .ok _, .error faults => .error faults
      | .error faults, .ok _ => .error (faults.map fun (place, kind) => (.number index :: place, kind))
      | .error faults, .error others =>
          .error ((faults.map fun (place, kind) => (.number index :: place, kind)) ++ others)

/-- Read a list of texts, or a set of them. -/
def readTexts : Value → Except (List (List FaultStep × FaultKind)) (List String)
  | .list items => readItems 0 items
  | .set members => readItems 0 (members.map .scalar)
  | _ => .error [([], .listExpected)]

/-- The words that mean true, in any case of the letters. -/
def trueWords : List String := ["1", "on", "t", "true", "y", "yes"]

/-- The words that mean false, in any case of the letters. -/
def falseWords : List String := ["0", "off", "f", "false", "n", "no"]

/-- Whether a scalar is a whole number of 64 bits. A binary number that is the least of these does not
count. -/
def isInt64 (s : Scalar) : Bool :=
  match s with
  | .int n => fitsInt64 n
  | s =>
      match s.quotient? with
      | some (n, d) => decide (n % d = 0 ∧ n / d ≠ Int64.minValue.toInt) && fitsInt64 (n / d)
      | none => false

/-- The flag that a word means, in any case of the letters. -/
def flagOfWord (word : String) : Except (List (List FaultStep × FaultKind)) Bool :=
  let word := Text.asciiLower word
  if word ∈ trueWords then .ok true
  else if word ∈ falseWords then .ok false
  else .error [([], .flagUnreadable)]

/-- Read a flag. Zero and one count as flags, and so do the words that mean true or false. Any other word
and any other whole number of 64 bits is unreadable. -/
def readFlag : Value → Except (List (List FaultStep × FaultKind)) Bool
  | .scalar (.flag b) => .ok b
  | .scalar (.text s) => flagOfWord s
  | .scalar (.bytes bs) =>
      match decode? bs with
      | some s => flagOfWord s
      | none => .error [([], .flagUnreadable)]
  | .scalar s =>
      match s.quotient? with
      | some (n, d) =>
          if n = 0 then .ok false
          else if n = d then .ok true
          else if isInt64 s then .error [([], .flagUnreadable)]
          else .error [([], .flagExpected)]
      | none => .error [([], .flagExpected)]
  | _ => .error [([], .flagExpected)]

/-- The options where nothing is given, in a working directory. -/
def default (workingDir : Path) : Settings where
  docUrl := ""
  base := "/api"
  templateDir := none
  outputDir := workingDir.join "src/api"
  servicesFileName := "services.ts"
  typesFileName := "services.types.ts"
  includePaths := []
  excludePaths := []
  blobPaths := []
  format := false

/-- The faults of the keys that are left over. -/
def keyFaults (entries : List (Scalar × Value)) : List SettingFault :=
  let used := Setting.all.map fun s => s.usedKey entries
  entries.filterMap fun (key, _) =>
    match key with
    | .text name => if name ∈ used then none else some ⟨[.name name], .keyLeftOver⟩
    | key => some ⟨[.ofKey key], .keyNotText⟩

/-- Why there are no settings. -/
inductive Refusal where
  /-- Values or keys are at fault. -/
  | faulty (faults : List SettingFault)
  /-- The location of the document is blank. -/
  | noDocument
  deriving DecidableEq, Repr

/-- The options that the entries of a mapping give, or every fault in them. -/
def validate (workingDir : Path) (entries : List (Scalar × Value)) :
    Except (List SettingFault) Settings :=
  let start := default workingDir
  let docUrl := Checked.option .docUrl entries start.docUrl readText
  let base := Checked.option .base entries start.base readText
  let templateDir := Checked.option .templateDir entries start.templateDir
    fun v => (readPath v).map some
  let outputDir := Checked.option .outputDir entries start.outputDir readPath
  let servicesFileName := Checked.option .servicesFileName entries start.servicesFileName readText
  let typesFileName := Checked.option .typesFileName entries start.typesFileName readText
  let includePaths := Checked.option .includePaths entries start.includePaths readTexts
  let excludePaths := Checked.option .excludePaths entries start.excludePaths readTexts
  let blobPaths := Checked.option .blobPaths entries start.blobPaths readTexts
  let format := Checked.option .format entries start.format readFlag
  let faults := docUrl.faults ++ base.faults ++ templateDir.faults ++ outputDir.faults ++
    servicesFileName.faults ++ typesFileName.faults ++ includePaths.faults ++
    excludePaths.faults ++ blobPaths.faults ++ format.faults ++ keyFaults entries
  if !faults.isEmpty then .error faults
  else
    .ok
      { docUrl := docUrl.value
        base := base.value
        templateDir := templateDir.value
        outputDir := outputDir.value
        servicesFileName := servicesFileName.value
        typesFileName := typesFileName.value
        includePaths := includePaths.value
        excludePaths := excludePaths.value
        blobPaths := blobPaths.value
        format := format.value }

/-- Accept settings whose document is named. -/
def ensureDocument (s : Settings) : Except Refusal Settings :=
  if Text.isBlank s.docUrl then .error .noDocument else .ok s

/-- Read the options from the entries of a mapping. -/
def ofEntries (workingDir : Path) (entries : List (Scalar × Value)) : Except Refusal Settings :=
  (validate workingDir entries).mapError .faulty >>= ensureDocument

/-- Put overrides over the entries of a file. An override that is null changes nothing. -/
def merge (entries overrides : List (Scalar × Value)) : List (Scalar × Value) :=
  Entries.insertAllBy Scalar.sameKey entries
    (overrides.filter fun override => override.2 ≠ .null)

/-- What is selected, and how bindings are derived from it. -/
def selection (s : Settings) : Selection where
  base := s.base
  includePaths := s.includePaths
  excludePaths := s.excludePaths
  blobPaths := s.blobPaths

end Settings

end ServiceBindings
