import ServiceBindings.Text.Digit
import ServiceBindings.Text.Printable
import ServiceBindings.Text.Replace
import ServiceBindings.Text.Split
import ServiceBindings.Value

/-! # Arguments of the command line

`Arguments.ofWords` reads the words of a command line.

* A word is first **classified** by itself (`Word.classify`): an option, perhaps with a value after an
  equality sign, or a plain word. The name of a long option may be shortened as long as only one option
  begins with it; short options may share one word. After two hyphens alone, every word is plain.
* Then the words are read from left to right: an option that takes a value takes the plain word after
  it. Asking for help ends the reading.
* Words that belong to no option are a fault, as there are none that the program would take. -/

namespace ServiceBindings

/-- The options of the command line, in the order in which they are listed. -/
inductive Switch where
  /-- Show the help. -/
  | help
  /-- The path of a settings file. -/
  | config
  /-- The location of the document. -/
  | docUrl
  /-- The base of all paths. -/
  | base
  /-- The directory with the templates. -/
  | templateDir
  /-- The directory for the generated modules. -/
  | outputDir
  /-- The file name of the services module. -/
  | servicesFileName
  /-- The file name of the types module. -/
  | typesFileName
  /-- A path to include. -/
  | includePath
  /-- A path to exclude. -/
  | excludePath
  /-- A path whose response is binary data. -/
  | blobPath
  /-- Format the generated modules. -/
  | format
  /-- Show what is being done. -/
  | verbose
  deriving DecidableEq, Repr

namespace Switch

/-- The spellings of an option. -/
def spellings : Switch → List String
  | help => ["-h", "--help"]
  | config => ["--config"]
  | docUrl => ["--doc-url"]
  | base => ["--base-url"]
  | templateDir => ["--template-dir"]
  | outputDir => ["--output-dir"]
  | servicesFileName => ["--services-file-name"]
  | typesFileName => ["--types-file-name"]
  | includePath => ["--include-path"]
  | excludePath => ["--exclude-path"]
  | blobPath => ["--blob-path"]
  | format => ["--format"]
  | verbose => ["-v", "--verbose"]

/-- Whether an option takes a value. -/
def takesValue : Switch → Bool
  | help => false
  | format => false
  | verbose => false
  | _ => true

/-- What an option is for. -/
def purpose : Switch → String
  | help => "show this help message and exit"
  | config => "Path to a JSON or YAML generator config file"
  | docUrl => "URL or file path of the OpenAPI document"
  | base => "Prefix stripped from every path before naming"
  | templateDir => "Directory holding the render templates"
  | outputDir => "Directory for generated files"
  | servicesFileName => "File name of the services module"
  | typesFileName => "File name of the types module"
  | includePath => "Only generate this document path (repeatable)"
  | excludePath => "Skip this document path (repeatable)"
  | blobPath => "Treat responses of this path as binary blobs (repeatable)"
  | format => "Format generated files with prettier"
  | verbose => "Enable info logging"

/-- All options. -/
def all : List Switch :=
  [help, config, docUrl, base, templateDir, outputDir, servicesFileName, typesFileName,
    includePath, excludePath, blobPath, format, verbose]

/-- All spellings, each with its option. -/
def table : List (String × Switch) :=
  all.flatMap fun s => s.spellings.map fun spelling => (spelling, s)

/-- The name of an option in a message: all its spellings. -/
def title (s : Switch) : String := Text.join "/" s.spellings

end Switch

/-- Why a command line cannot be read. -/
inductive UsageError where
  /-- More than one option begins with a word. -/
  | ambiguous (word : String) (candidates : List String)
  /-- An option lacks its value. -/
  | missingValue (s : Switch)
  /-- An option takes no value but is given one. -/
  | needlessValue (s : Switch) (value : String)
  /-- Words that belong to no option. -/
  | unrecognized (words : List String)
  deriving DecidableEq, Repr

namespace UsageError

/-- The wording of an error. -/
def message : UsageError → String
  | ambiguous word candidates =>
      "ambiguous option: " ++ word ++ " could match " ++ Text.join ", " candidates
  | missingValue s => "argument " ++ s.title ++ ": expected one argument"
  | needlessValue s value =>
      "argument " ++ s.title ++ ": ignored explicit argument " ++ Text.quoted value
  | unrecognized words => "unrecognized arguments: " ++ Text.join " " words

end UsageError

/-- What a word of the command line is. -/
inductive Word where
  /-- A plain word. -/
  | plain
  /-- Two hyphens alone. -/
  | separator
  /-- An option, perhaps with a value after an equality sign. -/
  | switch (s : Switch) (attached : Option String)
  /-- A short option, and what follows it in the word. -/
  | cluster (s : Switch) (rest : List Char)
  /-- A word that looks like an option but is none. -/
  | unknown
  deriving DecidableEq, Repr

namespace Word

/-- A text up to the first equality sign, and what follows the sign if there is one. -/
def cutAtEquals (word : String) : String × Option String :=
  let cs := word.toList
  match cs.dropWhile (· != '=') with
  | [] => (word, none)
  | _ :: value => (.ofList (cs.takeWhile (· != '=')), some (.ofList value))

/-- What a word can be that is no spelling of an option, each with the spelling it stands for: a short
option that begins it, or an option whose spelling it begins. -/
def candidates (word : String) : List (Word × String) :=
  match word.toList with
  | '-' :: '-' :: _ =>
      let (start, attached) := cutAtEquals word
      Switch.table.filterMap fun (spelling, s) =>
        if Text.beginsWith start spelling then some (.switch s attached, spelling) else none
  | '-' :: c :: rest =>
      Switch.table.filterMap fun (spelling, s) =>
        if spelling.toList = ['-', c] then some (.cluster s rest, spelling)
        else if Text.beginsWith word spelling then some (.switch s none, spelling)
        else none
  | _ => []

/-- Whether the characters after a hyphen make a negative number: digits with at most one point among
them, which is not the last of them. A line feed may follow. -/
def isNegativeNumber (afterHyphen : List Char) : Bool :=
  let cs := if afterHyphen.getLast? = some '\n' then afterHyphen.dropLast else afterHyphen
  match cs.dropWhile isDecimalDigit with
  | [] => !cs.isEmpty
  | '.' :: fraction => !fraction.isEmpty && fraction.all isDecimalDigit
  | _ => false

/-- A word that is no spelling of an option and stands for none. -/
def ofOther (word : String) : Word :=
  if isNegativeNumber word.toList.tail || word.toList.contains ' ' then .plain else .unknown

/-- An option with a value after an equality sign. After a short option, a value that is not empty is
read like more of the word. -/
def ofAttached (start : String) (s : Switch) (value : String) : Word :=
  if Text.beginsWith "--" start || value.isEmpty then .switch s (some value)
  else .cluster s value.toList

/-- What a word is, if it stands before two hyphens alone. -/
def classify (word : String) : Except UsageError Word :=
  if word = "--" then .ok .separator
  else if !Text.beginsWith "-" word || word = "-" then .ok .plain
  else
    match Switch.table.lookup word with
    | some s => .ok (.switch s none)
    | none =>
        let (start, attached) := cutAtEquals word
        match attached, Switch.table.lookup start with
        | some value, some s => .ok (ofAttached start s value)
        | _, _ =>
            match candidates word with
            | [] => .ok (ofOther word)
            | [(kind, _)] => .ok kind
            | several => .error (.ambiguous word (several.map Prod.snd))

/-- What words are. After two hyphens alone, every word is plain. -/
def classifyAll : List String → Except UsageError (List (String × Word))
  | [] => .ok []
  | word :: rest => do
      let kind ← classify word
      if kind = .separator then return (word, kind) :: rest.map fun other => (other, .plain)
      else return (word, kind) :: (← classifyAll rest)

end Word

/-- What a command line says. -/
structure Arguments where
  /-- The options in order, each with its value; an option without a value has an empty one. -/
  given : List (Switch × String)
  deriving DecidableEq, Repr

namespace Arguments

/-- Read a word of short options, given the first one and what follows it. Short options take no value,
so that what is no option counts as a needless value of the one in front of it. -/
def cluster : Switch → List Char → Except UsageError (List Switch)
  | s, [] => .ok [s]
  | s, c :: rest =>
      match Switch.table.lookup (.ofList ['-', c]) with
      | some next => (cluster next rest).map (s :: ·)
      | none => .error (.needlessValue s (.ofList (c :: rest)))

/-- Read classified words, after the options `given` and the words `extras` that belong to none. There
is no result where help is asked for. -/
def read (given : List (Switch × String)) (extras : List String) :
    List (String × Word) → Except UsageError (Option Arguments)
  | [] => if extras.isEmpty then .ok (some ⟨given⟩) else .error (.unrecognized extras)
  | (_, .switch s none) :: rest =>
      if s = .help then .ok none
      else if s.takesValue then
        match rest with
        | (value, .plain) :: rest => read (given ++ [(s, value)]) extras rest
        | _ => .error (.missingValue s)
      else read (given ++ [(s, "")]) extras rest
  | (_, .switch s (some value)) :: rest =>
      if s.takesValue then read (given ++ [(s, value)]) extras rest
      else .error (.needlessValue s value)
  | (_, .cluster s following) :: rest =>
      match cluster s following with
      | .error e => .error e
      | .ok more =>
          if .help ∈ more then .ok none else read (given ++ more.map (·, "")) extras rest
  | (word, _) :: rest => read given (extras ++ [word]) rest

/-- Read the words of a command line. There is no result where help is asked for. -/
def ofWords (words : List String) : Except UsageError (Option Arguments) := do
  read [] [] (← Word.classifyAll words)

/-- The values of an option, in order. -/
def valuesOf (a : Arguments) (s : Switch) : List String :=
  a.given.filterMap fun entry => if entry.1 = s then some entry.2 else none

/-- Whether an option is given. -/
def has (a : Arguments) (s : Switch) : Bool := !(a.valuesOf s).isEmpty

/-- The last value of an option. -/
def textOf (a : Arguments) (s : Switch) : Value :=
  ((a.valuesOf s).getLast?.map Value.text).getD .null

/-- All values of an option. -/
def textsOf (a : Arguments) (s : Switch) : Value :=
  if a.has s then .list ((a.valuesOf s).map Value.text) else .null

/-- The settings that a command line overrides; what is not given is null. -/
def overrides (a : Arguments) : List (Scalar × Value) :=
  [(.text "docUrl", a.textOf .docUrl), (.text "baseURL", a.textOf .base),
    (.text "templateDir", a.textOf .templateDir), (.text "outputDir", a.textOf .outputDir),
    (.text "servicesFileName", a.textOf .servicesFileName),
    (.text "typesFileName", a.textOf .typesFileName),
    (.text "includePaths", a.textsOf .includePath),
    (.text "excludePaths", a.textsOf .excludePath), (.text "blobPaths", a.textsOf .blobPath),
    (.text "format", if a.has .format then .scalar (.flag true) else .null)]

/-- The path of the settings file, unless it is empty. -/
def config? (a : Arguments) : Option String :=
  (a.valuesOf .config).getLast?.filter (· ≠ "")

end Arguments

end ServiceBindings
