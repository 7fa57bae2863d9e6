import ServiceBindings.Json.Reader
import ServiceBindings.Text.Blank
import ServiceBindings.Text.Capital
import ServiceBindings.Text.Printable
import ServiceBindings.Text.Replace
import ServiceBindings.Yaml.Reader

/-! # Documents

The description of a service is a document, written in JSON or in YAML. `Readers` are what its text is read
with.

* `Document.read` reads a text as JSON, and as YAML if it is no JSON text.
* `Document.checkVersion` accepts the documents that declare version three or later of the
  description format.
* `Document.isRemote` tells the locations on the web from the paths of files. -/

namespace ServiceBindings

/-- Why the version of a document is not accepted. -/
inductive VersionError where
  /-- The document declares the version before the third, under its own key. -/
  | swagger
  /-- The document declares no version. -/
  | undeclared
  /-- The version does not begin with a number. -/
  | unreadable (version : String)
  /-- The version is before the third. -/
  | unsupported (version : String)
  /-- The number that the version begins with has too many digits. -/
  | tooManyDigits (count : Nat)
  deriving DecidableEq, Repr

namespace VersionError

/-- The wording of an error. -/
def message : VersionError → String
  | swagger =>
      "Swagger 2.0 documents are not supported; convert the document to OpenAPI 3 first"
  | undeclared => "Document declares no 'openapi' version; is it an OpenAPI document?"
  | unreadable version => "Cannot read OpenAPI version " ++ Text.quoted version
  | unsupported version =>
      "OpenAPI " ++ version ++ " is not supported; generation needs an OpenAPI 3 document"
  | tooManyDigits count => "the version begins with a number of " ++ toString count ++ " digits"

/-- Whether an error is one of the document, and not that of a limit. -/
def isReported : VersionError → Bool
  | tooManyDigits _ => false
  | _ => true

end VersionError

/-- What texts are read with. -/
structure Readers where
  /-- The characters that stand for surrogates. -/
  surrogates : SurrogateBlock := .standard
  /-- How many lists and mappings of a JSON text may be open at a time. -/
  depth : Nat := 1000
  /-- The reader of YAML texts. A collection that holds itself has no finite value, so that the reader ends
  it somewhere. -/
  yaml : String → Except Yaml.Fault Value := Yaml.read

namespace Document

/-- Why a text is not read. -/
inductive Fault where
  /-- It is not read as JSON. -/
  | json (fault : Json.Fault)
  /-- It is not read as YAML. -/
  | yaml (fault : Yaml.Fault)
  deriving DecidableEq, Repr

namespace Fault

/-- The wording of a fault. -/
def message : Fault → String
  | json fault => fault.message
  | yaml fault => fault.message

/-- Whether a fault is that of a text. -/
def isReported : Fault → Bool
  | json fault => fault.isReported
  | yaml fault => fault.isReported

end Fault

/-- Read a JSON text. -/
def readJson (r : Readers) (text : String) : Except Fault Value :=
  (Json.load r.depth r.surrogates text).mapError .json

/-- Read a YAML text. -/
def readYaml (r : Readers) (text : String) : Except Fault Value := (r.yaml text).mapError .yaml

/-- Read a text as JSON, and as YAML if it is no JSON text. -/
def read (r : Readers) (text : String) : Except Fault Value :=
  match readJson r text with
  | .error (.json .malformed) => readYaml r text
  | result => result

/-- The version that a document declares, without white space around it. -/
def version (document : Value) : Except VersionError String :=
  match document.get? "openapi" with
  | some (.scalar (.text text)) =>
      if Text.isBlank text then undeclaredBy document else .ok (Text.strip text)
  | _ => undeclaredBy document
where
  /-- What is wrong with a document that declares no version. -/
  undeclaredBy (document : Value) : Except VersionError String :=
    if (document.get? "swagger").isSome then .error .swagger else .error .undeclared

/-- What stands in front of the first point of a version. -/
def majorText (version : String) : String := .ofList (version.toList.takeWhile (· != '.'))

/-- Accept version three or later. -/
def ensureSupported (version : String) : Except VersionError Unit :=
  match natOfDigits? 10 (majorText version).toList with
  | none => .error (.unreadable version)
  | some major =>
      if isOverlong (majorText version) then .error (.tooManyDigits (majorText version).length)
      else if major < 3 then .error (.unsupported version)
      else .ok ()

/-- Accept the documents that declare version three or later. -/
def checkVersion (document : Value) : Except VersionError Unit :=
  (version document).bind ensureSupported

/-- The number of paths of a document. -/
def pathCount (document : Value) : Nat :=
  match document.get? "paths" with
  | some (.map entries) => entries.length
  | _ => 0

/-- Whether a location is an address on the web. -/
def isRemote (location : String) : Bool :=
  let start := Text.asciiLower location
  Text.beginsWith "http://" start || Text.beginsWith "https://" start

end Document

end ServiceBindings
