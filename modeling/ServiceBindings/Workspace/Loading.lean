import ServiceBindings.Workspace.Basic

/-! # Loading documents and settings

* `loadDocument` reads the document at a location, a file or an address on the web, and checks its
  version.
* `loadSettings` reads the entries of a settings file, JSON by the ending of its name and YAML
  otherwise; an empty file has no entries.
* `resolveSettings` puts overrides over them and has them validated. -/

namespace ServiceBindings

/-- What the status of a reply means. -/
def statusMeanings : List (Nat × String) :=
  [(100, "Continue"), (101, "Switching Protocols"), (102, "Processing"), (103, "Early Hints"),
    (200, "OK"), (201, "Created"), (202, "Accepted"), (203, "Non-Authoritative Information"),
    (204, "No Content"), (205, "Reset Content"), (206, "Partial Content"),
    (207, "Multi-Status"), (208, "Already Reported"), (226, "IM Used"),
    (300, "Multiple Choices"), (301, "Moved Permanently"), (302, "Found"), (303, "See Other"),
    (304, "Not Modified"), (305, "Use Proxy"), (307, "Temporary Redirect"),
    (308, "Permanent Redirect"), (400, "Bad Request"), (401, "Unauthorized"),
    (402, "Payment Required"), (403, "Forbidden"), (404, "Not Found"),
    (405, "Method Not Allowed"), (406, "Not Acceptable"),
    (407, "Proxy Authentication Required"), (408, "Request Timeout"), (409, "Conflict"),
    (410, "Gone"), (411, "Length Required"), (412, "Precondition Failed"),
    (413, "Request Entity Too Large"), (414, "Request-URI Too Long"),
    (415, "Unsupported Media Type"), (416, "Requested Range Not Satisfiable"),
    (417, "Expectation Failed"), (418, "I'm a teapot"), (421, "Misdirected Request"),
    (422, "Unprocessable Entity"), (423, "Locked"), (424, "Failed Dependency"),
    (425, "Too Early"), (426, "Upgrade Required"), (428, "Precondition Required"),
    (429, "Too Many Requests"), (431, "Request Header Fields Too Large"),
    (451, "Unavailable For Legal Reasons"), (500, "Internal Server Error"),
    (501, "Not Implemented"), (502, "Bad Gateway"), (503, "Service Unavailable"),
    (504, "Gateway Timeout"), (505, "HTTP Version Not Supported"),
    (506, "Variant Also Negotiates"), (507, "Insufficient Storage"), (508, "Loop Detected"),
    (510, "Not Extended"), (511, "Network Authentication Required")]

/-- Record a request, and log the status of its reply. -/
def recordExchange (e : Exchange) : Job Unit := do
  modify fun scene => { scene with requests := scene.requests ++ [e.url] }
  match e.status with
  | some status =>
      Job.log .info .web ("HTTP Request: GET " ++ e.url ++ " \"HTTP/1.1 " ++ toString status ++
        " " ++ (statusMeanings.lookup status).getD "" ++ "\"")
  | none => return

/-- Fetch the text of a document. -/
def fetchText (location : String) (followRedirections : Bool) : Job String := do
  let (exchanges, result) := (← read).client followRedirections location
  exchanges.forM recordExchange
  Job.ofExcept (.documentNotFetched location) result

/-- Load the document at a location. -/
def loadDocument (location : String) (followRedirections : Bool) : Job Value := do
  let text ←
    if Document.isRemote location then fetchText location followRedirections
    else
      let path := Path.ofText location
      Job.readText path (.documentUnreadable path)
  let document ← Job.readValue (.documentMalformed location) (Document.read (← read).readers text)
  match document with
  | .map _ =>
      Job.ofExcept .documentVersion (Document.checkVersion document)
      Job.log .info .loading ("Loaded OpenAPI document from " ++ location ++ " (" ++
        toString (Document.pathCount document) ++ " paths)")
      return document
  | _ => throw (.documentNotMapping document.kindName)

/-- Load the entries of a settings file. -/
def loadSettings (path : Path) : Job (List (Scalar × Value)) := do
  let text ← Job.readText path (.settingsUnreadable path)
  let readers := (← read).readers
  let payload ← Job.readValue (.settingsMalformed path)
    (if Text.asciiLower path.suffix = ".json" then Document.readJson readers text
      else Document.readYaml readers text)
  match payload with
  | .scalar .null => return []
  | .map entries => return entries
  | _ => throw (.settingsNotMapping path payload.kindName)

/-- Put overrides over the entries of a file and have them validated. Where no output directory is given, the
working directory is asked for. -/
def resolveSettings (entries overrides : List (Scalar × Value)) : Job Settings := do
  let s ← read
  let given := Settings.merge entries overrides
  if (Setting.outputDir.given? given).isNone ∧ (← get).files.node? s.workingPlace ≠ some .directory then
    throw .workingDirLost
  let settings ← Job.ofExcept (fun faults => .settingsRefused (.faulty faults))
    (s.validate s.workingDir given)
  Job.ofExcept .settingsRefused settings.ensureDocument

end ServiceBindings
