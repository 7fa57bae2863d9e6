import ServiceBindings.Text.Replace
import ServiceBindings.Web.Url

/-! # References to addresses

A redirection is a `Url` that may leave parts out. `Url.redirected?` finds the address that it leads to:

* a scheme without a host is about the host of the request;
* what a relative reference leaves out is taken from the request (`Url.join?`). A path that does not begin
  with a slash is read below the directory of the request's path;
* the fragment of the request stays unless there is a new one. -/

namespace ServiceBindings

namespace Url

/-- The schemes whose addresses can be left out in part. -/
def relativeSchemes : List String :=
  ["", "file", "ftp", "gopher", "http", "https", "imap", "mms", "nntp", "prospero", "rtsp", "rtsps",
    "rtspu", "sftp", "shttp", "svn", "svn+ssh", "wais", "ws", "wss"]

/-- Those of them whose paths have no parameters. -/
def plainSchemes : List String :=
  ["file", "gopher", "nntp", "svn", "svn+ssh", "wais", "ws", "wss"]

/-- The last name of a path ends at its first semicolon, and parameters follow. -/
def cutParameters (scheme path : String) : String × String :=
  if scheme ∈ plainSchemes then (path, "")
  else
    let (dir, name) := match cutAtLast '/' path.toList with
      | (some dir, name) => (dir ++ ['/'], name)
      | (none, name) => ([], name)
    let (name, parameters) := cutAt ';' name
    (.ofList (dir ++ name), .ofList (parameters.getD []))

/-- A path with parameters behind it, if there are any. -/
def withParameters (path parameters : String) : String :=
  if parameters.isEmpty then path else path ++ ";" ++ parameters

/-- A list without the empty texts between its first and its last item. -/
def dropEmptyInside : List String → List String
  | [] => []
  | first :: rest => first :: (rest.dropLast.filter (· ≠ "") ++ rest.getLast?.toList)

/-- The names of a relative path, read below the names of another path. -/
def namesBelow (base names : List String) : List String :=
  let dir := if base.getLast? = some "" then base else base.dropLast
  dropEmptyInside (dir ++ names)

/-- Names with the dots taken out, given the names in front of them, the last one first: two dots lead
one name up, even above the root. -/
def resolveNames : List String → List String → List String
  | done, [] => done.reverse
  | done, "." :: rest => resolveNames done rest
  | done, ".." :: rest => resolveNames done.tail rest
  | done, name :: rest => resolveNames (name :: done) rest

/-- A path that a reference writes, read below the path of an address. A dot at its end leads to the
inside of a directory. -/
def joinPath (base path : String) : String :=
  let names := Text.splitAt '/' path
  let names :=
    if Text.beginsWith "/" path then names else namesBelow (Text.splitAt '/' base) names
  let inside := names.getLast? = some "." ∨ names.getLast? = some ".."
  let joined := Text.join "/" (resolveNames [] names ++ if inside then [""] else [])
  if joined.isEmpty then "/" else joined

/-- A path on a host begins with a slash. -/
def rooted (path : String) : String := if Text.beginsWith "/" path then path else "/" ++ path

/-- Read a reference below an address, both as they are written: what it leaves out is taken from the
address. The empty reference is the address itself. Where a reference has another scheme, or the scheme of
the address is one whose addresses cannot be left out in part, nothing is taken. -/
def join? (e : WebEncodings) (base reference : Url) : Option Url := do
  let base ← ofText? e base.text
  let reference ← ofText? e reference.text
  if reference.text.isEmpty then return base
  else if reference.scheme ∉ ["", base.scheme] || base.scheme ∉ relativeSchemes then return reference
  else
    let query := reference.query.filter (· ≠ "")
    let fragment := reference.fragment.filter (· ≠ "")
    let (path, parameters) := cutParameters base.scheme reference.path
    let (basePath, baseParameters) := cutParameters base.scheme base.path
    let joined : Url :=
      if !reference.authority.isEmpty then
        { reference with
          scheme := base.scheme, path := withParameters path parameters, query, fragment }
      else if path.isEmpty && parameters.isEmpty then
        { base with
          path := withParameters basePath baseParameters
          query := query.or (base.query.filter (· ≠ "")), fragment }
      else
        let path := withParameters (joinPath basePath path) parameters
        { base with
          path := if base.authority.isEmpty then path else rooted path, query, fragment }
    ofText? e joined.text

/-! ## Redirections -/

/-- The text of a fragment, empty if there is none. -/
def fragmentText (u : Url) : String := Utf8.decode (unescapedBytes (u.fragment.getD "").toList)

/-- An address with another fragment, given by its text. -/
def withFragment? (e : WebEncodings) (u : Url) (text : String) : Option Url :=
  if isPlain text.toList then
    ofText? e { u with fragment := some (escapeAll "\"<>`" text.toList) }.text
  else none

/-- A reference on a host, unless its path cannot follow one. -/
def onHost? (e : WebEncodings) (u : Url) (host : String) : Option Url :=
  if fits u.scheme true u.path.toList then ofText? e { u with host }.text else none

/-- Where a redirection leads to. -/
def redirected? (e : WebEncodings) (u reference : Url) : Option Url := do
  let reference ←
    if !reference.scheme.isEmpty && reference.host.isEmpty && !u.host.isEmpty then
      reference.onHost? e u.host
    else some reference
  let target ← if reference.isComplete then some reference else join? e u reference
  if target.fragmentText.isEmpty && !u.fragmentText.isEmpty then target.withFragment? e u.fragmentText
  else return target

end Url

end ServiceBindings
