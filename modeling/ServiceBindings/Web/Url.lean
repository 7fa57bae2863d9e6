import ServiceBindings.Text.Number
import ServiceBindings.Web.Host

/-! # Addresses on the web

A `Url` is an address in parts, or a reference to one that leaves parts out. `Url.ofText?` reads it in its
**normal form**:

* scheme and host are in lower case, and the usual number after the host is left out;
* the path of an address has no dots for names;
* characters that a part cannot hold are escaped. The percent sign is never escaped, so that what is
  escaped already stays as it is.

`Url.text` writes it. -/

namespace ServiceBindings

/-- An address in parts. -/
structure Url where
  /-- The scheme, empty in a relative reference. -/
  scheme : String
  /-- The user, perhaps with a password; empty if there is none. -/
  user : String
  /-- The host, empty in a relative reference. -/
  host : String
  /-- The number after the host. -/
  number : Option Int
  /-- The path. -/
  path : String
  /-- What follows the first question mark. -/
  query : Option String
  /-- What follows the first number sign. -/
  fragment : Option String
  deriving DecidableEq, Repr

namespace Url

/-! ## Parts of a text -/

/-- A text up to a character, and what follows the character if it occurs. -/
def cutAt (mark : Char) (cs : List Char) : List Char × Option (List Char) :=
  let before := cs.takeWhile (· != mark)
  match cs.dropWhile (· != mark) with
  | [] => (before, none)
  | _ :: after => (before, some after)

/-- A text up to the last occurrence of a character, if it occurs, and what follows it. -/
def cutAtLast (mark : Char) (cs : List Char) : Option (List Char) × List Char :=
  let after := (cs.reverse.takeWhile (· != mark)).reverse
  if after.length = cs.length then (none, cs)
  else (some (cs.take (cs.length - after.length - 1)), after)

/-- Whether a text can be the scheme of an address; it may be left out in front of its colon. -/
def isScheme : List Char → Bool
  | [] => true
  | c :: rest => c.isAlpha && rest.all fun d => d.isAlphanum || d == '+' || d == '-' || d == '.'

/-- The usual number after the host, by scheme. -/
def usualNumber? (scheme : String) : Option Int :=
  [("ftp", 21), ("http", 80), ("https", 443), ("ws", 80), ("wss", 443)].lookup scheme

/-- A host and what follows it: the part between brackets if there is one at the start, otherwise all up
to the first colon or at sign. -/
def cutHost (cs : List Char) : List Char × List Char :=
  match cs.head?, cutAtLast ']' cs with
  | some '[', (some inside, after) => (inside ++ [']'], after)
  | _, _ => cs.span fun c => c != ':' && c != '@'

/-- The number that a text after a host writes, unless it is the usual one. -/
def number? (scheme : String) (cs : List Char) : Option (Option Int) :=
  if cs.isEmpty then some none
  else (Chars.int? 10 cs).map fun n => if usualNumber? scheme = some n then none else some n

/-- The names of a path with the dots taken out, given the names in front of them, the last one first:
two dots lead one name up, but not above the root. -/
def withoutDots : List String → List String → List String
  | done, [] => done.reverse
  | done, "." :: rest => withoutDots done rest
  | done, ".." :: rest => withoutDots (if done = [""] then done else done.tail) rest
  | done, name :: rest => withoutDots (name :: done) rest

/-- A path with the dots taken out. -/
def normalPath (path : String) : String :=
  Text.join "/" (withoutDots [] (Text.splitAt '/' path))

/-! ## Reading and writing -/

/-- Whether a path can follow what stands in front of it. After a host it begins with a slash; where
nothing is in front of it, it must not look like a host or like the end of a scheme. -/
def fits (scheme : String) (hosted : Bool) (path : List Char) : Bool :=
  if hosted then path.isEmpty || path.head? == some '/'
  else !scheme.isEmpty || !(['/', '/'].isPrefixOf path || path.head? == some ':')

/-- Put an address together from its parts, each in normal form. -/
def ofParts? (scheme user : String) (host : String) (number : Option Int) (path : List Char)
    (query fragment : Option (List Char)) : Option Url :=
  let hosted := !user.isEmpty || !host.isEmpty || number.isSome
  if fits scheme hosted path then
    let path := escapeAll "\"#<>?`\x7b\x7d" path
    some
      { scheme, user, host, number
        path := if scheme.isEmpty && !hosted then path else normalPath path
        query := query.map (escapeAll "\"#<>")
        fragment := fragment.map (escapeAll "\"<>`") }
  else none

/-- The greatest length of an address. -/
def lengthLimit : Nat := 65536

/-- Whether a text has no control characters of ASCII. -/
def isPlain (cs : List Char) : Bool := cs.all fun c => 32 ≤ c.toNat ∧ c.toNat ≠ 127

/-- Read an address or a relative reference. -/
def ofText? (e : WebEncodings) (text : String) : Option Url := do
  let cs := text.toList
  guard (cs.length ≤ lengthLimit ∧ isPlain cs)
  let (cs, fragment) := cutAt '#' cs
  let (cs, query) := cutAt '?' cs
  let (scheme, cs) := match cutAt ':' cs with
    | (before, some after) => if isScheme before then (before, after) else ([], cs)
    | (_, none) => ([], cs)
  let (authority, path) := match cs with
    | '/' :: '/' :: rest => rest.span (· != '/')
    | _ => ([], cs)
  let (user, place) := cutAtLast '@' authority
  let (host, after) := cutHost place
  let number ← number? (.ofList scheme) (if after.head? = some ':' then after.tail else after)
  let host ← Host.normal? e host
  ofParts? (Text.asciiLower (.ofList scheme)) (escapeAll "\"#<>?`\x7b\x7d/;=@[\\]^|" (user.getD []))
    host number path query fragment

/-- User, host and the number after the host. -/
def authority (u : Url) : String :=
  (if u.user.isEmpty then "" else u.user ++ "@") ++ u.host ++
    ((u.number.map fun n => ":" ++ toString n).getD "")

/-- Path and query. -/
def target (u : Url) : String := u.path ++ (u.query.map ("?" ++ ·)).getD ""

/-- How an address is written. -/
def text (u : Url) : String :=
  (if u.scheme.isEmpty then "" else u.scheme ++ ":") ++
    (if u.authority.isEmpty then "" else "//" ++ u.authority) ++ u.target ++
    (u.fragment.map ("#" ++ ·)).getD ""

/-- Whether an address says where to connect to. -/
def isComplete (u : Url) : Bool := !u.scheme.isEmpty && !u.host.isEmpty

/-- The address that is requested for a text: a path on no host if the text does not say where to
connect to. -/
def ofRequest? (e : WebEncodings) (text : String) : Option Url := do
  let u ← ofText? e text
  if u.isComplete then return u
  else
    let path := "/" ++ String.ofList (u.path.toList.dropWhile (· == '/'))
    return {
      scheme := ""
      user := ""
      host := ""
      number := none
      path := path
      query := u.query
      fragment := none }

end Url

end ServiceBindings
