import ServiceBindings.Text.Split

/-! # File paths

A `Path` is a sequence of names below a root. Reading a text as a path drops empty names and names
that are a single dot; names that are two dots stay. A path that begins with a slash is absolute; two
slashes at the start are a root of their own, three or more are one slash.

`Path.join` reads a text below a path, `Path.parent` drops the last name, `Path.suffix` is the ending
of the last name. -/

namespace ServiceBindings

/-- Where a path begins. -/
inductive PathRoot where
  /-- At the working directory. -/
  | relative
  /-- At the root. -/
  | slash
  /-- At the root that is written with two slashes. -/
  | doubleSlash
  deriving DecidableEq, Repr, Inhabited

namespace PathRoot

/-- How a root is written. -/
def text : PathRoot → String
  | relative => ""
  | slash => "/"
  | doubleSlash => "//"

/-- The root that a text begins with. -/
def ofChars : List Char → PathRoot
  | '/' :: '/' :: '/' :: _ => slash
  | '/' :: '/' :: _ => doubleSlash
  | '/' :: _ => slash
  | _ => relative

end PathRoot

/-- A path: names below a root. -/
structure Path where
  /-- Where the path begins. -/
  root : PathRoot
  /-- The names on the path. -/
  names : List String
  deriving DecidableEq, Repr, Inhabited

namespace Path

/-- The path that a text writes. -/
def ofText (text : String) : Path where
  root := .ofChars text.toList
  names := (Text.splitAt '/' text).filter fun name => name ≠ "" ∧ name ≠ "."

/-- How a path is written; the empty path is a single dot. -/
def text (p : Path) : String :=
  if p.root = .relative ∧ p.names = [] then "." else p.root.text ++ Text.join "/" p.names

/-- The path that a text writes, read below another path; an absolute one stands for itself. -/
def join (p : Path) (text : String) : Path :=
  let below := ofText text
  if below.root = .relative then ⟨p.root, p.names ++ below.names⟩ else below

/-- A path without its last name. -/
def parent (p : Path) : Path := ⟨p.root, p.names.dropLast⟩

/-- The ending of a name: its last dot and what follows, unless the dot is its first or its last
character. -/
def endingOf (name : List Char) : List Char :=
  let after := name.reverse.takeWhile (· != '.')
  if after.length + 1 < name.length ∧ after ≠ [] then name.drop (name.length - after.length - 1)
  else []

/-- The ending of the last name on a path. -/
def suffix (p : Path) : String := .ofList (endingOf ((p.names.getLast?.getD "").toList))

end Path

end ServiceBindings
