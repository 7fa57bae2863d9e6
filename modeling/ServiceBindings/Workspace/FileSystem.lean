import ServiceBindings.Entries
import ServiceBindings.Text.Surrogate
import ServiceBindings.Workspace.Path

/-! # File systems

A `FileSystem` says what stands at each place: a directory, or a file with its bytes. A place is a
`Location`, the names from it up to the root, the innermost first; the root itself is a directory. The system
knows **names by their bytes** (`FileName`), and is asked about a path with such names (`SystemPath`).

* `FileSystem.locate` follows a path from a working directory. Every name but the last must be that
  of a directory; two dots lead one directory up. Names and paths have a greatest length, and no
  name holds the null character.
* `FileSystem.read`, `FileSystem.write` and `FileSystem.makeDir` act on one place,
  `FileSystem.ensureDir` makes a directory and the ones above it where they are missing.

What cannot be done is a `FileFault`. Making directories can fail after some were made, so that its
result is a file system in every case. -/

namespace ServiceBindings

/-- Why a file or directory cannot be read or made. -/
inductive FileFault where
  /-- Nothing stands there. -/
  | notFound
  /-- A directory stands where a file is wanted. -/
  | isDirectory
  /-- A file stands where a directory is wanted. -/
  | notDirectory
  /-- Something stands there already. -/
  | taken
  /-- A name or a path has too many bytes. -/
  | tooLong
  /-- A name holds the null character, which ends a path for the system. -/
  | nullCharacter
  /-- A path holds a surrogate, and cannot be encoded for the system. -/
  | unencodable
  deriving DecidableEq, Repr

namespace FileFault

/-- The wording of a fault. -/
def message : FileFault → String
  | notFound => "No such file or directory"
  | isDirectory => "Is a directory"
  | notDirectory => "Not a directory"
  | taken => "File exists"
  | tooLong => "File name too long"
  | nullCharacter => "embedded null byte"
  | unencodable => "surrogates not allowed"

/-- Whether a fault comes from the system, and not from a path that it cannot be asked about. -/
def isReported : FileFault → Bool
  | nullCharacter | unencodable => false
  | _ => true

end FileFault

/-- The name of a file or directory: its bytes. -/
structure FileName where
  /-- The bytes. -/
  bytes : List UInt8
  deriving DecidableEq, Repr

namespace FileName

/-- The name with the bytes of an encoded text. -/
def ofText (b : SurrogateBlock) (text : String) : FileName := ⟨b.nameBytes text⟩

/-- Two dots, which lead one directory up. -/
def up : FileName := ⟨[46, 46]⟩

/-- Whether a name holds the null character. -/
def hasNull (name : FileName) : Bool := name.bytes.contains 0

/-- The text of a name, if it is one. -/
def text? (name : FileName) : Option String := String.fromUTF8? ⟨name.bytes.toArray⟩

end FileName

/-- A place in a file system: the names from it up to the root. -/
abbrev Location := List FileName

/-- A path that the system is asked about: names below a root. -/
structure SystemPath where
  /-- Where the path begins. -/
  root : PathRoot
  /-- The names on the path. -/
  names : List FileName
  deriving DecidableEq, Repr

namespace SystemPath

/-- The path that is asked about for one whose names can be encoded. -/
def ofPath (b : SurrogateBlock) (p : Path) : SystemPath := ⟨p.root, p.names.map (.ofText b)⟩

/-- The number of bytes of a path, with a slash between two names; the empty path is a single dot. -/
def size (p : SystemPath) : Nat :=
  if p.root = .relative ∧ p.names = [] then 1
  else p.root.text.length + (p.names.flatMap FileName.bytes).length + (p.names.length - 1)

end SystemPath

/-- What stands at a place. -/
inductive FileNode where
  /-- A directory. -/
  | directory
  /-- A file with its bytes. -/
  | file (bytes : ByteArray)

/-- Two files are equal exactly when their bytes are, one by one. -/
instance : DecidableEq FileNode
  | .directory, .directory => isTrue rfl
  | .directory, .file _ => isFalse nofun
  | .file _, .directory => isFalse nofun
  | .file ⟨s⟩, .file ⟨t⟩ =>
      if h : s = t then isTrue (h ▸ rfl) else isFalse fun e => h (by injections)

/-- What stands at the places that are taken; the root is not listed. -/
structure FileSystem where
  /-- The places that are taken. -/
  nodes : List (Location × FileNode)

namespace FileSystem

/-- The file system without anything in it. -/
def empty : FileSystem := ⟨[]⟩

/-- What stands at a place. -/
def node? (fs : FileSystem) (place : Location) : Option FileNode :=
  if place = [] then some .directory else fs.nodes.lookup place

/-- Put something at a place. -/
def put (fs : FileSystem) (place : Location) (node : FileNode) : FileSystem :=
  ⟨Entries.insert place node fs.nodes⟩

@[simp] theorem node?_root (fs : FileSystem) : fs.node? [] = some .directory := rfl

/-- What was put at a place stands there. -/
theorem node?_put_self (fs : FileSystem) {place : Location} (h : place ≠ []) (node : FileNode) :
    (fs.put place node).node? place = some node := by
  simp [node?, put, h]

/-- Putting something at a place leaves the other places. -/
theorem node?_put_of_ne (fs : FileSystem) {place other : Location} (h : other ≠ place)
    (node : FileNode) : (fs.put place node).node? other = fs.node? other := by
  simp [node?, put, Entries.lookup_insert_of_ne h]

/-- What stands at some place now and did not before, in the order in which the places were first
taken. -/
def changesSince (fs before : FileSystem) : List (Location × FileNode) :=
  fs.nodes.filter fun (place, node) => decide (before.node? place ≠ some node)

/-- The places that a path passes from a place on, the last one first: every name leads to one, and
two dots lead one directory up. -/
def placesFrom : Location → List FileName → List Location → List Location
  | _, [], passed => passed
  | place, name :: rest, passed =>
      let next := if name = .up then place.tail else name :: place
      placesFrom next rest (next :: passed)

/-- The greatest number of bytes of a name. -/
def nameLimit : Nat := 255

/-- The greatest number of bytes of a path. -/
def pathLimit : Nat := 4095

/-- Follow names from a place on. -/
def locateFrom (fs : FileSystem) : Location → List FileName → Except FileFault Location
  | place, [] => .ok place
  | place, name :: rest =>
      match fs.node? place with
      | none => .error .notFound
      | some (.file _) => .error .notDirectory
      | some .directory =>
          if name = .up then locateFrom fs place.tail rest
          else if nameLimit < name.bytes.length then .error .tooLong
          else locateFrom fs (name :: place) rest

/-- The place that a path leads to from a working directory. -/
def locate (fs : FileSystem) (workingDir : Location) (p : SystemPath) : Except FileFault Location :=
  if p.names.any FileName.hasNull then .error .nullCharacter
  else if pathLimit < p.size then .error .tooLong
  else fs.locateFrom (if p.root = .relative then workingDir else []) p.names

/-- The bytes of the file that a path leads to. -/
def read (fs : FileSystem) (workingDir : Location) (p : SystemPath) : Except FileFault ByteArray :=
  match fs.locate workingDir p with
  | .error fault => .error fault
  | .ok place =>
      match fs.node? place with
      | none => .error .notFound
      | some .directory => .error .isDirectory
      | some (.file bytes) => .ok bytes

/-- Whether a path leads to a directory. -/
def isDir (fs : FileSystem) (workingDir : Location) (p : SystemPath) : Bool :=
  match fs.locate workingDir p with
  | .ok place => decide (fs.node? place = some .directory)
  | .error _ => false

/-- Write a file, in a directory that is there. -/
def write (fs : FileSystem) (workingDir : Location) (p : SystemPath) (bytes : ByteArray) :
    Except FileFault FileSystem :=
  match fs.locate workingDir p with
  | .error fault => .error fault
  | .ok place =>
      match fs.node? place with
      | some .directory => .error .isDirectory
      | some (.file _) => .ok (fs.put place (.file bytes))
      | none => .ok (fs.put place (.file bytes))

/-- Make a directory, in a directory that is there. -/
def makeDir (fs : FileSystem) (workingDir : Location) (p : SystemPath) : Except FileFault FileSystem :=
  match fs.locate workingDir p with
  | .error fault => .error fault
  | .ok place =>
      match fs.node? place with
      | some _ => .error .taken
      | none => .ok (fs.put place .directory)

/-- A directory could not be made: that is no fault if it is there. -/
def settle (fs : FileSystem) (workingDir : Location) (p : SystemPath) (fault : FileFault) :
    FileSystem × Except FileFault Unit :=
  if fs.isDir workingDir p then (fs, .ok ()) else (fs, .error fault)

/-- Make a directory unless it is there, below directories that have been made. -/
def makeDirBelow (fs : FileSystem) (workingDir : Location) (p : SystemPath) :
    FileSystem × Except FileFault Unit :=
  match fs.makeDir workingDir p with
  | .ok fs => (fs, .ok ())
  | .error .notFound => (fs, .error .notFound)
  | .error fault => fs.settle workingDir p fault

/-- Make the directory with the given names, the innermost first, unless it is there, and the ones
above it where they are missing. -/
def ensureDirOf (workingDir : Location) (root : PathRoot) (fs : FileSystem) :
    List FileName → FileSystem × Except FileFault Unit
  | [] => fs.makeDirBelow workingDir ⟨root, []⟩
  | name :: above =>
      let p : SystemPath := ⟨root, (name :: above).reverse⟩
      match fs.makeDir workingDir p with
      | .ok fs => (fs, .ok ())
      | .error .notFound =>
          match ensureDirOf workingDir root fs above with
          | (fs, .ok ()) => fs.makeDirBelow workingDir p
          | (fs, .error fault) => (fs, .error fault)
      | .error fault => fs.settle workingDir p fault

/-- Make the directory that a path leads to unless it is there, and the ones above it where they are
missing. -/
def ensureDir (fs : FileSystem) (workingDir : Location) (p : SystemPath) :
    FileSystem × Except FileFault Unit :=
  ensureDirOf workingDir p.root fs p.names.reverse

end FileSystem

end ServiceBindings
