import ServiceBindings.Yaml.Tag
import ServiceBindings.Yaml.Token

/-! # The nodes of a YAML document

A `Node` is a scalar, a sequence or a mapping together with its tag. The nodes of a document form a
`Graph`, in which they are known by their numbers: an alias is the number of the node that its anchor
stands in front of, so that **a node can be part of itself**. `Yaml.document?` reads the only document of
a text from its tokens.

The readers go through the tokens from left to right (`Reader`). At most four of
them begin before a token is passed, so that the number of tokens bounds how deeply they are nested. -/

namespace ServiceBindings

namespace Yaml

/-- What a node holds. It holds other nodes by their numbers. -/
inductive Content where
  /-- A text. -/
  | scalar (text : String)
  /-- Items. -/
  | sequence (items : List Nat)
  /-- Entries, each with a key and a value. -/
  | mapping (entries : List (Nat × Nat))
  deriving DecidableEq, Repr

/-- A node of a document. -/
structure Node where
  /-- What kind of value the node is. -/
  tag : Tag
  /-- What the node holds. -/
  content : Content
  deriving DecidableEq, Repr

/-- The empty scalar that stands where a node is left out. -/
def emptyNode : Node := ⟨.null, .scalar ""⟩

/-- The nodes of a document, each at the place of its number. -/
abbrev Graph := Array Node

/-- What a reader of nodes knows. -/
structure ReadState where
  /-- The tokens that are left. -/
  rest : List Token
  /-- The nodes so far; a node that is not complete is still empty. -/
  nodes : Graph := #[]
  /-- The anchors so far, with the numbers of their nodes. -/
  anchors : List (String × Nat) := []
  /-- The tag handles, with what they stand for. -/
  handles : List (String × String)

/-- A reader of nodes. -/
abbrev Reader := StateT ReadState (Except Fault)

namespace Reader

/-- The next token, if the lexer has come to one. -/
def peek : Reader (Option Token) := do
  match (← get).rest.head? with
  | some (.broken fault) => throw fault
  | next => return next

/-- Move past one token. -/
def advance : Reader Unit := modify fun s => { s with rest := s.rest.tail }

/-- Whether the next token is a given one; if so, move past it. -/
def accept (t : Token) : Reader Bool := do
  if (← peek) == some t then
    advance
    return true
  else return false

/-- Whether the next token is one of some. -/
def isAt (ts : List Token) : Reader Bool := return (← peek).any ts.contains

/-- Fail because of what comes next. -/
def misplaced {α : Type} (what : String) : Reader α := throw (.misplaced what)

/-- Move past the comma that stands in front of every part of a flow collection but the first. -/
def separator (first : Bool) : Reader Unit := do
  if first then return
  if ← accept .comma then return
  misplaced "this token"

end Reader

/-- The properties in front of a node: an anchor and a tag. -/
structure Properties where
  /-- The anchor. -/
  anchor : Option String := none
  /-- The name of the tag. -/
  tag : Option String := none

namespace Properties

/-- The tag of a node of a kind that has a tag of its own: that one, unless another one is asked
for. -/
def tagOr (p : Properties) (own : Tag) : Tag :=
  match p.tag with
  | none => own
  | some "!" => own
  | some name => .ofName name

/-- The tag of a scalar. -/
def scalarTag (p : Properties) (text : String) (plain : Bool) : Tag :=
  match p.tag with
  | none => if plain then .ofPlain text else .text
  | some "!" => .ofPlain text
  | some name => .ofName name

end Properties

namespace Reader

/-- Add a node, and tell its number. -/
def addNode (node : Node) : Reader Nat :=
  modifyGet fun s => (s.nodes.size, { s with nodes := s.nodes.push node })

/-- Complete the node with a given number. -/
def complete (number : Nat) (node : Node) : Reader Unit :=
  modify fun s => { s with nodes := s.nodes.setIfInBounds number node }

/-- The name of a tag. -/
def tagName (handle : Option String) (suffix : String) : Reader String := do
  match handle with
  | none => return suffix
  | some h =>
      match (← get).handles.lookup h with
      | some start => return start ++ suffix
      | none => throw (.unknownHandle h)

/-- Read an anchor, if one comes next. -/
def anchor? : Reader (Option String) := do
  match ← peek with
  | some (.anchor name) =>
      advance
      return some name
  | _ => return none

/-- Read a tag, if one comes next. -/
def tag? : Reader (Option (Option String × String)) := do
  match ← peek with
  | some (.tag handle suffix) =>
      advance
      return some (handle, suffix)
  | _ => return none

/-- Read the properties in front of a node, in either order. -/
def properties : Reader Properties := do
  let first ← anchor?
  let tag ← tag?
  let anchor ← if first.isSome ∨ tag.isNone then pure first else anchor?
  match tag with
  | some (handle, suffix) => return ⟨anchor, some (← tagName handle suffix)⟩
  | none => return ⟨anchor, none⟩

/-- An anchor stands for a node from now on. -/
def bindAnchor (anchor : Option String) (number : Nat) : Reader Unit := do
  match anchor with
  | some name =>
      if ((← get).anchors.lookup name).isSome then throw (.repeatedAnchor name)
      else modify fun s => { s with anchors := (name, number) :: s.anchors }
  | none => return

/-- The node that an alias stands for. -/
def aliased (name : String) : Reader Nat := do
  match (← get).anchors.lookup name with
  | some number => return number
  | none => throw (.unknownAnchor name)

mutual

/-- Read a node. `block` says whether indentation may open one here, `dashes` whether a sequence may
stand here without indentation of its own. -/
def node (block dashes : Bool) : Nat → Reader Nat
  | 0 => throw .unexpectedEnd
  | bound + 1 => do
      match ← peek with
      | some (.alias name) =>
          advance
          aliased name
      | _ =>
          let p ← properties
          let number ← addNode emptyNode
          bindAnchor p.anchor number
          complete number (← content block dashes p bound)
          return number

/-- Read a node after its properties. -/
def content (block dashes : Bool) (p : Properties) : Nat → Reader Node
  | 0 => throw .unexpectedEnd
  | bound + 1 => do
      match ← peek with
      | some (.scalar text plain) =>
          advance
          return ⟨p.scalarTag text plain, .scalar text⟩
      | some .flowSequence =>
          advance
          return ⟨p.tagOr .sequence, .sequence (← flowItems true bound)⟩
      | some .flowMapping =>
          advance
          return ⟨p.tagOr .mapping, .mapping (← flowEntries true bound)⟩
      | some .item =>
          if dashes then return ⟨p.tagOr .sequence, .sequence (← dashItems bound)⟩
          else empty p
      | some .blockSequence =>
          if block then
            advance
            return ⟨p.tagOr .sequence, .sequence (← blockItems bound)⟩
          else empty p
      | some .blockMapping =>
          if block then
            advance
            return ⟨p.tagOr .mapping, .mapping (← blockEntries bound)⟩
          else empty p
      | _ => empty p

/-- The node of properties that nothing follows. -/
def empty (p : Properties) : Reader Node :=
  if p.anchor.isSome ∨ p.tag.isSome then return ⟨p.scalarTag "" true, .scalar ""⟩
  else misplaced "this token"

/-- Read a node of a block, unless one of the given tokens comes next: then it is empty. -/
def blockNodeUnless (dashes : Bool) (ends : List Token) : Nat → Reader Nat
  | 0 => throw .unexpectedEnd
  | bound + 1 => do if ← isAt ends then addNode emptyNode else node true dashes bound

/-- Read a node of a flow collection, unless one of the given tokens comes next: then it is empty. -/
def flowNodeUnless (ends : List Token) : Nat → Reader Nat
  | 0 => throw .unexpectedEnd
  | bound + 1 => do if ← isAt ends then addNode emptyNode else node false false bound

/-- Read the items of a sequence by indentation, and its end. -/
def blockItems : Nat → Reader (List Nat)
  | 0 => throw .unexpectedEnd
  | bound + 1 => do
      if ← accept .item then
        let first ← blockNodeUnless false [.item, .blockEnd] bound
        return first :: (← blockItems bound)
      else if ← accept .blockEnd then return []
      else misplaced "this token"

/-- Read the items of a sequence without indentation of its own. -/
def dashItems : Nat → Reader (List Nat)
  | 0 => throw .unexpectedEnd
  | bound + 1 => do
      if ← accept .item then
        let first ← blockNodeUnless false [.item, .key, .value, .blockEnd] bound
        return first :: (← dashItems bound)
      else return []

/-- Read the entries of a mapping by indentation, and its end. -/
def blockEntries : Nat → Reader (List (Nat × Nat))
  | 0 => throw .unexpectedEnd
  | bound + 1 => do
      if ← accept .key then
        let ends := [.key, .value, .blockEnd]
        let key ← blockNodeUnless true ends bound
        let value ← if ← accept .value then blockNodeUnless true ends bound
          else addNode emptyNode
        return (key, value) :: (← blockEntries bound)
      else if ← accept .blockEnd then return []
      else misplaced "this token"

/-- Read the items of a flow sequence, and its end. An item can be a mapping of one entry. -/
def flowItems (first : Bool) : Nat → Reader (List Nat)
  | 0 => throw .unexpectedEnd
  | bound + 1 => do
      if ← accept .flowSequenceEnd then return []
      separator first
      if ← accept .key then
        let key ← flowNodeUnless [.value, .comma, .flowSequenceEnd] bound
        let value ←
          if ← accept .value then flowNodeUnless [.comma, .flowSequenceEnd] bound
          else addNode emptyNode
        let item ← addNode ⟨.mapping, .mapping [(key, value)]⟩
        return item :: (← flowItems false bound)
      else if ← accept .flowSequenceEnd then return []
      else
        let item ← node false false bound
        return item :: (← flowItems false bound)

/-- Read the entries of a flow mapping, and its end. -/
def flowEntries (first : Bool) : Nat → Reader (List (Nat × Nat))
  | 0 => throw .unexpectedEnd
  | bound + 1 => do
      if ← accept .flowMappingEnd then return []
      separator first
      if ← accept .key then
        let key ← flowNodeUnless [.value, .comma, .flowMappingEnd] bound
        let value ←
          if ← accept .value then flowNodeUnless [.comma, .flowMappingEnd] bound
          else addNode emptyNode
        return (key, value) :: (← flowEntries false bound)
      else if ← accept .flowMappingEnd then return []
      else
        let key ← node false false bound
        let value ← addNode emptyNode
        return (key, value) :: (← flowEntries false bound)

end

/-- Read the directives in front of a document. -/
def directives (versioned : Bool) : List Token → Reader Unit
  | .directive (.version major) :: rest => do
      if versioned then misplaced "a second version"
      if major ≠ 1 then throw (.malformed "version")
      advance
      directives true rest
  | .directive (.handle name start) :: rest => do
      if ((← get).handles.lookup name).isSome then misplaced "a second declaration of a tag handle"
      advance
      modify fun s => { s with handles := s.handles ++ [(name, start)] }
      directives versioned rest
  | .directive .other :: rest => do
      advance
      directives versioned rest
  | _ => return

/-- Move past the marks of the ends of documents. -/
def documentEnds : List Token → Reader Unit
  | .documentEnd :: rest => do
      advance
      documentEnds rest
  | _ => return

end Reader

/-- The handles that every document knows. -/
def standardHandles : List (String × String) := [("!", "!"), ("!!", Tag.standardStart)]

namespace Reader

/-- Declare the standard handles that the directives of a document leave out. -/
def addStandardHandles : Reader Unit :=
  modify fun s => { s with handles := s.handles ++ standardHandles }

/-- Read the root of the only document; none if there is no document. -/
def document? (bound : Nat) : Reader (Option Nat) := do
  let root ← match ← peek with
    | none => return none
    | some (.directive _) | some .documentStart =>
        directives false (← get).rest
        if !(← accept .documentStart) then misplaced "a directive"
        addStandardHandles
        match ← peek with
        | none | some (.directive _) | some .documentStart | some .documentEnd =>
            addNode emptyNode
        | _ => node true false bound
    | _ =>
        addStandardHandles
        node true false bound
  documentEnds (← get).rest
  if (← peek).isSome then misplaced "a second document"
  return some root

end Reader

/-- The root of the only document that tokens write, and the nodes of the document; no root if there is
no document. -/
def document? (tokens : List Token) : Except Fault (Option Nat × Graph) := do
  let (root, s) ← (Reader.document? (4 * tokens.length + 4)).run { rest := tokens, handles := [] }
  return (root, s.nodes)

end Yaml

end ServiceBindings
