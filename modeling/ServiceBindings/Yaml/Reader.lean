import ServiceBindings.Yaml.Merge

/-! # Reading YAML text

`Yaml.read` is the value that a YAML text writes; a text without a document writes null.

The value is found in two steps:

* `Parts.ofGraph` finds for every node **by its tag** what it stands for, a `Part`. It goes from the root
  outwards: the parts of a node are looked at after all the nodes that were found before it.
* `Parts.value` puts the parts together. A node that is part of itself has no finite value: where it
  comes again within itself, an empty collection stands for it. -/

namespace ServiceBindings

namespace Yaml

/-- What a node stands for, with the numbers of the nodes that it holds. -/
inductive Part where
  /-- A value without parts. -/
  | scalar (value : Scalar)
  /-- A list. -/
  | list (items : List Nat)
  /-- A list of pairs. -/
  | pairs (items : List (Nat × Nat))
  /-- A mapping. -/
  | map (entries : List (Scalar × Nat))
  /-- A set. -/
  | set (members : List Scalar)

namespace Part

/-- The collection of the same kind that is empty. -/
def empty : Part → Value
  | .scalar s => .scalar s
  | .list _ => .list []
  | .pairs _ => .list []
  | .map _ => .map []
  | .set _ => .set []

/-- The value of a part, given how to find the values of nodes. -/
def valueBy {m : Type → Type} [Monad m] (valueOf : Nat → m Value) : Part → m Value
  | .scalar s => return .scalar s
  | .list items => return .list (← items.mapM valueOf)
  | .pairs items =>
      return .list (← items.mapM fun (key, value) =>
        return .list [← valueOf key, ← valueOf value])
  | .map entries =>
      return .mapping (← entries.mapM fun (key, value) => return (key, ← valueOf value))
  | .set members => return .ofMembers members

end Part

/-- What is known while the parts of a document are found. -/
structure Survey where
  /-- The nodes. -/
  graph : Graph
  /-- What the nodes stand for that were found; what a collection holds is not known at first. -/
  parts : Array (Option Part)
  /-- The collections that were found, from the last one to the first, whose content is not known. -/
  pending : List Nat := []
  /-- The number of entries of all mappings, before other mappings were merged into them. -/
  entryCount : Nat

/-- A step that finds parts, or fails. -/
abbrev Surveying := StateT Survey (Except Fault)

namespace Survey

/-- The node with a number. -/
def nodeAt (number : Nat) : Surveying Node := return (← get).graph.getD number emptyNode

/-- A node stands for a part. -/
def setPart (number : Nat) (part : Part) : Surveying Unit :=
  modify fun s => { s with parts := s.parts.setIfInBounds number (some part) }

/-- A collection is found. -/
def postpone (number : Nat) (part : Part) : Surveying Unit := do
  setPart number part
  modify fun s => { s with pending := number :: s.pending }

/-- Put the entries of merged mappings in front of the entries of a mapping. -/
def flatten (number : Nat) : Surveying Unit := do
  let s ← get
  let ((), graph) ← (Graph.flatten (s.entryCount + 1) number).run s.graph
  set { s with graph }

/-- The text of a node that is to be a scalar: its own text, or that of the default value of a
mapping. -/
def scalarText (g : Graph) : Nat → Nat → Except Fault String
  | 0, _ => throw .unfitTag
  | bound + 1, number =>
      match (g.getD number emptyNode).content with
      | .scalar text => return text
      | .sequence _ => throw .unfitTag
      | .mapping entries =>
          match entries.find? fun entry => (g.getD entry.1 emptyNode).tag == .default with
          | some (_, value) => scalarText g bound value
          | none => throw .unfitTag

/-- The scalar that a node writes under a tag. -/
def scalarAt (tag : Tag) (number : Nat) : Surveying Scalar := do
  let g := (← get).graph
  let text ← scalarText g (g.size + 1) number
  match tag.scalar? text with
  | some s => return s
  | none => throw (if tag = .bytes then .unfitTag else .noSuchValue text)

/-- Find what a node stands for, if that is not known. -/
def visit (number : Nat) : Surveying Unit := do
  if ((← get).parts.getD number none).isSome then return
  match (← nodeAt number).tag with
  | .sequence => postpone number (.list [])
  | .pairs => postpone number (.pairs [])
  | .mapping => postpone number (.map [])
  | .set => postpone number (.set [])
  | .merge | .default | .unknown => throw .unfitTag
  | tag => setPart number (.scalar (← scalarAt tag number))

/-- Find the key that a node writes. Only scalars are keys. -/
def visitKey (number : Nat) : Surveying Scalar := do
  visit number
  match (← get).parts.getD number none with
  | some (.scalar s) => return s
  | _ => throw .compositeKey

/-- Find what the entries of a mapping stand for. -/
def visitEntries (number : Nat) : Surveying (List (Scalar × Nat)) := do
  match (← nodeAt number).content with
  | .mapping _ =>
      flatten number
      match (← nodeAt number).content with
      | .mapping entries =>
          entries.mapM fun (key, value) => do
            let k ← visitKey key
            visit value
            return (k, value)
      | _ => throw .unfitTag
  | _ => throw .unfitTag

/-- Find what the only entry of a mapping stands for. -/
def visitPair (number : Nat) : Surveying (Nat × Nat) := do
  match (← nodeAt number).content with
  | .mapping [(key, value)] =>
      visit key
      visit value
      return (key, value)
  | _ => throw .unfitTag

/-- The items of a sequence. -/
def itemsAt (number : Nat) : Surveying (List Nat) := do
  match (← nodeAt number).content with
  | .sequence items => return items
  | _ => throw .unfitTag

/-- Find what a collection holds. -/
def openCollection (number : Nat) : Surveying Unit := do
  match (← get).parts.getD number none with
  | some (.list _) =>
      let items ← itemsAt number
      items.forM visit
      setPart number (.list items)
  | some (.pairs _) => setPart number (.pairs (← (← itemsAt number).mapM visitPair))
  | some (.map _) => setPart number (.map (← visitEntries number))
  | some (.set _) => setPart number (.set ((← visitEntries number).map Prod.fst))
  | _ => return

/-- Find what the pending collections hold, then what the collections hold that are found in them, and
so on. -/
def openAll : Nat → Surveying Unit
  | 0 => return
  | bound + 1 => do
      let found := (← get).pending.reverse
      if found.isEmpty then return
      modify fun s => { s with pending := [] }
      found.forM openCollection
      openAll bound

end Survey

/-- What the nodes of a document stand for; nothing for the nodes that no other node holds. -/
abbrev Parts := Array (Option Part)

namespace Parts

/-- What the nodes of a document stand for, found from its root. -/
def ofGraph (root : Nat) (graph : Graph) : Except Fault Parts := do
  let start : Survey :=
    { graph, parts := .replicate graph.size none, entryCount := graph.entryCount }
  let ((), s) ← (do Survey.visit root; Survey.openAll (graph.size + 1) : Surveying Unit).run start
  return s.parts

/-- The value of a node, given the values of the nodes that were read before; a node that is not read
completely has the value of an empty collection. -/
def valueFrom (parts : Parts) : Nat → Nat → StateM (Array (Option Value)) Value
  | 0, _ => return .null
  | bound + 1, number => do
      match (← get).getD number none, parts.getD number none with
      | some v, _ => return v
      | none, none => return .null
      | none, some part =>
          modify fun values => values.setIfInBounds number (some part.empty)
          let v ← part.valueBy (valueFrom parts bound)
          modify fun values => values.setIfInBounds number (some v)
          return v

/-- The value of a node. -/
def value (parts : Parts) (number : Nat) : Value :=
  ((valueFrom parts (parts.size + 1) number).run (.replicate parts.size none)).1

end Parts

/-- The value that a YAML text writes. -/
def read (text : String) : Except Fault Value := do
  match ← document? (← tokens text) with
  | (some root, graph) => return (← Parts.ofGraph root graph).value root
  | (none, _) => return .null

end Yaml

end ServiceBindings
