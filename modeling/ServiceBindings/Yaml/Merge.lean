import ServiceBindings.Yaml.Node

/-! # Merged mappings

A mapping can have keys that stand for the entries of other mappings. `Graph.flatten` puts these entries
in their place: **in front** of the entries of the mapping, so that its own entries take precedence. Of
several mappings under one key the first takes precedence, and its entries come last.

A mapping can be merged into itself. A key is taken out of its mapping before its mappings are looked
at, so that this ends: the number of entries bounds how often it can happen. -/

namespace ServiceBindings

namespace Yaml

/-- A step that changes the nodes of a document, or fails. -/
abbrev Merging := StateT Graph (Except Fault)

namespace Graph

/-- The node with a number. -/
def nodeAt (number : Nat) : Merging Node := return (← get).getD number emptyNode

/-- Replace a node. -/
def setNode (number : Nat) (node : Node) : Merging Unit := modify fun g => g.setIfInBounds number node

/-- The entries of a mapping; a node of another kind has none. -/
def entriesOf (number : Nat) : Merging (List (Nat × Nat)) := do
  match (← nodeAt number).content with
  | .mapping entries => return entries
  | _ => return []

/-- Replace the entries of a mapping. -/
def setEntries (number : Nat) (entries : List (Nat × Nat)) : Merging Unit :=
  modify fun g => g.modify number fun node => { node with content := .mapping entries }

/-- The number of entries of all mappings. -/
def entryCount (g : Graph) : Nat :=
  g.foldl (fun n node => match node.content with
    | .mapping entries => n + entries.length
    | _ => n) 0

/-- Whether an entry stands for the entries of other mappings. -/
def isMerge (g : Graph) (entry : Nat × Nat) : Bool := (g.getD entry.1 emptyNode).tag == .merge

/-- Take the first entry out of a mapping that stands for other entries, and tell its value. -/
def takeMerge (number : Nat) : Merging (Option Nat) := do
  let entries ← entriesOf number
  let g ← get
  match entries.dropWhile fun entry => !isMerge g entry with
  | [] => return none
  | (_, value) :: rest =>
      setEntries number (entries.takeWhile (fun entry => !isMerge g entry) ++ rest)
      return some value

/-- The key of the default value is a text where it is the key of an entry. -/
def textKey (key : Nat) : Merging Unit := do
  let node ← nodeAt key
  if node.tag = .default then setNode key { node with tag := .text }

/-- The entries of a mapping that is merged, once it is flattened. -/
def mergedEntries (flatten : Nat → Merging Unit) (number : Nat) :
    Merging (List (Nat × Nat)) := do
  match (← nodeAt number).content with
  | .mapping _ =>
      flatten number
      entriesOf number
  | _ => throw .unmergeable

/-- The entries that a merged value stands for: those of a mapping, or those of the mappings of a
sequence, the last one first. -/
def mergedValue (flatten : Nat → Merging Unit) (value : Nat) : Merging (List (Nat × Nat)) := do
  match (← nodeAt value).content with
  | .sequence items => return (← items.mapM (mergedEntries flatten)).reverse.flatten
  | _ => mergedEntries flatten value

/-- Put the entries of merged mappings in front of the entries of a mapping. At most `bound` keys that
stand for other entries are left. -/
def flatten : Nat → Nat → Merging Unit
  | 0, _ => throw .unmergeable
  | bound + 1, number => do
      match ← takeMerge number with
      | some value =>
          let merged ← mergedValue (flatten bound) value
          flatten bound number
          setEntries number (merged ++ (← entriesOf number))
      | none => (← entriesOf number).forM fun (key, _) => textKey key

end Graph

end Yaml

end ServiceBindings
