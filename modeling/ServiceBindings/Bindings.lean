import ServiceBindings.Operation.Building

/-! # The bindings of a document

`bindingsOf` derives, for every selected operation of a document, its service function and its
namespace of types.

* `selectPaths` sorts the paths by their characters, keeps those that are included (an empty list
  includes all) and drops those that are excluded.
* `operationsOf` are the operations of the selected paths: in the order of the paths, then in the
  order in which a path declares its methods.
* `collisionsOf` reports every operation whose namespace another operation took before. -/

namespace ServiceBindings

/-- The methods of a path that are operations. -/
def httpMethods : List String :=
  ["get", "put", "post", "delete", "patch", "head", "options", "trace"]

/-- What to select, and how to derive bindings from it. -/
structure Selection where
  /-- The base of all paths, which is dropped. -/
  base : String := ""
  /-- The paths to include; empty for all. -/
  includePaths : List String := []
  /-- The paths to exclude. -/
  excludePaths : List String := []
  /-- The paths whose response is binary data. -/
  blobPaths : List String := []

/-- The included paths without the excluded ones, sorted by their characters. -/
def selectPaths (includePaths excludePaths paths : List String) : List String :=
  (paths.mergeSort fun a b => decide (a ≤ b)).filter fun path =>
    (includePaths.isEmpty || includePaths.contains path) && !excludePaths.contains path

/-- The operations that a path declares, in order. -/
def operationsAt (path : String) (item : List (Scalar × Value)) : List Operation :=
  item.filterMap fun
    | (.text method, .map entries) =>
        if httpMethods.contains method then some ⟨path, method, entries⟩ else none
    | _ => none

/-- The paths of a document that are mappings. -/
def pathItems (entries : List (Scalar × Value)) : List (String × List (Scalar × Value)) :=
  entries.filterMap fun
    | (.text path, .map item) => some (path, item)
    | _ => none

/-- The operations of the selected paths. -/
def operationsOf (includePaths excludePaths : List String)
    (items : List (String × List (Scalar × Value))) : List Operation :=
  (selectPaths includePaths excludePaths (items.map Prod.fst)).flatMap fun path =>
    operationsAt path ((items.lookup path).getD [])

/-- Two operations with one namespace: the one that took it first, and the later one. -/
structure Collision where
  /-- The operation that took the namespace first. -/
  first : ServiceFunction
  /-- The later operation. -/
  later : ServiceFunction
  deriving DecidableEq, Repr

namespace Collision

/-- An operation in a message. -/
def operationText (f : ServiceFunction) : String := Text.upper f.method ++ " " ++ f.path

/-- The wording of a collision. -/
def message (c : Collision) : String :=
  "Namespace " ++ c.later.scope ++ " is shared by " ++ operationText c.first ++ " and " ++
    operationText c.later

end Collision

/-- The collisions among operations, given the ones that come before them. -/
def collisionsAfter (before : List ServiceFunction) : List ServiceFunction → List Collision
  | [] => []
  | f :: rest =>
      match before.find? fun g => g.scope == f.scope with
      | some first => ⟨first, f⟩ :: collisionsAfter before rest
      | none => collisionsAfter (before ++ [f]) rest

/-- The collisions among operations, one for each that is not the first with its namespace. -/
def collisionsOf (functions : List ServiceFunction) : List Collision := collisionsAfter [] functions

/-- The service function and the namespace of types of every selected operation. -/
structure Bindings where
  /-- The operations, each with its namespace of types. -/
  operations : List (ServiceFunction × TypeScope)

namespace Bindings

/-- The service functions. -/
def functions (b : Bindings) : List ServiceFunction := b.operations.map Prod.fst

/-- The namespaces of types. -/
def scopes (b : Bindings) : List TypeScope := b.operations.map Prod.snd

/-- The collisions of namespaces. -/
def collisions (b : Bindings) : List Collision := collisionsOf b.functions

end Bindings

/-- Why there are no bindings for a document. -/
inductive BindingError where
  /-- The document has no mapping of paths. -/
  | noPaths
  /-- A reference cannot be followed. -/
  | reference (error : ReferenceError)
  deriving DecidableEq, Repr

namespace BindingError

/-- The wording of an error. -/
def message : BindingError → String
  | .noPaths => "OpenAPI document missing 'paths' object"
  | .reference error => error.message

end BindingError

/-- The bindings of the selected operations of a document. -/
def bindingsOf (selection : Selection) (document : Value) : Except BindingError Bindings :=
  match document.get? "paths" with
  | some (.map entries) =>
      let context : OperationContext := ⟨document, selection.base, selection.blobPaths⟩
      let operations :=
        operationsOf selection.includePaths selection.excludePaths (pathItems entries)
      match operations.mapM context.build with
      | .ok built => .ok ⟨built⟩
      | .error e => .error (.reference e)
  | _ => .error .noPaths

end ServiceBindings
