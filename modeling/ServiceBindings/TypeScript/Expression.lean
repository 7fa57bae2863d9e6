import ServiceBindings.Schema.Expansion
import ServiceBindings.TypeScript.Comment
import ServiceBindings.TypeScript.Literal

/-! # Type expressions of schemas

`TypeScript.Printer.expression` writes a schema as a type expression, `Printer.declaration` as an
exported declaration. References are written as the types of the schemas that they lead to.

* `Printer.expressionWith` is the walk over the schema, given what is written for a reference at a
  depth of nesting.
* A value given by `const` or values given by `enum` **take the place of the shape**
  (`fixedType?`); a schema that is *nullable* is a union with null.
* A schema at the root becomes an interface if it is an object with properties that is not nullable,
  and a type alias otherwise. -/

namespace ServiceBindings

namespace Schema

/-- The description in the annotations of a schema, unless it is blank. -/
def description? (s : Schema) : Option String :=
  match Value.lookupText "description" s.annotations with
  | some (.scalar (.text t)) => if Text.isBlank t then none else some t
  | _ => none

/-- Whether a schema with the given annotations accepts null beside the values of its shape. -/
def isNullable (annotations : Annotations) : Bool :=
  Value.lookupText "nullable" annotations == some (.scalar (.flag true))

end Schema

namespace TypeScript

/-- The type that annotations fix whatever the shape of the schema is: that of a constant, or the
union of the types of enumerated values if there are any. -/
def fixedType? (annotations : Annotations) : Option String :=
  match Value.lookupText "const" annotations with
  | some v => some (literalType v)
  | none =>
      match Value.lookupText "enum" annotations with
      | some (.list (v :: rest)) => some (union ((v :: rest).map literalType))
      | _ => none

/-- A type under the annotations of its schema: a fixed type takes its place, and a nullable schema
accepts null. -/
def annotated (annotations : Annotations) (shape : Unit → Except ReferenceError String) :
    Except ReferenceError String := do
  let type ← match fixedType? annotations with
    | some type => .ok type
    | none => shape ()
  return if Schema.isNullable annotations then union [type, "null"] else type

/-- The type of a leaf with the given type names. -/
def leafType (types : List String) : String :=
  if types.isEmpty then unknownType else union (types.map primitiveType)

/-- An object whose properties are not declared but have a common type. -/
def recordOf (type : String) : String := "Record<string, " ++ type ++ ">"

/-- What a printer needs to know. -/
structure Printer where
  /-- The document that references lead into. -/
  document : Option Value
  /-- The margin of one level of nesting. -/
  indent : String := "  "

namespace Printer

/-- The margin of a number of levels of nesting. -/
def margin (p : Printer) (depth : Nat) : String :=
  .ofList (List.replicate depth p.indent.toList).flatten

/-- One line of an object type: a property with its comment in front. -/
def member (p : Printer) (depth : Nat) (required : List String) (name : String) (s : Schema)
    (type : String) : String :=
  let margin := p.margin (depth + 1)
  ((s.description?.map fun text => comment text margin).getD "") ++ margin ++ propertyKey name ++
    (if name ∈ required then "" else "?") ++ ": " ++ type ++ ";"

/-- The line that allows properties that are not declared. -/
def indexLines (p : Printer) (depth : Nat) (additional : Additional Schema) : List String :=
  match additional with
  | .unspecified => []
  | .allowed false => []
  | _ => [p.margin (depth + 1) ++ "[k: string]: " ++ unknownType ++ ";"]

/-- An object type with the given lines. -/
def objectType (p : Printer) (depth : Nat) (lines : List String) : String :=
  Text.join "\n" ("\x7b" :: lines ++ [p.margin depth ++ "\x7d"])

mutual

/-- The type expression of a schema at a depth of nesting, given what is written for a reference. -/
def expressionWith (p : Printer) (onReference : Nat → String → Except ReferenceError String)
    (depth : Nat) : Schema → Except ReferenceError String
  | .reference pointer => onReference depth pointer
  | .primitive types annotations => annotated annotations fun _ => .ok (leafType types)
  | .object properties required additional annotations =>
      annotated annotations fun _ =>
        if properties.isEmpty then undeclaredWith p onReference depth additional
        else do
          let lines ← linesWith p onReference depth (required.getD []) properties
          return p.objectType depth (lines ++ p.indexLines depth additional)
  | .array none annotations => annotated annotations fun _ => .ok (unknownType ++ "[]")
  | .array (some items) annotations =>
      annotated annotations fun _ => do
        let item ← expressionWith p onReference depth items
        return operand item ++ "[]"
  | .allOf members annotations =>
      annotated annotations fun _ => do
        let types ← typesWith p onReference depth members
        return intersection types
  | .union _ members annotations =>
      annotated annotations fun _ => do
        let types ← typesWith p onReference depth members
        return union types

/-- The type of an object without declared properties. -/
def undeclaredWith (p : Printer) (onReference : Nat → String → Except ReferenceError String)
    (depth : Nat) : Additional Schema → Except ReferenceError String
  | .unspecified => .ok (recordOf unknownType)
  | .allowed true => .ok (recordOf unknownType)
  | .allowed false => .ok (recordOf "never")
  | .typed s => do
      let type ← expressionWith p onReference depth s
      return recordOf type

/-- The lines of the declared properties of an object. -/
def linesWith (p : Printer) (onReference : Nat → String → Except ReferenceError String)
    (depth : Nat) (required : List String) :
    List (String × Schema) → Except ReferenceError (List String)
  | [] => .ok []
  | (name, s) :: rest => do
      let type ← expressionWith p onReference (depth + 1) s
      let lines ← linesWith p onReference depth required rest
      return p.member depth required name s type :: lines

/-- The type expressions of a list of schemas. -/
def typesWith (p : Printer) (onReference : Nat → String → Except ReferenceError String)
    (depth : Nat) : List Schema → Except ReferenceError (List String)
  | [] => .ok []
  | s :: rest => do
      let type ← expressionWith p onReference depth s
      let types ← typesWith p onReference depth rest
      return type :: types

end

/-- The type expression of the schema that a reference leads to, on top of a chain of at most `bound`
more. -/
def referenceExpression (p : Printer) :
    Nat → List String → Nat → String → Except ReferenceError String
  | 0, chain, _, pointer =>
      if pointer ∈ chain then .error (.cyclic (chain ++ [pointer]))
      else .error (.unlisted chain pointer)
  | bound + 1, chain, depth, pointer =>
      match Schema.followOnce p.document chain pointer with
      | .ok s => p.expressionWith (p.referenceExpression bound (chain ++ [pointer])) depth s
      | .error e => .error e

/-- The number of different references that can be met when a schema is written. -/
def referenceCount (p : Printer) (s : Schema) : Nat :=
  (p.document.getD .null).referenceCount s.references

/-- The type expression of a schema. -/
def expression (p : Printer) (s : Schema) : Except ReferenceError String :=
  p.expressionWith (p.referenceExpression (p.referenceCount s) []) 0 s

/-- Whether a schema at the root is declared as an interface. -/
def isInterface : Schema → Bool
  | .object properties _ _ annotations => !properties.isEmpty && !Schema.isNullable annotations
  | _ => false

/-- The declaration of a schema that is no reference, under a name. -/
def declareWith (p : Printer) (onReference : Nat → String → Except ReferenceError String)
    (name : String) (s : Schema) : Except ReferenceError String :=
  let lead := (s.description?.map fun text => comment text "").getD ""
  match s with
  | .object properties required additional annotations =>
      if isInterface (.object properties required additional annotations) then do
        let lines ← p.linesWith onReference 0 (required.getD []) properties
        return lead ++ "export interface " ++ name ++ " " ++
          p.objectType 0 (lines ++ p.indexLines 0 additional) ++ "\n"
      else do
        let type ← p.expressionWith onReference 0 s
        return lead ++ "export type " ++ name ++ " = " ++ type ++ ";\n"
  | s => do
      let type ← p.expressionWith onReference 0 s
      return lead ++ "export type " ++ name ++ " = " ++ type ++ ";\n"

/-- The declaration of a schema under a name, on top of a chain of at most `bound` more. -/
def declareFrom (p : Printer) (name : String) :
    Nat → List String → Schema → Except ReferenceError String
  | 0, chain, .reference pointer =>
      if pointer ∈ chain then .error (.cyclic (chain ++ [pointer]))
      else .error (.unlisted chain pointer)
  | bound + 1, chain, .reference pointer =>
      match Schema.followOnce p.document chain pointer with
      | .ok s => p.declareFrom name bound (chain ++ [pointer]) s
      | .error e => .error e
  | bound, chain, s => p.declareWith (p.referenceExpression bound chain) name s

/-- The declaration of a schema under a name. References at its root are followed first. -/
def declaration (p : Printer) (name : String) (s : Schema) : Except ReferenceError String :=
  p.declareFrom name (p.referenceCount s) [] s

end Printer

end TypeScript

end ServiceBindings
