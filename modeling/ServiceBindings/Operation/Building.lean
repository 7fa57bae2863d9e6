import ServiceBindings.Operation.Basic
import ServiceBindings.Schema.Required
import ServiceBindings.TypeScript.Expression

/-! # Building service functions and their types

`OperationContext.build` derives the service function and the namespace of types of one operation.
References may stand in place of a parameter, of a body, of a response and of every object on the way
to the schema inside it: `dig` follows them before each step.

* The parameters of a query become the members of one object type, unless the path holds the
  placeholder of the identifier: then the first parameter is the identifier.
* The type of a body is that of its schema.
* The type of a response is that of the **payload** inside the envelope, which is the second part of
  an `allOf`, under the property `data`; its references are expanded and its required properties
  completed. -/

namespace ServiceBindings

/-- What the derivation needs to know besides the operation. -/
structure OperationContext where
  /-- The document that references lead into. -/
  document : Value
  /-- The base of all paths, which is dropped. -/
  base : String := ""
  /-- The paths whose response is binary data. -/
  blobPaths : List String := []

/-- One step into a value. -/
inductive Step where
  /-- To the value of a key. -/
  | key (name : String)
  /-- To the item at an index. -/
  | index (position : Nat)
  deriving DecidableEq, Repr

namespace Step

/-- What a step leads to. -/
def target? : Step → Value → Option Value
  | key name, v => v.get? name
  | index position, .list items => items[position]?
  | index _, _ => none

end Step

/-- The steps from a body or a response to its schema. -/
def schemaSteps : List Step := [.key "content", .key "application/json", .key "schema"]

/-- The steps from the schema of a response to its payload. -/
def payloadSteps : List Step := [.key "allOf", .index 1, .key "properties", .key "data"]

/-- The only response that is looked at. -/
def responseKey : String := "default"

namespace Value

/-- What steps lead to, where references are followed before each step. -/
def dig (document : Value) : List Step → Value → Except ReferenceError (Option Value)
  | [], v => .ok (some v)
  | step :: rest, v =>
      match document.follow v with
      | .error e => .error e
      | .ok target =>
          match step.target? target with
          | some next => dig document rest next
          | none => .ok none

end Value

namespace OperationContext

/-- The texts of a list with commas between them. -/
def joinTags : Value → String
  | .list tags => Text.join "," (tags.filterMap Value.text?)
  | _ => ""

/-- A text, or the empty one for any other value. -/
def textOrEmpty (v : Option Value) : String := (v.bind Value.text?).getD ""

/-- The parameters of an operation, references followed; what is not a mapping is left out. -/
def parameters (c : OperationContext) (entries : List (Scalar × Value)) :
    Except ReferenceError (List (List (Scalar × Value))) :=
  match Value.lookupText "parameters" entries with
  | some (.list items) => do
      let targets ← items.mapM c.document.follow
      return targets.filterMap fun
        | .map parameter => some parameter
        | _ => none
  | _ => .ok []

/-- The schema of a text, for what declares none. -/
def textSchema : Value := .map [(.text "type", .text "string")]

/-- The schema that a parameter declares, with the description of the parameter unless it has one of
its own or is a reference. -/
def parameterSchema (parameter : List (Scalar × Value)) : Value :=
  match Value.lookupText "schema" parameter with
  | some (.map schema) =>
      match Value.lookupText "description" parameter with
      | some (.scalar (.text description)) =>
          if (Value.lookupText "$ref" schema).isSome ∨
              (Value.lookupText "description" schema).isSome then
            .map schema
          else .map (schema ++ [(.text "description", .text description)])
      | _ => .map schema
  | _ => textSchema

/-- The type of the parameters: without parameters none, for a path with an identifier the primitive
type of the first parameter, otherwise a member of the namespace. -/
def paramsType (c : OperationContext) (scope : String) (hasId : Bool)
    (parameters : List (List (Scalar × Value))) : Except ReferenceError String :=
  match parameters with
  | [] => .ok "undefined"
  | first :: _ =>
      if hasId then do
        let schema ← c.document.follow ((Value.lookupText "schema" first).getD .null)
        return match schema.get? "type" with
          | some type => TypeScript.primitiveTypeOf type
          | none => "string"
      else .ok (ScopeMember.params.qualified scope)

/-- The name of a parameter that is part of the query. -/
def queryName? (parameter : List (Scalar × Value)) : Option String :=
  match Value.lookupText "in" parameter, Value.lookupText "name" parameter with
  | some (.scalar (.text place)), some (.scalar (.text name)) =>
      if place = "query" ∧ name ≠ "" then some name else none
  | _, _ => none

/-- The parameters of the query as properties of one object. -/
def queryProperties (parameters : List (List (Scalar × Value))) : List (String × Schema) :=
  Entries.ofList (parameters.filterMap fun parameter =>
    (queryName? parameter).map fun name => (name, .ofValue (parameterSchema parameter)))

/-- The names of the required parameters of the query. -/
def requiredNames (parameters : List (List (Scalar × Value))) : List String :=
  parameters.filterMap fun parameter =>
    match queryName? parameter, Value.lookupText "required" parameter with
    | some name, some (.scalar (.flag true)) => some name
    | _, _ => none

/-- How types are written. -/
def printer (c : OperationContext) : TypeScript.Printer := ⟨some c.document, "  "⟩

/-- The declaration of the parameters of the query; empty if there are none. -/
def paramsText (c : OperationContext) (parameters : List (List (Scalar × Value))) :
    Except ReferenceError String :=
  let properties := queryProperties parameters
  if properties.isEmpty then .ok ""
  else
    c.printer.declaration ScopeMember.params.name
      (.object properties (some (requiredNames parameters)) .unspecified
        [(.text "type", .text "object")])

/-- The declaration of the body; empty if it has no schema. -/
def bodyText (c : OperationContext) (body : Value) : Except ReferenceError String := do
  let body ← c.document.follow body
  match ← Value.dig c.document schemaSteps body with
  | some (.map schema) =>
      let target ← match (Value.map schema).reference? with
        | some pointer => Pointer.resolve c.document pointer
        | none => .ok (.map schema)
      c.printer.declaration ScopeMember.body.name (.ofValue target)
  | _ => return ""

/-- The declaration of the payload of a response; empty if it has none. -/
def responseText (c : OperationContext) (response : Value) : Except ReferenceError String := do
  match ← Value.dig c.document (schemaSteps ++ payloadSteps) response with
  | some (.map payload) =>
      let schema ← Schema.expand c.document (.ofValue (.map payload))
      c.printer.declaration ScopeMember.response.name schema.completeRequired
  | _ => return ""

/-- The body of an operation, unless it is absent or null. -/
def body? (entries : List (Scalar × Value)) : Option Value :=
  (Value.lookupText "requestBody" entries).filter (· != .null)

/-- The response of an operation that is looked at. -/
def response? (entries : List (Scalar × Value)) : Option Value :=
  (Value.lookupText "responses" entries).bind fun responses => responses.get? responseKey

/-- The service function and the namespace of types of an operation. -/
def build (c : OperationContext) (operation : Operation) :
    Except ReferenceError (ServiceFunction × TypeScope) := do
  let path := Naming.stripBase c.base operation.path
  let method := operation.method
  let entries := operation.entries
  let scope := Naming.scopeName method path
  let hasId := Naming.hasId path
  let parameters ← c.parameters entries
  let summary := textOrEmpty (Value.lookupText "summary" entries)
  let tags := joinTags ((Value.lookupText "tags" entries).getD .null)
  let isBlob := decide (path ∈ c.blobPaths)
  let body := body? entries
  let response := response? entries
  let paramsType ← c.paramsType scope hasId parameters
  let paramsText ← if hasId then .ok "" else c.paramsText parameters
  let bodyText ← match body with
    | some v => c.bodyText v
    | none => .ok ""
  let responseText ← match response with
    | some v => if isBlob then .ok "" else c.responseText v
    | none => .ok ""
  let function : ServiceFunction :=
    { scope, summary, path, tags, hasId, paramsType, method, isBlob
      name := Naming.functionName method path
      hasParams := !parameters.isEmpty
      hasBody := body.isSome
      bodyType := if body.isSome then ScopeMember.body.qualified scope else "undefined"
      hasResponse := response.isSome
      responseType :=
        if isBlob then "Blob"
        else if response.isSome then ScopeMember.response.qualified scope
        else "void"
      requestPath := Naming.requestPath path }
  let types : TypeScope :=
    { name := scope, summary, path, tags, method, paramsText, bodyText, responseText }
  return (function, types)

end OperationContext

end ServiceBindings
