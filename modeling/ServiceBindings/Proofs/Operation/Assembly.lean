import ServiceBindings.Proofs.Operation.Building

/-! # How an operation is put together

Building an operation follows references in three places only: for the parameters, for the body and for the
response (`OperationContext.paramsPart`, `bodyPart`, `responsePart`). All else is read from the entries of
the operation and its path, and `OperationContext.assemble` puts everything together.

**Building is this assembly** (`OperationContext.build_eq`). So two operations for which the parts have the
same outcome are built alike (`OperationContext.SameFrame.build_eq`), and what is built shows the path, the
method, the summary and the tags of the operation (`OperationContext.Headed`). -/

namespace ServiceBindings

namespace OperationContext

/-- What the parameters contribute: whether there are any, their type and their declaration. -/
structure ParamsPart where
  /-- Whether the operation has parameters. -/
  present : Bool
  /-- The type of the parameters. -/
  type : String
  /-- The declaration of the parameters. -/
  text : String

variable (c : OperationContext) (operation : Operation)

/-- What the parameters of an operation contribute. -/
def paramsPart : Except ReferenceError ParamsPart := do
  let parameters ← c.parameters operation.entries
  let type ← c.paramsType (c.scopeOf operation) (Naming.hasId (c.pathOf operation)) parameters
  let text ← if Naming.hasId (c.pathOf operation) then .ok "" else c.paramsText parameters
  return ⟨!parameters.isEmpty, type, text⟩

/-- What the body of an operation contributes: its declaration. -/
def bodyPart : Except ReferenceError String := (body? operation.entries).elim (.ok "") c.bodyText

/-- What the response of an operation contributes: its declaration, unless it is binary data. -/
def responsePart : Except ReferenceError String :=
  (response? operation.entries).elim (.ok "") fun response =>
    if c.pathOf operation ∈ c.blobPaths then .ok "" else c.responseText response

/-- The summary of an operation. -/
def summaryOf : String := textOrEmpty (Value.lookupText "summary" operation.entries)

/-- The tags of an operation, with commas between them. -/
def tagsOf : String := joinTags ((Value.lookupText "tags" operation.entries).getD .null)

/-- The service function of an operation, given what its parameters contribute. -/
def functionOf (params : ParamsPart) : ServiceFunction where
  scope := c.scopeOf operation
  summary := summaryOf operation
  path := c.pathOf operation
  tags := tagsOf operation
  name := Naming.functionName operation.method (c.pathOf operation)
  hasId := Naming.hasId (c.pathOf operation)
  hasParams := params.present
  paramsType := params.type
  hasBody := (body? operation.entries).isSome
  bodyType :=
    if (body? operation.entries).isSome then ScopeMember.body.qualified (c.scopeOf operation)
    else "undefined"
  hasResponse := (response? operation.entries).isSome
  responseType :=
    if c.pathOf operation ∈ c.blobPaths then "Blob"
    else if (response? operation.entries).isSome then
      ScopeMember.response.qualified (c.scopeOf operation)
    else "void"
  method := operation.method
  requestPath := Naming.requestPath (c.pathOf operation)
  isBlob := decide (c.pathOf operation ∈ c.blobPaths)

/-- The namespace of types of an operation, given the declarations. -/
def typesOf (paramsText bodyText responseText : String) : TypeScope where
  name := c.scopeOf operation
  summary := summaryOf operation
  path := c.pathOf operation
  tags := tagsOf operation
  method := operation.method
  paramsText := paramsText
  bodyText := bodyText
  responseText := responseText

/-- An operation put together from its parts. -/
def assemble (params : ParamsPart) (bodyText responseText : String) : ServiceFunction × TypeScope :=
  (c.functionOf operation params, c.typesOf operation params.text bodyText responseText)

/-- **Building puts the parts together**, of which the first that fails is the failure. -/
theorem build_eq : c.build operation = do
    let params ← c.paramsPart operation
    let bodyText ← c.bodyPart operation
    let responseText ← c.responsePart operation
    return c.assemble operation params bodyText responseText := by
  unfold build paramsPart bodyPart responsePart assemble functionOf typesOf
  simp only [ite_bind, bind_assoc, pure_bind, decide_eq_true_eq]
  cases body? operation.entries <;> cases response? operation.entries <;> rfl

variable {c : OperationContext} {operation : Operation}

/-- An operation is built if its parts are, and put together from them. -/
theorem build_eq_ok_iff {pair : ServiceFunction × TypeScope} : c.build operation = .ok pair ↔
    ∃ params bodyText responseText, c.paramsPart operation = .ok params ∧
      c.bodyPart operation = .ok bodyText ∧ c.responsePart operation = .ok responseText ∧
      pair = c.assemble operation params bodyText responseText := by
  rw [build_eq]
  simp only [bind_eq_ok_iff]
  constructor
  · rintro ⟨params, hparams, bodyText, hbody, responseText, hresponse, h⟩
    exact ⟨params, bodyText, responseText, hparams, hbody, hresponse, (Except.ok.inj h).symm⟩
  · rintro ⟨params, bodyText, responseText, hparams, hbody, hresponse, rfl⟩
    exact ⟨params, hparams, bodyText, hbody, responseText, hresponse, rfl⟩

/-! ## The declarations of bodies and responses -/

end OperationContext

/-- What a value leads to if it is a reference, and the value if it is none. -/
def Value.behind (document v : Value) : Except ReferenceError Value :=
  match v.reference? with
  | some pointer => Pointer.resolve document pointer
  | none => .ok v

namespace OperationContext

variable {c : OperationContext} {operation : Operation}

/-- The declaration of what was found as the schema of a body; empty unless it is a mapping. -/
def declareBody (c : OperationContext) : Option Value → Except ReferenceError String
  | some (.map schema) => do
      let target ← c.document.behind (.map schema)
      c.printer.declaration ScopeMember.body.name (.ofValue target)
  | _ => .ok ""

/-- The declaration of what was found as the payload of a response; empty unless it is a mapping. -/
def declarePayload (c : OperationContext) : Option Value → Except ReferenceError String
  | some (.map payload) => do
      let schema ← Schema.expand c.document (.ofValue (.map payload))
      c.printer.declaration ScopeMember.response.name schema.completeRequired
  | _ => .ok ""

/-- The declaration of a body is that of what is found in it. -/
theorem bodyText_eq_bind (body : Value) : c.bodyText body =
    (do
      let target ← c.document.follow body
      let found ← Value.dig c.document schemaSteps target
      c.declareBody found) := by
  rw [bodyText]
  refine congrArg _ (funext fun target => congrArg _ (funext fun found => ?_))
  split
  · next schema =>
      rw [declareBody, Value.behind]
      cases (Value.map schema).reference? <;> rfl
  · next hnone =>
      unfold declareBody
      split
      · exact absurd rfl (hnone _)
      · rfl

/-- The declaration of a response is that of what is found in it. -/
theorem responseText_eq_bind (response : Value) : c.responseText response =
    Value.dig c.document (schemaSteps ++ payloadSteps) response >>= c.declarePayload := by
  rw [responseText]
  refine congrArg _ (funext fun found => ?_)
  split
  · rfl
  · next hnone =>
      unfold declarePayload
      split
      · exact absurd rfl (hnone _)
      · rfl

/-! ## Operations built alike -/

/-- Two operations differ at most in what references are followed for: they have the same base, path,
method, summary and tags, and both or neither have a body and a response. -/
structure SameFrame (c c' : OperationContext) (operation operation' : Operation) : Prop where
  /-- The base of all paths. -/
  base_eq : c.base = c'.base
  /-- The paths of binary data. -/
  blobPaths_eq : c.blobPaths = c'.blobPaths
  /-- The path. -/
  path_eq : operation.path = operation'.path
  /-- The method. -/
  method_eq : operation.method = operation'.method
  /-- The summary. -/
  summary_eq : summaryOf operation = summaryOf operation'
  /-- The tags. -/
  tags_eq : tagsOf operation = tagsOf operation'
  /-- The body. -/
  body_isSome_eq : (body? operation.entries).isSome = (body? operation'.entries).isSome
  /-- The response. -/
  response_isSome_eq : (response? operation.entries).isSome = (response? operation'.entries).isSome

namespace SameFrame

variable {c' : OperationContext} {operation' : Operation}

/-- The path without the base is the same. -/
theorem pathOf_eq (h : SameFrame c c' operation operation') : c.pathOf operation = c'.pathOf operation' := by
  rw [pathOf, pathOf, h.base_eq, h.path_eq]

/-- The name of the namespace is the same. -/
theorem scopeOf_eq (h : SameFrame c c' operation operation') :
    c.scopeOf operation = c'.scopeOf operation' := by
  rw [scopeOf, scopeOf, h.method_eq, h.pathOf_eq]

/-- The same is put together from the same parts. -/
theorem assemble_eq (h : SameFrame c c' operation operation') :
    c.assemble operation = c'.assemble operation' := by
  funext params bodyText responseText
  simp only [assemble, functionOf, typesOf, h.scopeOf_eq, h.pathOf_eq, h.method_eq, h.summary_eq, h.tags_eq,
    h.body_isSome_eq, h.response_isSome_eq, h.blobPaths_eq]

/-- **Operations of one frame are built alike** if their parts have the same outcomes. -/
theorem build_eq (h : SameFrame c c' operation operation')
    (hparams : c.paramsPart operation = c'.paramsPart operation')
    (hbody : c.bodyPart operation = c'.bodyPart operation')
    (hresponse : c.responsePart operation = c'.responsePart operation') :
    c.build operation = c'.build operation' := by
  rw [OperationContext.build_eq, OperationContext.build_eq, hparams, hbody, hresponse, h.assemble_eq]

end SameFrame

/-! ## What a built operation shows -/

/-- A function and a namespace show an operation: its path without the base, its method, its summary and its
tags, under the names that come from path and method. -/
structure Headed (c : OperationContext) (operation : Operation) (f : ServiceFunction)
    (types : TypeScope) : Prop where
  /-- The namespace of the function. -/
  scope_eq : f.scope = c.scopeOf operation
  /-- The name of the function. -/
  functionName_eq : f.name = Naming.functionName operation.method (c.pathOf operation)
  /-- The path of the function. -/
  path_eq : f.path = c.pathOf operation
  /-- The method of the function. -/
  method_eq : f.method = operation.method
  /-- The namespace of types is that of the function. -/
  name_eq : types.name = f.scope
  /-- The paths agree. -/
  types_path_eq : types.path = f.path
  /-- The methods agree. -/
  types_method_eq : types.method = f.method
  /-- The summaries agree. -/
  summary_eq : types.summary = f.summary
  /-- The tags agree. -/
  tags_eq : types.tags = f.tags

/-- What is built shows the operation. -/
theorem headed_of_build {f : ServiceFunction} {types : TypeScope}
    (h : c.build operation = .ok (f, types)) : c.Headed operation f types := by
  obtain ⟨params, bodyText, responseText, -, -, -, hpair⟩ := build_eq_ok_iff.mp h
  cases hpair
  exact ⟨rfl, rfl, rfl, rfl, rfl, rfl, rfl, rfl, rfl⟩

end OperationContext

end ServiceBindings
