import ServiceBindings.Proofs.Operation.Assembly
import ServiceBindings.Proofs.Operation.Replacing
import ServiceBindings.Proofs.Schema.Commuting
import ServiceBindings.Proofs.TypeScript.Preresolving

/-! # References in operations

A parameter, a body, a response and every object on the way to the schema inside it may be given by a reference
(`Operation.TakesReference`). `Operation.refer` puts a reference in place of such a part.

**With a reference to a part an operation is built as with the part itself** (`OperationContext.build_refer`),
unless the part is the schema of the body and a reference to a guarded interface
(`OperationContext.RefersToGuarded`). Of a reference that stands as that schema one step only is taken before the
schema is declared, so that a reference to a reference puts the second one on the chain of the declaration. This
makes a difference only where a declaration looks at properties that an expression passes over, which is the
case for an interface whose annotations fix another type (`OperationContext.build_refer_loop`). -/

namespace ServiceBindings

open Value (referenceTo at? putAt)

/-! ## Lists of computations -/

/-- In computations that all succeed, an input can be replaced by one with the same result. -/
theorem mapM_set_of_mapM_eq_ok {ε α β : Type} {f : α → Except ε β} {a a' : α}
    (hsame : ∀ b, f a = .ok b → f a' = .ok b) {inputs : List α} {outputs : List β} {i : Nat}
    (hat : inputs[i]? = some a) (h : inputs.mapM f = .ok outputs) : (inputs.set i a').mapM f = .ok outputs := by
  induction inputs generalizing outputs i with
  | nil => cases hat
  | cons first rest ih =>
      rw [List.mapM_cons, bind_eq_ok_iff] at h
      obtain ⟨b, hb, h⟩ := h
      obtain ⟨bs, hbs, h⟩ := bind_eq_ok_iff.mp h
      cases i with
      | zero =>
          cases hat
          rw [List.set_cons_zero, List.mapM_cons, hsame b hb, hbs]
          exact h
      | succ i =>
          rw [List.set_cons_succ, List.mapM_cons, hb, ih hat hbs]
          exact h

/-! ## Parts that a reference may stand for -/

namespace Operation

/-- The parts of an operation that a reference may stand for, with the steps to them: a parameter, the body and
what is on the way to its schema, the response and what is on the way to its payload. The body itself, its
schema, the response itself and its payload are mappings. -/
inductive TakesReference : List Step → Value → Prop where
  /-- A parameter. -/
  | parameter (position : Nat) (part : Value) :
      TakesReference [.key "parameters", .index position] part
  /-- The body, or a part of it down to its schema. -/
  | body {steps : List Step} {part : Value} :
      steps <+: schemaSteps → (steps = [] ∨ steps = schemaSteps → part.isMap) →
      TakesReference (.key "requestBody" :: steps) part
  /-- The response, or a part of it down to its payload. -/
  | response {steps : List Step} {part : Value} :
      steps <+: schemaSteps ++ payloadSteps →
      (steps = [] ∨ steps = schemaSteps ++ payloadSteps → part.isMap) →
      TakesReference (.key "responses" :: .key responseKey :: steps) part

/-- The part of an operation at the end of some steps. -/
def part? (operation : Operation) (steps : List Step) : Option Value := at? steps (.map operation.entries)

/-- An operation with a value set under a key. -/
def withEntry (operation : Operation) (key : String) (v : Value) : Operation :=
  { operation with entries := Entries.insert (.text key) v operation.entries }

/-- An operation with a reference put at the end of some steps. -/
def refer (operation : Operation) (steps : List Step) (pointer : String) : Operation :=
  match putAt (referenceTo pointer) steps (.map operation.entries) with
  | .map entries => { operation with entries }
  | _ => operation

variable {operation : Operation} {key : String} {steps : List Step} {v part : Value}

/-- A part of an operation is a part of one of its entries. -/
theorem part?_cons_eq_some_iff : operation.part? (.key key :: steps) = some part ↔
    ∃ v, Value.lookupText key operation.entries = some v ∧ at? steps v = some part :=
  Value.at?_cons_eq_some_iff

/-- A reference in an operation is put into one of its entries. -/
theorem refer_cons (h : Value.lookupText key operation.entries = some v) (pointer : String) :
    operation.refer (.key key :: steps) pointer
      = operation.withEntry key (putAt (referenceTo pointer) steps v) := by
  have htarget : Step.target? (.key key) (.map operation.entries) = some v := h
  rw [refer, Value.putAt_cons htarget]
  rfl

/-- The value that is set under a key is found there. -/
theorem lookupText_withEntry_self (operation : Operation) (key : String) (v : Value) :
    Value.lookupText key (operation.withEntry key v).entries = some v :=
  Entries.lookup_insert_self (Scalar.text key) v operation.entries

/-- The values under other keys stay as they are. -/
theorem lookupText_withEntry_of_ne {other : String} (h : other ≠ key) (v : Value) :
    Value.lookupText other (operation.withEntry key v).entries = Value.lookupText other operation.entries :=
  Value.lookupText_insert_of_ne h v operation.entries

end Operation

namespace OperationContext

variable {c : OperationContext} {operation : Operation} {pointer : String} {part : Value}

/-! ## What is declared -/

/-- A value is a reference to an object that is declared as an interface and has a type that is fixed by its
annotations, and a chain of references, each of which leads to the next one, begins and ends with that
reference. -/
def RefersToGuarded (document v : Value) (chain : List String) : Prop :=
  ∃ q target path, v.reference? = some q ∧ Pointer.resolve document q = .ok target ∧
    TypeScript.Printer.isInterface (.ofValue target) = true ∧
    TypeScript.fixedType? (Schema.ofValue target).annotations ≠ none ∧
    chain = q :: path ++ [q] ∧ chain.IsChain (Schema.LeadsTo document)

/-- What a reference leads to is at its place. -/
theorem atPointer_of_resolve {document : Value} (hresolve : Pointer.resolve document pointer = .ok part) :
    Schema.atPointer document pointer = .ok (.ofValue part) :=
  Schema.atPointer_eq_ok_iff.mpr ⟨part, hresolve, rfl⟩

/-- A payload is declared from a reference to it. -/
theorem declarePayload_referenceTo {text : String} (hresolve : Pointer.resolve c.document pointer = .ok part)
    (hmap : part.isMap) (h : c.declarePayload (some part) = .ok text) :
    c.declarePayload (some (referenceTo pointer)) = .ok text := by
  obtain ⟨payload, rfl⟩ := Value.exists_of_isMap hmap
  obtain ⟨schema, hschema, htext⟩ := bind_eq_ok_iff.mp h
  have hreference := Schema.expand_reference (atPointer_of_resolve hresolve) hschema
  exact bind_eq_ok_iff.mpr ⟨schema, hreference, htext⟩

/-- A schema of a body is declared from a reference to it, unless it is itself a reference to a guarded
interface. -/
theorem declareBody_referenceTo {text : String} (hresolve : Pointer.resolve c.document pointer = .ok part)
    (hmap : part.isMap) (h : c.declareBody (some part) = .ok text) :
    c.declareBody (some (referenceTo pointer)) = .ok text ∨
      ∃ chain, RefersToGuarded c.document part chain ∧
        c.declareBody (some (referenceTo pointer)) = .error (.cyclic chain) := by
  have hreference : c.declareBody (some (referenceTo pointer))
      = c.printer.declaration ScopeMember.body.name (.ofValue part) := by
    show Pointer.resolve c.document pointer >>= _ = _
    rw [hresolve]
    rfl
  obtain ⟨schema, rfl⟩ := Value.exists_of_isMap hmap
  obtain ⟨target, htarget, htext⟩ := bind_eq_ok_iff.mp h
  rw [hreference]
  rw [Value.behind] at htarget
  cases href : (Value.map schema).reference? with
  | none =>
      rw [href] at htarget
      cases htarget
      exact .inl htext
  | some q =>
      -- the schema is declared through a reference where it was declared as it stands there
      rw [href] at htarget
      rw [Schema.ofValue_of_reference? href]
      have hdocument : c.printer.document = some c.document := rfl
      rcases TypeScript.Printer.sameKind_or_returns hdocument htarget ScopeMember.body.name with
        hsame | ⟨hinterface, hfixed, ⟨path, hpath, herror⟩, -⟩
      · exact .inl (hsame.eq_ok htext)
      · exact .inr ⟨_, ⟨q, target, path, href, htarget, hinterface, hfixed, rfl, hpath⟩, herror⟩

/-! ## Bodies and responses with a reference -/

/-- No step to a schema or a payload leads to what a reference refers to. -/
theorem ne_key_of_prefix {steps : List Step} (hsteps : steps <+: schemaSteps ++ payloadSteps) :
    ∀ step ∈ steps, step ≠ .key "$ref" := by
  intro step hstep
  have hall : ∀ step ∈ schemaSteps ++ payloadSteps, step ≠ .key "$ref" := by decide
  exact hall step (hsteps.subset hstep)

/-- A body has the declaration of what is found in it. -/
theorem bodyText_eq_dig_bind (body : Value) :
    c.bodyText body = Value.dig c.document schemaSteps body >>= c.declareBody := by
  rw [bodyText_eq_bind, ← bind_assoc]
  exact congrArg (· >>= c.declareBody) (Value.follow_bind_dig body)

/-- A response with a reference in place of a part has the same declaration. -/
theorem responseText_putAt {response : Value} {text : String} {steps : List Step}
    (hresolve : Pointer.resolve c.document pointer = .ok part) (hsteps : steps <+: schemaSteps ++ payloadSteps)
    (hmap : steps = schemaSteps ++ payloadSteps → part.isMap) (hat : at? steps response = some part)
    (h : c.responseText response = .ok text) :
    c.responseText (putAt (referenceTo pointer) steps response) = .ok text := by
  have hkeys := ne_key_of_prefix hsteps
  obtain ⟨rest, hrest⟩ := hsteps
  rw [responseText_eq_bind, ← hrest] at h ⊢
  obtain ⟨found, hfound, htext⟩ := bind_eq_ok_iff.mp h
  rcases Value.dig_putAt hresolve hkeys hat hfound with hsame | ⟨rfl, rfl, hreference⟩
  · exact bind_eq_ok_iff.mpr ⟨found, hsame, htext⟩
  · rw [List.append_nil] at hrest
    exact bind_eq_ok_iff.mpr ⟨_, hreference, declarePayload_referenceTo hresolve (hmap hrest) htext⟩

/-- A body with a reference in place of a part has the same declaration, unless the part is its schema and a
reference to a guarded interface. -/
theorem bodyText_putAt {body : Value} {text : String} {steps : List Step}
    (hresolve : Pointer.resolve c.document pointer = .ok part) (hsteps : steps <+: schemaSteps)
    (hmap : steps = schemaSteps → part.isMap) (hat : at? steps body = some part)
    (h : c.bodyText body = .ok text) :
    c.bodyText (putAt (referenceTo pointer) steps body) = .ok text ∨
      steps = schemaSteps ∧ ∃ chain, RefersToGuarded c.document part chain ∧
        c.bodyText (putAt (referenceTo pointer) steps body) = .error (.cyclic chain) := by
  have hkeys := ne_key_of_prefix (hsteps.trans (List.prefix_append schemaSteps payloadSteps))
  obtain ⟨rest, hrest⟩ := hsteps
  rw [bodyText_eq_dig_bind, ← hrest] at h ⊢
  obtain ⟨found, hfound, htext⟩ := bind_eq_ok_iff.mp h
  rcases Value.dig_putAt hresolve hkeys hat hfound with hsame | ⟨rfl, rfl, hreference⟩
  · exact .inl (bind_eq_ok_iff.mpr ⟨found, hsame, htext⟩)
  · rw [List.append_nil] at hrest
    rcases declareBody_referenceTo hresolve (hmap hrest) htext with hok | ⟨chain, hchain, herror⟩
    · exact .inl (bind_eq_ok_iff.mpr ⟨_, hreference, hok⟩)
    · refine .inr ⟨(List.append_nil steps).symm, chain, hchain, ?_⟩
      rw [hreference]
      exact herror

/-! ## Operations with another entry -/

section WithEntry

open Operation (lookupText_withEntry_self lookupText_withEntry_of_ne)

variable {key : String} {v : Value}

/-- The parameters contribute the same where another key is set. -/
theorem paramsPart_withEntry (hkey : "parameters" ≠ key) :
    c.paramsPart (operation.withEntry key v) = c.paramsPart operation := by
  unfold paramsPart OperationContext.parameters
  rw [lookupText_withEntry_of_ne hkey]
  rfl

/-- The body is the same where another key is set. -/
theorem body?_withEntry (hkey : "requestBody" ≠ key) :
    body? (operation.withEntry key v).entries = body? operation.entries := by
  rw [body?, body?, lookupText_withEntry_of_ne hkey]

/-- The response is the same where another key is set. -/
theorem response?_withEntry (hkey : "responses" ≠ key) :
    response? (operation.withEntry key v).entries = response? operation.entries := by
  rw [response?, response?, lookupText_withEntry_of_ne hkey]

/-- The body contributes the same where another key is set. -/
theorem bodyPart_withEntry (hkey : "requestBody" ≠ key) :
    c.bodyPart (operation.withEntry key v) = c.bodyPart operation := by
  rw [bodyPart, bodyPart, body?_withEntry hkey]

/-- The response contributes the same where another key is set. -/
theorem responsePart_withEntry (hkey : "responses" ≠ key) :
    c.responsePart (operation.withEntry key v) = c.responsePart operation := by
  rw [responsePart, responsePart, response?_withEntry hkey]
  rfl

/-- An operation with another entry is in the same frame if the entry is neither the summary nor the tags, and
there still is a body or a response if there was one. -/
theorem sameFrame_withEntry (hsummary : "summary" ≠ key) (htags : "tags" ≠ key)
    (hbody : (body? (operation.withEntry key v).entries).isSome = (body? operation.entries).isSome)
    (hresponse : (response? (operation.withEntry key v).entries).isSome
      = (response? operation.entries).isSome) :
    SameFrame c c (operation.withEntry key v) operation := by
  refine ⟨rfl, rfl, rfl, rfl, ?_, ?_, hbody, hresponse⟩
  · rw [summaryOf, summaryOf, lookupText_withEntry_of_ne hsummary]
  · rw [tagsOf, tagsOf, lookupText_withEntry_of_ne htags]

/-- The parameters are the same with a reference to one of them. -/
theorem parameters_withEntry {items : List Value} {position : Nat}
    {parameters : List (List (Scalar × Value))} (hresolve : Pointer.resolve c.document pointer = .ok part)
    (hitems : Value.lookupText "parameters" operation.entries = some (.list items))
    (hat : items[position]? = some part) (h : c.parameters operation.entries = .ok parameters) :
    c.parameters (operation.withEntry "parameters"
      (.list (items.set position (referenceTo pointer)))).entries = .ok parameters := by
  have hfollow : ∀ target, c.document.follow part = .ok target →
      c.document.follow (referenceTo pointer) = .ok target :=
    fun target htarget => Value.follow_referenceTo hresolve htarget
  unfold OperationContext.parameters at h ⊢
  rw [hitems] at h
  rw [lookupText_withEntry_self]
  obtain ⟨targets, htargets, hparameters⟩ := bind_eq_ok_iff.mp h
  exact bind_eq_ok_iff.mpr ⟨targets, mapM_set_of_mapM_eq_ok hfollow hat htargets, hparameters⟩

/-- A body contributes its declaration. -/
theorem bodyPart_of_body? (h : body? operation.entries = some v) : c.bodyPart operation = c.bodyText v := by
  rw [bodyPart, h]
  rfl

/-- A response contributes its declaration, unless it is binary data. -/
theorem responsePart_of_response? (h : response? operation.entries = some v) :
    c.responsePart operation = if c.pathOf operation ∈ c.blobPaths then .ok "" else c.responseText v := by
  rw [responsePart, h]
  rfl

/-- A value other than null is the body. -/
theorem body?_eq_some (hv : Value.lookupText "requestBody" operation.entries = some v) (hnull : v ≠ .null) :
    body? operation.entries = some v := by
  simp [body?, hv, hnull]

/-- A value under the key of the response is the response. -/
theorem response?_eq_some {responses : Value}
    (hresponses : Value.lookupText "responses" operation.entries = some responses)
    (hv : responses.get? responseKey = some v) : response? operation.entries = some v := by
  rw [response?, hresponses]
  exact hv

end WithEntry

/-! ## Operations with a reference -/

section Refer

variable {pair : ServiceFunction × TypeScope} {steps : List Step}

/-- An operation with a reference to a parameter is built as with the parameter. -/
theorem build_refer_parameter {position : Nat} (hresolve : Pointer.resolve c.document pointer = .ok part)
    (hat : operation.part? [.key "parameters", .index position] = some part)
    (h : c.build operation = .ok pair) :
    c.build (operation.refer [.key "parameters", .index position] pointer) = .ok pair := by
  obtain ⟨v, hv, hat⟩ := Operation.part?_cons_eq_some_iff.mp hat
  obtain ⟨v', hv', hat⟩ := Value.at?_cons_eq_some_iff.mp hat
  cases hat
  obtain ⟨items, rfl, hitem⟩ := Step.exists_of_target?_index hv'
  obtain ⟨params, -, -, hparams, -⟩ := build_eq_ok_iff.mp h
  obtain ⟨parameters, hparameters, -⟩ := bind_eq_ok_iff.mp hparams
  have hsame := parameters_withEntry hresolve hv hitem hparameters
  rw [Operation.refer_cons hv, Value.putAt_cons hv', ← h]
  have hframe : SameFrame c c (operation.withEntry "parameters"
      (.list (items.set position (referenceTo pointer)))) operation :=
    sameFrame_withEntry (by decide) (by decide) (congrArg _ (body?_withEntry (by decide)))
      (congrArg _ (response?_withEntry (by decide)))
  refine hframe.build_eq ?_ (bodyPart_withEntry (by decide)) (responsePart_withEntry (by decide))
  unfold paramsPart
  rw [hparameters, hsame]
  rfl

/-- With a reference in place of a part, what was no null is none. -/
theorem ne_null_of_at? (pointer : String) {v : Value} (hmap : steps = [] → part.isMap)
    (hat : at? steps v = some part) : v ≠ .null ∧ putAt (referenceTo pointer) steps v ≠ .null := by
  cases steps with
  | nil =>
      cases hat
      refine ⟨?_, nofun⟩
      rintro rfl
      cases hmap rfl
  | cons step rest =>
      obtain ⟨next, hnext, -⟩ := Value.at?_cons_eq_some_iff.mp hat
      have hput := Step.target?_put hnext (putAt (referenceTo pointer) rest next)
      rw [Value.putAt_cons hnext]
      exact ⟨Step.ne_null_of_target? hnext, Step.ne_null_of_target? hput⟩

/-- An operation with a reference to its body or a part of it is built as with the part, unless the part is
the schema of the body and a reference to a guarded interface. -/
theorem build_refer_body (hresolve : Pointer.resolve c.document pointer = .ok part)
    (hsteps : steps <+: schemaSteps) (hmap : steps = [] ∨ steps = schemaSteps → part.isMap)
    (hat : operation.part? (.key "requestBody" :: steps) = some part) (h : c.build operation = .ok pair) :
    c.build (operation.refer (.key "requestBody" :: steps) pointer) = .ok pair ∨
      steps = schemaSteps ∧ ∃ chain, RefersToGuarded c.document part chain ∧
        c.build (operation.refer (.key "requestBody" :: steps) pointer) = .error (.cyclic chain) := by
  obtain ⟨body, hbody, hat⟩ := Operation.part?_cons_eq_some_iff.mp hat
  obtain ⟨params, bodyText, responseText, hparams, htext, -, -⟩ := build_eq_ok_iff.mp h
  rw [Operation.refer_cons hbody]
  obtain ⟨hnull, hnull'⟩ := ne_null_of_at? pointer (fun hnil => hmap (.inl hnil)) hat
  -- there is a body in both operations
  have hsome := body?_eq_some hbody hnull
  have hsome' := body?_eq_some (Operation.lookupText_withEntry_self operation "requestBody" _) hnull'
  rw [bodyPart_of_body? hsome] at htext
  have hframe : SameFrame c c (operation.withEntry "requestBody" (putAt (referenceTo pointer) steps body))
      operation :=
    sameFrame_withEntry (by decide) (by decide) (by rw [hsome, hsome']; rfl)
      (congrArg _ (response?_withEntry (by decide)))
  rcases bodyText_putAt hresolve hsteps (fun heq => hmap (.inr heq)) hat htext with
    hok | ⟨heq, chain, hchain, herror⟩
  · left
    rw [← h]
    refine hframe.build_eq (paramsPart_withEntry (by decide)) ?_ (responsePart_withEntry (by decide))
    rw [bodyPart_of_body? hsome, bodyPart_of_body? hsome', hok, htext]
  · refine .inr ⟨heq, chain, hchain, ?_⟩
    rw [build_eq, paramsPart_withEntry (by decide), hparams, bodyPart_of_body? hsome', herror]
    rfl

/-- An operation with a reference to its response or a part of it is built as with the part. -/
theorem build_refer_response (hresolve : Pointer.resolve c.document pointer = .ok part)
    (hsteps : steps <+: schemaSteps ++ payloadSteps)
    (hmap : steps = schemaSteps ++ payloadSteps → part.isMap)
    (hat : operation.part? (.key "responses" :: .key responseKey :: steps) = some part)
    (h : c.build operation = .ok pair) :
    c.build (operation.refer (.key "responses" :: .key responseKey :: steps) pointer) = .ok pair := by
  obtain ⟨responses, hresponses, hat⟩ := Operation.part?_cons_eq_some_iff.mp hat
  obtain ⟨response, hresponse, hat⟩ := Value.at?_cons_eq_some_iff.mp hat
  obtain ⟨params, bodyText, responseText, -, -, htext, -⟩ := build_eq_ok_iff.mp h
  rw [Operation.refer_cons hresponses, Value.putAt_cons hresponse]
  have hput := Step.target?_put hresponse (putAt (referenceTo pointer) steps response)
  -- there is a response in both operations
  have hsome := response?_eq_some hresponses hresponse
  have hsome' := response?_eq_some (Operation.lookupText_withEntry_self operation "responses" _) hput
  have hframe : SameFrame c c (operation.withEntry "responses"
      (Step.put (.key responseKey) (putAt (referenceTo pointer) steps response) responses)) operation :=
    sameFrame_withEntry (by decide) (by decide) (congrArg _ (body?_withEntry (by decide)))
      (by rw [hsome, hsome']; rfl)
  rw [← h]
  refine hframe.build_eq (paramsPart_withEntry (by decide)) (bodyPart_withEntry (by decide)) ?_
  rw [htext]
  rw [responsePart_of_response? hsome] at htext
  rw [responsePart_of_response? hsome', hframe.pathOf_eq]
  by_cases hblob : c.pathOf operation ∈ c.blobPaths
  · rw [if_pos hblob] at htext ⊢
    exact htext
  · rw [if_neg hblob] at htext ⊢
    exact responseText_putAt hresolve hsteps hmap hat htext

/-- **With a reference to a part an operation is built as with the part itself**: a parameter, the body, the
response, or what is on the way from there to a schema. The only exception is a schema of the body that is a
reference to an object that is declared as an interface and has a type that is fixed by its annotations: there
building fails if it comes back to that reference, with a cycle from the reference to itself. -/
theorem build_refer {c : OperationContext} {operation : Operation} {steps : List Step} {part : Value}
    {pointer : String} {pair : ServiceFunction × TypeScope} (hpart : Operation.TakesReference steps part)
    (hat : operation.part? steps = some part) (hresolve : Pointer.resolve c.document pointer = .ok part)
    (h : c.build operation = .ok pair) :
    c.build (operation.refer steps pointer) = .ok pair ↔
      ¬ (steps = .key "requestBody" :: schemaSteps ∧ ∃ chain, RefersToGuarded c.document part chain ∧
        c.build (operation.refer steps pointer) = .error (.cyclic chain)) := by
  constructor
  · rintro hok ⟨-, chain, -, herror⟩
    cases hok.symm.trans herror
  intro hexcept
  cases hpart with
  | parameter position => exact build_refer_parameter hresolve hat h
  | body hsteps hmap =>
      rcases build_refer_body hresolve hsteps hmap hat h with hok | ⟨rfl, hcycle⟩
      · exact hok
      · exact absurd ⟨rfl, hcycle⟩ hexcept
  | response hsteps hmap => exact build_refer_response hresolve hsteps (fun heq => hmap (.inr heq)) hat h

end Refer

/-! ## A document with components -/

/-- The pointer to a schema among the components of a document. -/
def componentPointer (name : String) : String := "#/components/schemas/" ++ name

/-- A schema of a list of texts. -/
def textsSchema : Value :=
  .map [(.text "type", .text "array"), (.text "items", referenceTo (componentPointer "Text"))]

/-- A schema of a single text that has itself as a property. -/
def loopSchema : Value :=
  .map [(.text "type", .text "object"), (.text "enum", .list [.text "x"]),
    (.text "properties", .map [(.text "a", referenceTo (componentPointer "Loop"))])]

/-- A document with these schemas and a reference to the latter. -/
def componentDocument : Value :=
  .map [(.text "components", .map [(.text "schemas", .map
    [(.text "Text", .map [(.text "type", .text "string")]), (.text "Texts", textsSchema),
      (.text "Loop", loopSchema), (.text "Alias", referenceTo (componentPointer "Loop"))])])]

/-- Content of a schema. -/
def contentOf (schema : Value) : Value :=
  .map [(.text "content", .map [(.text "application/json", .map [(.text "schema", schema)])])]

/-- An operation whose response has a payload. -/
def listTexts (payload : Value) : Operation :=
  ⟨"/texts", "get", [(.text "responses", .map [(.text "default", contentOf (.map [(.text "allOf",
    .list [.map [], .map [(.text "properties", .map [(.text "data", payload)])]])]))])]⟩

/-- An operation whose body has a schema. -/
def addText (schema : Value) : Operation := ⟨"/texts", "post", [(.text "requestBody", contentOf schema)]⟩

/-- The steps to the payload of a response. -/
def stepsToPayload : List Step := .key "responses" :: .key responseKey :: (schemaSteps ++ payloadSteps)

/-- The payload of a response may be given by a reference to it. -/
theorem build_refer_payload : Operation.TakesReference stepsToPayload textsSchema ∧
    (listTexts textsSchema).part? stepsToPayload = some textsSchema ∧
    Pointer.resolve componentDocument (componentPointer "Texts") = .ok textsSchema ∧
    ∃ pair, OperationContext.build ⟨componentDocument, "", []⟩ (listTexts textsSchema) = .ok pair ∧
      pair.2.responseText = "export type IRes = string[];\n" ∧
      OperationContext.build ⟨componentDocument, "", []⟩
        ((listTexts textsSchema).refer stepsToPayload (componentPointer "Texts")) = .ok pair := by
  have hpart : Operation.TakesReference stepsToPayload textsSchema := .response List.prefix_rfl fun _ => rfl
  have hresolve : Pointer.resolve componentDocument (componentPointer "Texts") = .ok textsSchema := rfl
  have hbuild : OperationContext.build ⟨componentDocument, "", []⟩ (listTexts textsSchema) = .ok _ := rfl
  refine ⟨hpart, rfl, hresolve, _, hbuild, rfl, ?_⟩
  refine (build_refer hpart rfl hresolve hbuild).mpr ?_
  rintro ⟨hsteps, -⟩
  exact absurd hsteps (by decide)

/-- The steps to the schema of a body. -/
def stepsToBodySchema : List Step := .key "requestBody" :: schemaSteps

/-- **A reference to a reference to a guarded interface.** The schema of a body is a reference, and there is
another reference to it. With the first the operation is built, and with the second it is not. -/
theorem build_refer_loop :
    Operation.TakesReference stepsToBodySchema (referenceTo (componentPointer "Loop")) ∧
    (addText (referenceTo (componentPointer "Loop"))).part? stepsToBodySchema
      = some (referenceTo (componentPointer "Loop")) ∧
    Pointer.resolve componentDocument (componentPointer "Alias") = .ok (referenceTo (componentPointer "Loop")) ∧
    (∃ pair, OperationContext.build ⟨componentDocument, "", []⟩
      (addText (referenceTo (componentPointer "Loop"))) = .ok pair) ∧
    OperationContext.build ⟨componentDocument, "", []⟩
      ((addText (referenceTo (componentPointer "Loop"))).refer stepsToBodySchema (componentPointer "Alias"))
      = .error (.cyclic [componentPointer "Loop", componentPointer "Loop"]) :=
  ⟨.body List.prefix_rfl fun _ => rfl, rfl, rfl, ⟨_, rfl⟩, rfl⟩

end OperationContext

end ServiceBindings
