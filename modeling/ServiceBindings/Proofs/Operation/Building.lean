import ServiceBindings.Bindings
import ServiceBindings.Proofs.Schema.Expansion

/-! # What building an operation yields

`OperationContext.build` decides twice about each member of the namespace of an operation: the service
function refers to it if the document **presents** it (`OperationContext.Presents`), and the namespace
declares it if extraction finds something **to declare** (`OperationContext.HasToDeclare`).

If building succeeds, its results are those of the separate extractions (`OperationContext.Built`), and each
text of the namespace is **a declaration or empty, as there is something to declare or not**
(`OperationContext.IsTextIf`). What is declared is always presented
(`OperationContext.HasToDeclare.presents`), but not the other way round. -/

namespace ServiceBindings

/-! ## Lists of computations -/

/-- Computations that all succeed yield their results in the order of the inputs. -/
theorem forall₂_of_mapM_eq_ok {ε α β : Type} {f : α → Except ε β} {inputs : List α} {outputs : List β}
    (h : inputs.mapM f = .ok outputs) : List.Forall₂ (fun a b => f a = .ok b) inputs outputs := by
  induction inputs generalizing outputs with
  | nil =>
      cases h
      exact .nil
  | cons a inputs ih =>
      rw [List.mapM_cons, bind_eq_ok_iff] at h
      obtain ⟨first, hfirst, h⟩ := h
      rw [bind_eq_ok_iff] at h
      obtain ⟨rest, hrest, h⟩ := h
      cases h
      exact .cons hfirst (ih hrest)

/-- A computation that continues alike behind both branches. -/
theorem ite_bind {ε α β : Type} {b : Prop} [Decidable b] {x y : Except ε α} {f : α → Except ε β} :
    (if b then x >>= f else y >>= f) = (if b then x else y) >>= f := by
  split <;> rfl

namespace Entries

variable {κ ν : Type} [BEq κ]

/-- Entries in which a key is set are not empty. -/
theorem insert_ne_nil (key : κ) (value : ν) (entries : List (κ × ν)) : insert key value entries ≠ [] := by
  cases entries with
  | nil => exact List.cons_ne_nil _ _
  | cons entry rest =>
      rw [insert_cons]
      split <;> exact List.cons_ne_nil _ _

/-- The entries of a list are empty only if the list is. -/
theorem ofList_eq_nil_iff {pairs : List (κ × ν)} : ofList pairs = [] ↔ pairs = [] := by
  -- the last pair is set at the end, and what it is set in is not empty then
  rcases List.eq_nil_or_concat pairs with rfl | ⟨front, last, rfl⟩
  · exact ⟨fun _ => rfl, fun _ => rfl⟩
  · have hlast : ofList (front.concat last) = insert last.1 last.2 (ofList front) := by
      rw [List.concat_eq_append]
      exact List.foldl_append
    rw [hlast]
    refine ⟨fun h => absurd h (insert_ne_nil _ _ _), fun h => absurd h ?_⟩
    rw [List.concat_eq_append]
    exact List.append_ne_nil_of_right_ne_nil _ (List.cons_ne_nil _ _)

end Entries

/-! ## Members of a namespace -/

namespace ServiceFunction

/-- The type of a function that may be a member of its namespace. -/
def memberType (f : ServiceFunction) : ScopeMember → String
  | .params => f.paramsType
  | .body => f.bodyType
  | .response => f.responseType

/-- One of the types of a function is a member of its namespace. -/
def RefersTo (f : ServiceFunction) (member : ScopeMember) : Prop :=
  member.qualified f.scope ∈ [f.paramsType, f.bodyType, f.responseType]

instance (f : ServiceFunction) (member : ScopeMember) : Decidable (f.RefersTo member) :=
  inferInstanceAs (Decidable (_ ∈ _))

end ServiceFunction

namespace OperationContext

variable {c : OperationContext} {operation : Operation}

/-- The path of an operation without the base of all paths. -/
def pathOf (c : OperationContext) (operation : Operation) : String :=
  Naming.stripBase c.base operation.path

/-- The name of the namespace of an operation. -/
def scopeOf (c : OperationContext) (operation : Operation) : String :=
  Naming.scopeName operation.method (c.pathOf operation)

/-- A member that the document presents, whatever is inside: any parameter for a path without the
placeholder of the identifier, any body, and any response that is no binary data. -/
def Presents (c : OperationContext) (operation : Operation) : ScopeMember → Prop
  | .params => Naming.hasId (c.pathOf operation) = false ∧
      ∃ parameters, c.parameters operation.entries = .ok parameters ∧ parameters ≠ []
  | .body => (body? operation.entries).isSome
  | .response => c.pathOf operation ∉ c.blobPaths ∧ (response? operation.entries).isSome

/-- Steps lead to a mapping. -/
def LeadsToMapping (document : Value) (steps : List Step) (v : Value) : Prop :=
  ∃ entries, Value.dig document steps v = .ok (some (.map entries))

/-- A member for which there is something to declare: a parameter of the query, a body with a schema for
JSON, and a response with a payload in the envelope. -/
def HasToDeclare (c : OperationContext) (operation : Operation) : ScopeMember → Prop
  | .params => Naming.hasId (c.pathOf operation) = false ∧
      ∃ parameters, c.parameters operation.entries = .ok parameters ∧
        ∃ parameter ∈ parameters, (queryName? parameter).isSome
  | .body => ∃ body target, body? operation.entries = some body ∧ c.document.follow body = .ok target ∧
      LeadsToMapping c.document schemaSteps target
  | .response => c.pathOf operation ∉ c.blobPaths ∧
      ∃ response, response? operation.entries = some response ∧
        LeadsToMapping c.document (schemaSteps ++ payloadSteps) response

/-- There is something to declare only for what the document presents. -/
theorem HasToDeclare.presents {member : ScopeMember} (h : c.HasToDeclare operation member) :
    c.Presents operation member := by
  cases member with
  | params =>
      obtain ⟨hid, parameters, hparameters, parameter, hmem, -⟩ := h
      exact ⟨hid, parameters, hparameters, List.ne_nil_of_mem hmem⟩
  | body =>
      obtain ⟨body, -, hbody, -, -⟩ := h
      exact Option.isSome_of_eq_some hbody
  | response =>
      obtain ⟨hblob, response, hresponse, -⟩ := h
      exact ⟨hblob, Option.isSome_of_eq_some hresponse⟩

/-! ## What building yields -/

/-- A function and a namespace are what an operation is built into: they share the name of the namespace,
and each type and each text is the result of its own extraction. -/
structure Built (c : OperationContext) (operation : Operation) (f : ServiceFunction)
    (scope : TypeScope) : Prop where
  /-- The namespace of the function. -/
  scope_eq : f.scope = c.scopeOf operation
  /-- The name of the namespace. -/
  name_eq : scope.name = c.scopeOf operation
  /-- The parameters, from which their type and their declaration come. -/
  exists_parameters : ∃ parameters, c.parameters operation.entries = .ok parameters ∧
    c.paramsType f.scope (Naming.hasId (c.pathOf operation)) parameters = .ok f.paramsType ∧
    (if Naming.hasId (c.pathOf operation) then .ok "" else c.paramsText parameters)
      = .ok scope.paramsText
  /-- The type of the body. -/
  bodyType_eq : f.bodyType =
    if (body? operation.entries).isSome then ScopeMember.body.qualified f.scope else "undefined"
  /-- The declaration of the body. -/
  bodyText_eq : ((body? operation.entries).elim (.ok "") c.bodyText) = .ok scope.bodyText
  /-- The type of the response. -/
  responseType_eq : f.responseType =
    if c.pathOf operation ∈ c.blobPaths then "Blob"
    else if (response? operation.entries).isSome then ScopeMember.response.qualified f.scope
    else "void"
  /-- The declaration of the response. -/
  responseText_eq : ((response? operation.entries).elim (.ok "") fun response =>
    if c.pathOf operation ∈ c.blobPaths then .ok "" else c.responseText response) = .ok scope.responseText

/-- Building an operation runs the separate extractions. -/
theorem built_of_build {f : ServiceFunction} {scope : TypeScope}
    (h : c.build operation = .ok (f, scope)) : c.Built operation f scope := by
  unfold build at h
  simp only [ite_bind, bind_eq_ok_iff, decide_eq_true_eq] at h
  obtain ⟨parameters, hparameters, paramsType, hparamsType, paramsText, hparamsText, h⟩ := h
  -- the texts of the body and of the response are computed only where these are present
  cases hbody : body? operation.entries <;> cases hresponse : response? operation.entries <;>
    simp only [hbody, hresponse, bind_eq_ok_iff] at h <;>
    obtain ⟨bodyText, hbodyText, responseText, hresponseText, h⟩ := h <;>
    cases h <;>
    exact ⟨rfl, rfl, ⟨parameters, hparameters, hparamsType, hparamsText⟩, by rw [hbody],
      by rw [hbody]; exact hbodyText, by rw [hresponse]; rfl, by rw [hresponse]; exact hresponseText⟩

/-! ## The texts of a namespace -/

/-- A text is a declaration of a member if something to declare was found, and empty if not. -/
def IsTextIf (c : OperationContext) (member : ScopeMember) (found : Prop) (text : String) : Prop :=
  found ∧ (∃ s, c.printer.declaration member.name s = .ok text) ∨ ¬ found ∧ text = ""

/-- What was found can be told in another way. -/
theorem IsTextIf.congr {member : ScopeMember} {found found' : Prop} {text : String}
    (hiff : found ↔ found') (h : c.IsTextIf member found text) : c.IsTextIf member found' text := by
  rw [IsTextIf, ← hiff]
  exact h

/-- The text is empty where nothing was found. -/
theorem isTextIf_empty {member : ScopeMember} {found : Prop} (h : ¬ found) : c.IsTextIf member found "" :=
  Or.inr ⟨h, rfl⟩

/-- The parameters of the query are no properties at all only if there is none. -/
theorem queryProperties_eq_nil_iff {parameters : List (List (Scalar × Value))} :
    queryProperties parameters = [] ↔ ¬ ∃ parameter ∈ parameters, (queryName? parameter).isSome := by
  rw [queryProperties, Entries.ofList_eq_nil_iff, List.filterMap_eq_nil_iff]
  constructor
  · rintro hnone ⟨parameter, hmem, hname⟩
    have hmap := hnone parameter hmem
    rw [Option.map_eq_none_iff] at hmap
    rw [hmap] at hname
    cases hname
  · intro hnone parameter hmem
    rw [Option.map_eq_none_iff]
    exact Option.not_isSome_iff_eq_none.mp fun hname => hnone ⟨parameter, hmem, hname⟩

/-- The text of parameters is a declaration if one of them is part of the query. -/
theorem isTextIf_of_paramsText {parameters : List (List (Scalar × Value))} {text : String}
    (h : c.paramsText parameters = .ok text) :
    c.IsTextIf .params (∃ parameter ∈ parameters, (queryName? parameter).isSome) text := by
  simp only [paramsText, List.isEmpty_iff] at h
  split at h
  case isTrue hempty =>
    cases h
    exact Or.inr ⟨queryProperties_eq_nil_iff.mp hempty, rfl⟩
  case isFalse hempty =>
    exact Or.inl ⟨not_not.mp fun hnone => hempty (queryProperties_eq_nil_iff.mpr hnone), _, h⟩

/-- The text of a body is a declaration if the body holds a schema. -/
theorem isTextIf_of_bodyText {body : Value} {text : String} (h : c.bodyText body = .ok text) :
    ∃ target, c.document.follow body = .ok target ∧
      c.IsTextIf .body (LeadsToMapping c.document schemaSteps target) text := by
  rw [bodyText, bind_eq_ok_iff] at h
  obtain ⟨target, htarget, h⟩ := h
  rw [bind_eq_ok_iff] at h
  obtain ⟨found, hfound, h⟩ := h
  refine ⟨target, htarget, ?_⟩
  split at h
  case h_1 schema =>
    refine Or.inl ⟨⟨schema, hfound⟩, ?_⟩
    split at h
    -- whether the schema is a reference or not, what is found is declared in the end
    all_goals
      rw [bind_eq_ok_iff] at h
      obtain ⟨v, -, h⟩ := h
      exact ⟨_, h⟩
  case h_2 hnone =>
    cases h
    refine Or.inr ⟨?_, rfl⟩
    rintro ⟨schema, hschema⟩
    exact hnone schema (Except.ok.inj (hfound.symm.trans hschema))

/-- The text of a response is a declaration if the response holds a payload. -/
theorem isTextIf_of_responseText {response : Value} {text : String}
    (h : c.responseText response = .ok text) :
    c.IsTextIf .response (LeadsToMapping c.document (schemaSteps ++ payloadSteps) response) text := by
  rw [responseText, bind_eq_ok_iff] at h
  obtain ⟨found, hfound, h⟩ := h
  split at h
  case h_1 payload =>
    rw [bind_eq_ok_iff] at h
    obtain ⟨schema, -, h⟩ := h
    exact Or.inl ⟨⟨payload, hfound⟩, _, h⟩
  case h_2 hnone =>
    cases h
    refine Or.inr ⟨?_, rfl⟩
    rintro ⟨payload, hpayload⟩
    exact hnone payload (Except.ok.inj (hfound.symm.trans hpayload))

namespace Built

variable {f : ServiceFunction} {scope : TypeScope}

/-- The parameters are declared if there is something to declare. -/
theorem isTextIf_params (h : c.Built operation f scope) :
    c.IsTextIf .params (c.HasToDeclare operation .params) scope.paramsText := by
  obtain ⟨parameters, hparameters, -, htext⟩ := h.exists_parameters
  cases hid : Naming.hasId (c.pathOf operation) with
  | true =>
      rw [hid, if_pos rfl] at htext
      rw [← Except.ok.inj htext]
      refine isTextIf_empty ?_
      rintro ⟨hno, -⟩
      rw [hid] at hno
      cases hno
  | false =>
      rw [hid, if_neg Bool.false_ne_true] at htext
      refine (isTextIf_of_paramsText htext).congr
        ⟨fun hquery => ⟨hid, parameters, hparameters, hquery⟩, ?_⟩
      rintro ⟨-, parameters', hparameters', hquery⟩
      rw [Except.ok.inj (hparameters.symm.trans hparameters')]
      exact hquery

/-- The body is declared if there is something to declare. -/
theorem isTextIf_body (h : c.Built operation f scope) :
    c.IsTextIf .body (c.HasToDeclare operation .body) scope.bodyText := by
  have htext := h.bodyText_eq
  cases hbody : body? operation.entries with
  | none =>
      rw [hbody] at htext
      rw [← Except.ok.inj htext]
      refine isTextIf_empty ?_
      rintro ⟨body, -, hsome, -⟩
      rw [hbody] at hsome
      cases hsome
  | some body =>
      rw [hbody] at htext
      obtain ⟨target, htarget, hcases⟩ := isTextIf_of_bodyText htext
      refine hcases.congr ⟨fun hschema => ⟨body, target, hbody, htarget, hschema⟩, ?_⟩
      rintro ⟨body', target', hbody', htarget', hschema⟩
      cases hbody.symm.trans hbody'
      cases htarget.symm.trans htarget'
      exact hschema

/-- The response is declared if there is something to declare. -/
theorem isTextIf_response (h : c.Built operation f scope) :
    c.IsTextIf .response (c.HasToDeclare operation .response) scope.responseText := by
  have htext := h.responseText_eq
  cases hresponse : response? operation.entries with
  | none =>
      rw [hresponse] at htext
      rw [← Except.ok.inj htext]
      refine isTextIf_empty ?_
      rintro ⟨-, response, hsome, -⟩
      rw [hresponse] at hsome
      cases hsome
  | some response =>
      rw [hresponse, Option.elim_some] at htext
      by_cases hblob : c.pathOf operation ∈ c.blobPaths
      · rw [if_pos hblob] at htext
        rw [← Except.ok.inj htext]
        exact isTextIf_empty fun hfound => hfound.1 hblob
      · rw [if_neg hblob] at htext
        refine (isTextIf_of_responseText htext).congr
          ⟨fun hpayload => ⟨hblob, response, hresponse, hpayload⟩, ?_⟩
        rintro ⟨-, response', hresponse', hpayload⟩
        cases hresponse.symm.trans hresponse'
        exact hpayload

end Built

end OperationContext

end ServiceBindings
