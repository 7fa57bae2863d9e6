import ServiceBindings.Proofs.Operation.Assembly
import ServiceBindings.Proofs.TypeScript.Essence

/-! # Operations in documents with roots that are equal up to order

The parameters, the body and the response of an operation are found by following references into the
document. Where the roots of two documents are equal up to the order of their entries, they are found in the
same order or equal up to order, and the same is written of them: **an operation is built alike in both
documents** (`OperationContext.build_congr`). -/

namespace ServiceBindings

open Value (Reordered RootReordered)

namespace Step

/-- One step leads to the same from values that are equal up to order. -/
theorem target?_eq (step : Step) {v w : Value} (h : Reordered v w) : step.target? v = step.target? w := by
  cases step with
  | key name => exact h.get?_eq name
  | index position =>
      cases h with
      | refl => rfl
      | map => rfl

end Step

namespace Value

variable {document document' v w : Value}

/-- **Steps lead to values that are equal up to order**, or fail alike. -/
theorem RootReordered.dig (h : RootReordered document document') (steps : List Step)
    (hvalue : Reordered v w) :
    SameOutcome (Option.Rel Reordered) (Value.dig document steps v) (Value.dig document' steps w) := by
  induction steps generalizing v w with
  | nil => exact .ok (.some hvalue)
  | cons step rest ih =>
      rw [Value.dig, Value.dig]
      have hfollow := h.follow hvalue
      generalize document.follow v = found at hfollow ⊢
      generalize document'.follow w = found' at hfollow ⊢
      cases hfollow with
      | error e => exact .error e
      | @ok target target' htarget =>
          dsimp only
          rw [step.target?_eq htarget]
          cases step.target? target' with
          | none => exact .ok .none
          | some next => exact ih (.refl next)

/-- One reference leads to values that are equal up to order, or fails alike. -/
theorem RootReordered.behind (h : RootReordered document document') (hvalue : Reordered v w) :
    SameOutcome Reordered (document.behind v) (document'.behind w) := by
  rw [Value.behind, Value.behind, hvalue.reference?_eq]
  split
  · exact h.resolve _
  · exact .ok hvalue

end Value

namespace OperationContext

/-! ## Parameters -/

/-- The entries of two parameters come in another order. -/
abbrev ParameterReordered (parameter parameter' : List (Scalar × Value)) : Prop :=
  Reordered (.map parameter) (.map parameter')

section Parameter

variable {parameter parameter' : List (Scalar × Value)}

/-- A parameter says the same under each key. -/
theorem lookupText_eq_of_parameterReordered (h : ParameterReordered parameter parameter') (key : String) :
    Value.lookupText key parameter = Value.lookupText key parameter' := h.get?_eq key

/-- A parameter declares the same schema. -/
theorem parameterSchema_eq (h : ParameterReordered parameter parameter') :
    parameterSchema parameter = parameterSchema parameter' := by
  simp only [parameterSchema, lookupText_eq_of_parameterReordered h]

/-- A parameter has the same name in the query. -/
theorem queryName?_eq (h : ParameterReordered parameter parameter') :
    queryName? parameter = queryName? parameter' := by
  simp only [queryName?, lookupText_eq_of_parameterReordered h]

end Parameter

section Parameters

variable {parameters parameters' : List (List (Scalar × Value))}

/-- What is read of every parameter is read alike from related ones. -/
theorem filterMap_eq_of_forall₂ {α β γ : Type} {R : α → β → Prop} {f : α → Option γ} {g : β → Option γ}
    (hfg : ∀ a b, R a b → f a = g b) {l : List α} {m : List β} (h : List.Forall₂ R l m) :
    l.filterMap f = m.filterMap g := by
  induction h with
  | nil => rfl
  | cons hR _ ih => rw [List.filterMap_cons, List.filterMap_cons, hfg _ _ hR, ih]

/-- The parameters of the query become the same properties. -/
theorem queryProperties_eq (h : List.Forall₂ ParameterReordered parameters parameters') :
    queryProperties parameters = queryProperties parameters' := by
  rw [queryProperties, queryProperties]
  refine congrArg _ (filterMap_eq_of_forall₂ (fun parameter parameter' hR => ?_) h)
  rw [queryName?_eq hR, parameterSchema_eq hR]

/-- The same parameters are required. -/
theorem requiredNames_eq (h : List.Forall₂ ParameterReordered parameters parameters') :
    requiredNames parameters = requiredNames parameters' := by
  refine filterMap_eq_of_forall₂ (fun parameter parameter' hR => ?_) h
  rw [queryName?_eq hR, lookupText_eq_of_parameterReordered hR]

end Parameters

/-! ## The parts of an operation -/

variable {document document' : Value} {base : String} {blobPaths : List String}

/-- The parameters are the same up to the order of their entries, or are not found alike. -/
theorem sameOutcome_parameters (h : RootReordered document document') (entries : List (Scalar × Value)) :
    SameOutcome (List.Forall₂ ParameterReordered) (parameters ⟨document, base, blobPaths⟩ entries)
      (parameters ⟨document', base, blobPaths⟩ entries) := by
  unfold parameters
  split
  · next items _ =>
      have hfollow : List.Forall₂
          (fun v w => SameOutcome Reordered (document.follow v) (document'.follow w)) items items :=
        List.forall₂_same.mpr fun v _ => h.follow (.refl v)
      refine (SameOutcome.mapM hfollow).bind fun targets targets' htargets => .ok ?_
      -- a target is a mapping on both sides, or on neither and left out
      induction htargets with
      | nil => exact .nil
      | @cons v w _ _ hvalue _ ih =>
          cases hvalue with
          | refl =>
              cases v with
              | map => exact .cons (.refl _) ih
              | _ => exact ih
          | map hperm hnodup => exact .cons (.map hperm hnodup) ih
  · exact .ok .nil

variable {parameters parameters' : List (List (Scalar × Value))}

/-- The type of the parameters is the same. -/
theorem paramsType_eq (h : RootReordered document document') (scope : String) (hasId : Bool)
    (hparameters : List.Forall₂ ParameterReordered parameters parameters') :
    paramsType ⟨document, base, blobPaths⟩ scope hasId parameters
      = paramsType ⟨document', base, blobPaths⟩ scope hasId parameters' := by
  cases hparameters with
  | nil => rfl
  | cons hfirst _ =>
      rw [paramsType, paramsType]
      split
      · rw [lookupText_eq_of_parameterReordered hfirst]
        refine (h.follow (.refl _)).bind_eq fun schema schema' hschema => ?_
        rw [hschema.get?_eq]
      · rfl

/-- The declaration of the parameters is the same. -/
theorem paramsText_eq (h : RootReordered document document')
    (hparameters : List.Forall₂ ParameterReordered parameters parameters') :
    paramsText ⟨document, base, blobPaths⟩ parameters
      = paramsText ⟨document', base, blobPaths⟩ parameters' := by
  rw [paramsText, paramsText, queryProperties_eq hparameters, requiredNames_eq hparameters]
  split
  · rfl
  · exact TypeScript.Printer.declaration_congr h rfl _

variable {found found' : Option Value}

/-- The declaration of what is found in a body is the same. -/
theorem declareBody_eq (h : RootReordered document document') (hfound : Option.Rel Reordered found found') :
    declareBody ⟨document, base, blobPaths⟩ found = declareBody ⟨document', base, blobPaths⟩ found' := by
  have hschema : ∀ schema schema' : List (Scalar × Value), Reordered (.map schema) (.map schema') →
      declareBody ⟨document, base, blobPaths⟩ (some (.map schema))
        = declareBody ⟨document', base, blobPaths⟩ (some (.map schema')) := fun schema schema' hschema =>
    (h.behind hschema).bind_eq fun _ _ hvalue =>
      TypeScript.Printer.declaration_congr h (Schema.essence_ofValue hvalue) _
  cases hfound with
  | none => rfl
  | @some v w hvalue =>
      cases hvalue with
      | refl =>
          cases v with
          | map schema => exact hschema _ _ (.refl _)
          | _ => rfl
      | map hperm hnodup => exact hschema _ _ (.map hperm hnodup)

/-- The declaration of what is found in a response is the same. -/
theorem declarePayload_eq (h : RootReordered document document')
    (hfound : Option.Rel Reordered found found') :
    declarePayload ⟨document, base, blobPaths⟩ found
      = declarePayload ⟨document', base, blobPaths⟩ found' := by
  have hpayload : ∀ payload payload' : List (Scalar × Value),
      Reordered (.map payload) (.map payload') →
      declarePayload ⟨document, base, blobPaths⟩ (some (.map payload))
        = declarePayload ⟨document', base, blobPaths⟩ (some (.map payload')) := by
    intro payload payload' hpayload
    refine (Schema.sameOutcome_expand h (Schema.essence_ofValue hpayload)).bind_eq fun s t hessence => ?_
    refine TypeScript.Printer.declaration_congr h ?_ _
    rw [Schema.essence_completeRequired, Schema.essence_completeRequired, hessence]
  cases hfound with
  | none => rfl
  | @some v w hvalue =>
      cases hvalue with
      | refl =>
          cases v with
          | map payload => exact hpayload _ _ (.refl _)
          | _ => rfl
      | map hperm hnodup => exact hpayload _ _ (.map hperm hnodup)

/-- The declaration of a body is the same. -/
theorem bodyText_eq (h : RootReordered document document') (body : Value) :
    bodyText ⟨document, base, blobPaths⟩ body = bodyText ⟨document', base, blobPaths⟩ body := by
  rw [bodyText_eq_bind, bodyText_eq_bind]
  refine (h.follow (.refl body)).bind_eq fun target target' htarget => ?_
  exact (h.dig schemaSteps htarget).bind_eq fun found found' hfound => declareBody_eq h hfound

/-- The declaration of a response is the same. -/
theorem responseText_eq (h : RootReordered document document') (response : Value) :
    responseText ⟨document, base, blobPaths⟩ response
      = responseText ⟨document', base, blobPaths⟩ response := by
  rw [responseText_eq_bind, responseText_eq_bind]
  exact (h.dig _ (.refl response)).bind_eq fun found found' hfound => declarePayload_eq h hfound

/-- **An operation is built alike** in documents with roots that are equal up to order. -/
theorem build_congr (h : RootReordered document document') (operation : Operation) :
    build ⟨document, base, blobPaths⟩ operation = build ⟨document', base, blobPaths⟩ operation := by
  refine SameFrame.build_eq ⟨rfl, rfl, rfl, rfl, rfl, rfl, rfl, rfl⟩ ?params ?body ?response
  case params =>
    refine (sameOutcome_parameters h operation.entries).bind_eq fun parameters parameters' hparameters => ?_
    have hempty : parameters.isEmpty = parameters'.isEmpty := by
      cases hparameters <;> rfl
    rw [paramsType_eq h _ _ hparameters, paramsText_eq h hparameters, hempty]
    rfl
  case body =>
    rw [bodyPart, bodyPart]
    exact congrArg _ (funext (bodyText_eq h))
  case response =>
    rw [responsePart, responsePart]
    refine congrArg _ (funext fun response => ?_)
    rw [responseText_eq h response]
    rfl

end OperationContext

end ServiceBindings
