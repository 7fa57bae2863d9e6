import ServiceBindings.Proofs.Schema.Expansion
import ServiceBindings.TypeScript.Expression

/-! # The walk that writes a schema

What `Printer.expressionWith` and `Printer.declareWith` do, level by level: if they succeed, the text is
put together from the texts of the parts (`annotated_eq_ok_iff`, `forall₂_of_linesWith_eq_ok`,
`forall₂_of_typesWith_eq_ok`), and **they succeed if all references in the schema can be written**
(`exists_expressionWith_eq_ok`, `exists_declareWith_eq_ok`). -/

namespace ServiceBindings

namespace TypeScript

/-! ## Success, level by level -/

/-- A type with null beside it if the annotations say so. -/
def nullableType (annotations : Annotations) (type : String) : String :=
  if Schema.isNullable annotations then union [type, "null"] else type

/-- A type under annotations is the fixed one or that of the shape, with null if they say so. -/
theorem annotated_eq_ok_iff {annotations : Annotations} {shape : Unit → Except ReferenceError String}
    {text : String} : annotated annotations shape = .ok text ↔
      ∃ type, text = nullableType annotations type ∧
        (fixedType? annotations = some type ∨ fixedType? annotations = none ∧ shape () = .ok type) := by
  unfold annotated
  -- a fixed type takes the place of the shape, which is not looked at then
  cases hfixed : fixedType? annotations with
  | some fixed =>
      constructor
      · intro h
        exact ⟨fixed, (Except.ok.inj h).symm, Or.inl rfl⟩
      · rintro ⟨type, rfl, htype | ⟨hnone, -⟩⟩
        · cases htype
          rfl
        · cases hnone
  | none =>
      rw [bind_eq_ok_iff]
      constructor
      · rintro ⟨type, htype, h⟩
        exact ⟨type, (Except.ok.inj h).symm, Or.inr ⟨rfl, htype⟩⟩
      · rintro ⟨type, rfl, hsome | ⟨-, htype⟩⟩
        · cases hsome
        · exact ⟨type, htype, rfl⟩

/-- Without annotations a type is that of the shape. -/
theorem annotated_nil (shape : Unit → Except ReferenceError String) : annotated [] shape = shape () := by
  have hbind : (shape () >>= fun type => (pure type : Except ReferenceError String)) = shape () :=
    bind_pure (shape ())
  exact hbind

/-! ## The parts of a declaration -/

/-- The description of a schema, as it stands in front of its declaration. -/
def leadText (s : Schema) : String := (s.description?.map fun text => comment text "").getD ""

/-- The declaration of a type alias behind a text. -/
def aliasText (lead name type : String) : String := lead ++ "export type " ++ name ++ " = " ++ type ++ ";\n"

/-- The declaration of an interface behind a text. -/
def interfaceText (lead name type : String) : String :=
  lead ++ "export interface " ++ name ++ " " ++ type ++ "\n"

/-- **An interface is declared for an object** that has properties and is not nullable. -/
theorem Printer.isInterface_iff {s : Schema} : Printer.isInterface s = true ↔
    ∃ properties required additional annotations, s = .object properties required additional annotations ∧
      properties.isEmpty = false ∧ Schema.isNullable annotations = false := by
  constructor
  · intro h
    cases s with
    | object properties required additional annotations =>
        simp only [isInterface, Bool.and_eq_true, Bool.not_eq_true'] at h
        exact ⟨properties, required, additional, annotations, rfl, h⟩
    | _ => cases h
  · rintro ⟨properties, required, additional, annotations, rfl, hproperties, hnullable⟩
    rw [isInterface, hproperties, hnullable]
    rfl

/-- What a declaration writes the type of: of an interface the object alone, without its annotations. -/
def declaredPart : Schema → Schema
  | .object properties required additional annotations =>
      .object properties required additional
        (if Printer.isInterface (.object properties required additional annotations) then [] else annotations)
  | s => s

/-- The declaration of a schema, given the type that is written in it. -/
def declarationText (name : String) (s : Schema) (type : String) : String :=
  if Printer.isInterface s then interfaceText (leadText s) name type else aliasText (leadText s) name type

/-- A declaration holds the references of its schema. -/
@[simp] theorem references_declaredPart (s : Schema) : (declaredPart s).references = s.references := by
  cases s <;> simp [declaredPart, Schema.references]

/-- A declaration mentions what its schema mentions. -/
theorem mentions_declaredPart_iff {s : Schema} {q : String} :
    (declaredPart s).Mentions q ↔ s.Mentions q := by
  rw [← Schema.mem_references_iff, ← Schema.mem_references_iff, references_declaredPart]

/-- A schema that is not declared as an interface is written as it is. -/
theorem declaredPart_of_not_isInterface {s : Schema} (h : Printer.isInterface s = false) : declaredPart s = s := by
  cases s with
  | object => rw [declaredPart, h, if_neg Bool.false_ne_true]
  | _ => rfl

namespace Printer

variable {p : Printer} {onReference : Nat → String → Except ReferenceError String}

/-- A fixed type is written wherever the schema stands, whatever its shape is. -/
theorem expressionWith_eq_of_fixedType? {s : Schema} {type : String}
    (hfixed : fixedType? s.annotations = some type)
    (onReference : Nat → String → Except ReferenceError String) (depth : Nat) :
    p.expressionWith onReference depth s = .ok (nullableType s.annotations type) := by
  have hannotated : ∀ shape, annotated s.annotations shape = .ok (nullableType s.annotations type) :=
    fun _ => annotated_eq_ok_iff.mpr ⟨type, rfl, .inl hfixed⟩
  cases s with
  | reference => cases hfixed
  | primitive => exact hannotated _
  | object => exact hannotated _
  | array items => cases items <;> exact hannotated _
  | allOf => exact hannotated _
  | union => exact hannotated _

/-- The lines of an object, if they can be written, are those of its properties. -/
theorem forall₂_of_linesWith_eq_ok {depth : Nat} {required : List String}
    {properties : List (String × Schema)} {lines : List String}
    (h : p.linesWith onReference depth required properties = .ok lines) :
    List.Forall₂ (fun property line => ∃ type,
      p.expressionWith onReference (depth + 1) property.2 = .ok type ∧
        line = p.member depth required property.1 property.2 type) properties lines := by
  induction properties generalizing lines with
  | nil =>
      cases h
      exact .nil
  | cons property rest ih =>
      obtain ⟨name, c⟩ := property
      rw [linesWith, bind_eq_ok_iff] at h
      obtain ⟨type, htype, h⟩ := h
      rw [bind_eq_ok_iff] at h
      obtain ⟨rest', hrest, h⟩ := h
      cases h
      exact .cons ⟨type, htype, rfl⟩ (ih hrest)

/-- The types of members, if they can be written. -/
theorem forall₂_of_typesWith_eq_ok {depth : Nat} {members : List Schema} {types : List String}
    (h : p.typesWith onReference depth members = .ok types) :
    List.Forall₂ (fun c type => p.expressionWith onReference depth c = .ok type) members types := by
  induction members generalizing types with
  | nil =>
      cases h
      exact .nil
  | cons c rest ih =>
      rw [typesWith, bind_eq_ok_iff] at h
      obtain ⟨type, htype, h⟩ := h
      rw [bind_eq_ok_iff] at h
      obtain ⟨rest', hrest, h⟩ := h
      cases h
      exact .cons htype (ih hrest)

/-! ## When the walk succeeds -/

/-- The lines of properties can be written if every property can. -/
theorem exists_linesWith_eq_ok {properties : List (String × Schema)} (depth : Nat)
    (required : List String) (h : ∀ name c, (name, c) ∈ properties →
      ∃ type, p.expressionWith onReference (depth + 1) c = .ok type) :
    ∃ lines, p.linesWith onReference depth required properties = .ok lines := by
  induction properties with
  | nil => exact ⟨[], rfl⟩
  | cons property rest ih =>
      obtain ⟨name, c⟩ := property
      obtain ⟨type, htype⟩ := h name c List.mem_cons_self
      obtain ⟨lines, hlines⟩ := ih fun name c hmem => h name c (List.mem_cons_of_mem _ hmem)
      exact ⟨_, by rw [linesWith, htype, hlines]; rfl⟩

/-- The types of members can be written if every member can. -/
theorem exists_typesWith_eq_ok {members : List Schema} {depth : Nat}
    (h : ∀ c ∈ members, ∃ type, p.expressionWith onReference depth c = .ok type) :
    ∃ types, p.typesWith onReference depth members = .ok types := by
  induction members with
  | nil => exact ⟨[], rfl⟩
  | cons c rest ih =>
      obtain ⟨type, htype⟩ := h c List.mem_cons_self
      obtain ⟨types, htypes⟩ := ih fun c hmem => h c (List.mem_cons_of_mem _ hmem)
      exact ⟨_, by rw [typesWith, htype, htypes]; rfl⟩

/-- A type under annotations can be written if the shape can. -/
theorem exists_annotated_eq_ok {annotations : Annotations}
    {shape : Unit → Except ReferenceError String} (h : ∃ type, shape () = .ok type) :
    ∃ type, annotated annotations shape = .ok type := by
  obtain ⟨type, htype⟩ := h
  unfold annotated
  cases fixedType? annotations with
  | some fixed => exact ⟨_, rfl⟩
  | none => exact ⟨_, by rw [htype]; rfl⟩

/-- **A schema can be written if all references in it can.** -/
theorem exists_expressionWith_eq_ok (s : Schema)
    (h : ∀ q depth, s.Mentions q → ∃ type, onReference depth q = .ok type) (depth : Nat) :
    ∃ type, p.expressionWith onReference depth s = .ok type := by
  induction s using Schema.childInduction generalizing depth with
  | step s ih =>
      -- the depth grows on the way down, so the hypothesis is needed at every depth
      have hpart : ∀ c, Schema.Child c s → ∀ depth,
          ∃ type, p.expressionWith onReference depth c = .ok type := fun c hc depth =>
        ih c hc (fun q depth hq => h q depth (hc.mentions hq)) depth
      cases s with
      | reference q => exact h q depth (Schema.mentions_reference q)
      | primitive types annotations =>
          rw [expressionWith]
          exact exists_annotated_eq_ok ⟨_, rfl⟩
      | object properties required additional annotations =>
          rw [expressionWith]
          refine exists_annotated_eq_ok ?_
          by_cases hempty : properties.isEmpty
          · rw [if_pos hempty]
            cases additional with
            | unspecified => exact ⟨_, rfl⟩
            | allowed flag => cases flag <;> exact ⟨_, rfl⟩
            | typed c =>
                obtain ⟨type, htype⟩ := hpart c .additional depth
                exact ⟨_, by rw [undeclaredWith, htype]; rfl⟩
          · rw [if_neg hempty]
            obtain ⟨lines, hlines⟩ := exists_linesWith_eq_ok depth (required.getD [])
              fun name c hmem => hpart c (.property hmem) (depth + 1)
            exact ⟨_, by rw [hlines]; rfl⟩
      | array items annotations =>
          cases items with
          | none =>
              rw [expressionWith]
              exact exists_annotated_eq_ok ⟨_, rfl⟩
          | some c =>
              rw [expressionWith]
              obtain ⟨type, htype⟩ := hpart c .items depth
              exact exists_annotated_eq_ok ⟨_, by rw [htype]; rfl⟩
      | allOf members annotations =>
          rw [expressionWith]
          obtain ⟨types, htypes⟩ := exists_typesWith_eq_ok fun c hmem => hpart c (.allOf hmem) depth
          exact exists_annotated_eq_ok ⟨_, by rw [htypes]; rfl⟩
      | union keyword members annotations =>
          rw [expressionWith]
          obtain ⟨types, htypes⟩ := exists_typesWith_eq_ok fun c hmem => hpart c (.union hmem) depth
          exact exists_annotated_eq_ok ⟨_, by rw [htypes]; rfl⟩

/-- A schema that is not declared as an interface is declared as a type alias. -/
theorem declareWith_of_not_isInterface (h : isInterface s = false) (name : String) :
    p.declareWith onReference name s = do
      let type ← p.expressionWith onReference 0 s
      return (s.description?.map fun text => comment text "").getD "" ++ "export type " ++ name ++
        " = " ++ type ++ ";\n" := by
  cases s with
  | object properties required additional annotations =>
      rw [declareWith, if_neg (by rw [h]; exact Bool.false_ne_true)]
  | reference => rfl
  | primitive => rfl
  | array => rfl
  | allOf => rfl
  | union => rfl

/-- **A declaration writes the type of a schema**, of an interface without its annotations. -/
theorem declareWith_eq (name : String) (s : Schema) :
    p.declareWith onReference name s = do
      let type ← p.expressionWith onReference 0 (declaredPart s)
      return declarationText name s type := by
  cases hkind : isInterface s with
  | false =>
      rw [declareWith_of_not_isInterface hkind, declaredPart_of_not_isInterface hkind]
      simp [declarationText, aliasText, leadText, hkind]
  | true =>
      obtain ⟨properties, required, additional, annotations, rfl, hproperties, -⟩ :=
        isInterface_iff.mp hkind
      have hpart : declaredPart (.object properties required additional annotations)
          = .object properties required additional [] := by rw [declaredPart, if_pos hkind]
      rw [hpart, declareWith, if_pos hkind, expressionWith, annotated_nil, hproperties]
      simp [declarationText, interfaceText, leadText, hkind]

/-- The declaration of a schema can be written if all references in it can. -/
theorem exists_declareWith_eq_ok (s : Schema)
    (h : ∀ q depth, s.Mentions q → ∃ type, onReference depth q = .ok type) (name : String) :
    ∃ text, p.declareWith onReference name s = .ok text := by
  obtain ⟨type, htype⟩ := exists_expressionWith_eq_ok (p := p) (declaredPart s)
    (fun q depth hq => h q depth (mentions_declaredPart_iff.mp hq)) 0
  exact ⟨declarationText name s type, by rw [declareWith_eq, htype]; rfl⟩

/-- The declaration of a schema that is no reference begins with the schema. -/
theorem declareFrom_of_not_isReference {p : Printer} {s : Schema} (href : ¬ s.IsReference)
    (name : String) (bound : Nat) (chain : List String) :
    p.declareFrom name bound chain s = p.declareWith (p.referenceExpression bound chain) name s := by
  cases s with
  | reference q => exact absurd ⟨q, rfl⟩ href
  | primitive => rw [declareFrom] <;> nofun
  | object => rw [declareFrom] <;> nofun
  | array => rw [declareFrom] <;> nofun
  | allOf => rw [declareFrom] <;> nofun
  | union => rw [declareFrom] <;> nofun

end Printer

end TypeScript

end ServiceBindings
