import Mathlib.Logic.Relation
import ServiceBindings.Schema.Basic

/-! # Positions in a schema

A schema stands **directly** inside another one as a property, as the schema of undeclared properties,
as the items or as a member (`Schema.Child`), and **anywhere** inside it at the end of a chain of such
steps (`Schema.Within`). Induction over a schema assumes the statement of every direct part
(`Schema.childInduction`), and `Schema.references` lists exactly the references that stand somewhere
inside (`Schema.mem_references_iff`). -/

namespace ServiceBindings

namespace Schema

/-- The first schema stands directly inside the second. -/
inductive Child : Schema → Schema → Prop where
  /-- A declared property. -/
  | property {properties : List (String × Schema)} {required : Option (List String)}
      {additional : Additional Schema} {annotations : Annotations} {name : String} {c : Schema} :
      (name, c) ∈ properties → Child c (.object properties required additional annotations)
  /-- The schema of undeclared properties. -/
  | additional {properties : List (String × Schema)} {required : Option (List String)}
      {annotations : Annotations} {c : Schema} :
      Child c (.object properties required (.typed c) annotations)
  /-- The schema of the items. -/
  | items {annotations : Annotations} {c : Schema} : Child c (.array (some c) annotations)
  /-- A member that must hold. -/
  | allOf {members : List Schema} {annotations : Annotations} {c : Schema} :
      c ∈ members → Child c (.allOf members annotations)
  /-- An alternative. -/
  | union {keyword : Alternation} {members : List Schema} {annotations : Annotations} {c : Schema} :
      c ∈ members → Child c (.union keyword members annotations)

@[simp] theorem child_object_iff {c : Schema} {properties : List (String × Schema)}
    {required : Option (List String)} {additional : Additional Schema} {annotations : Annotations} :
    Child c (.object properties required additional annotations)
      ↔ (∃ name, (name, c) ∈ properties) ∨ additional = .typed c := by
  constructor
  · intro h
    cases h with
    | property h => exact Or.inl ⟨_, h⟩
    | additional => exact Or.inr rfl
  · rintro (⟨name, h⟩ | rfl)
    · exact .property h
    · exact .additional

@[simp] theorem child_array_iff {c : Schema} {items : Option Schema} {annotations : Annotations} :
    Child c (.array items annotations) ↔ items = some c := by
  constructor
  · intro h
    cases h
    rfl
  · rintro rfl
    exact .items

@[simp] theorem child_allOf_iff {c : Schema} {members : List Schema} {annotations : Annotations} :
    Child c (.allOf members annotations) ↔ c ∈ members := by
  constructor
  · intro h
    cases h with
    | allOf h => exact h
  · exact .allOf

@[simp] theorem child_union_iff {c : Schema} {keyword : Alternation} {members : List Schema}
    {annotations : Annotations} : Child c (.union keyword members annotations) ↔ c ∈ members := by
  constructor
  · intro h
    cases h with
    | union h => exact h
  · exact .union

/-- A reference has no parts. -/
theorem not_child_reference {c : Schema} {pointer : String} : ¬ Child c (.reference pointer) := nofun

/-- A leaf has no parts. -/
theorem not_child_primitive {c : Schema} {types : List String} {annotations : Annotations} :
    ¬ Child c (.primitive types annotations) := nofun

/-- The first schema stands somewhere inside the second, or is the second. -/
def Within : Schema → Schema → Prop := Relation.ReflTransGen Child

/-- A reference to `pointer` stands somewhere in a schema. -/
def Mentions (s : Schema) (pointer : String) : Prop := Within (.reference pointer) s

/-- The first schema is the value of a declared property of the second. -/
inductive IsProperty : Schema → Schema → Prop where
  /-- Under some name. -/
  | declared {properties : List (String × Schema)} {required : Option (List String)}
      {additional : Additional Schema} {annotations : Annotations} {name : String} {c : Schema} :
      (name, c) ∈ properties → IsProperty c (.object properties required additional annotations)

/-! ## Induction over the parts -/

/-- A part of an object is smaller than the object. -/
theorem sizeOf_property_lt {properties : List (String × Schema)} {name : String} {c : Schema}
    (h : (name, c) ∈ properties) : sizeOf c < sizeOf properties := by
  have hlt := List.sizeOf_lt_of_mem h
  rw [Prod.mk.sizeOf_spec] at hlt
  omega

/-- A direct part is smaller than the whole. -/
theorem Child.sizeOf_lt {c s : Schema} (h : Child c s) : sizeOf c < sizeOf s := by
  cases h with
  | property h =>
      have hlt := sizeOf_property_lt h
      rw [object.sizeOf_spec]
      omega
  | additional =>
      rw [object.sizeOf_spec, Additional.typed.sizeOf_spec]
      omega
  | items =>
      rw [array.sizeOf_spec, Option.some.sizeOf_spec]
      omega
  | allOf h =>
      have hlt := List.sizeOf_lt_of_mem h
      rw [allOf.sizeOf_spec]
      omega
  | union h =>
      have hlt := List.sizeOf_lt_of_mem h
      rw [union.sizeOf_spec]
      omega

/-- **Induction over the parts.** What holds of a schema whenever it holds of its direct parts holds of
every schema. -/
@[elab_as_elim]
theorem childInduction {motive : Schema → Prop}
    (step : ∀ s, (∀ c, Child c s → motive c) → motive s) (s : Schema) : motive s := by
  -- a part may be an item of a list inside the schema, so the induction is on the size, not on the schema
  induction hn : sizeOf s using Nat.strongRecOn generalizing s with
  | ind n ih =>
      refine step s fun c hc => ih (sizeOf c) ?_ c rfl
      rw [← hn]
      exact hc.sizeOf_lt

/-! ## References -/

/-- The references of properties are those of their schemas. -/
theorem mem_referencesOfProperties {pointer : String} {properties : List (String × Schema)} :
    pointer ∈ referencesOfProperties properties
      ↔ ∃ c, (∃ name, (name, c) ∈ properties) ∧ pointer ∈ references c := by
  induction properties with
  | nil => simp [referencesOfProperties]
  | cons property rest ih =>
      obtain ⟨name, c⟩ := property
      rw [referencesOfProperties, List.mem_append, ih]
      constructor
      · rintro (h | ⟨c', ⟨name', hmem⟩, h⟩)
        · exact ⟨c, ⟨name, List.mem_cons_self⟩, h⟩
        · exact ⟨c', ⟨name', List.mem_cons_of_mem _ hmem⟩, h⟩
      · rintro ⟨c', ⟨name', hmem⟩, h⟩
        rcases List.mem_cons.mp hmem with heq | hmem
        · cases heq
          exact Or.inl h
        · exact Or.inr ⟨c', ⟨name', hmem⟩, h⟩

/-- The references of members are those of each of them. -/
theorem mem_referencesOfMembers {pointer : String} {members : List Schema} :
    pointer ∈ referencesOfMembers members ↔ ∃ c ∈ members, pointer ∈ references c := by
  induction members with
  | nil => simp [referencesOfMembers]
  | cons c rest ih =>
      rw [referencesOfMembers, List.mem_append, ih]
      simp only [List.mem_cons, exists_eq_or_imp]

/-- The references of a schema are the one that it is and those of its direct parts. -/
theorem mem_references_iff_child {pointer : String} {s : Schema} :
    pointer ∈ references s
      ↔ s = .reference pointer ∨ ∃ c, Child c s ∧ pointer ∈ references c := by
  cases s with
  | reference q => simp [references, not_child_reference, eq_comm]
  | primitive => simp [references, not_child_primitive]
  | object properties required additional annotations =>
      rw [references, List.mem_append, mem_referencesOfProperties]
      cases additional with
      | unspecified => simp [referencesOfAdditional]
      | allowed => simp [referencesOfAdditional]
      | typed c =>
          -- the references of undeclared properties are listed before those of the declared ones
          simp only [referencesOfAdditional, child_object_iff, Additional.typed.injEq, reduceCtorEq,
            false_or]
          constructor
          · rintro (h | ⟨c', hc, h⟩)
            · exact ⟨c, Or.inr rfl, h⟩
            · exact ⟨c', Or.inl hc, h⟩
          · rintro ⟨c', hc | rfl, h⟩
            · exact Or.inr ⟨c', hc, h⟩
            · exact Or.inl h
  | array items annotations => cases items <;> simp [references]
  | allOf members annotations => simp [references, mem_referencesOfMembers]
  | union keyword members annotations => simp [references, mem_referencesOfMembers]

/-- A reference stands in a schema if it is the schema or stands in a direct part. -/
theorem mentions_iff_child {pointer : String} {s : Schema} :
    s.Mentions pointer ↔ s = .reference pointer ∨ ∃ c, Child c s ∧ c.Mentions pointer := by
  rw [Mentions, Within, Relation.ReflTransGen.cases_tail_iff]
  exact or_congr Iff.rfl (exists_congr fun c => and_comm)

/-- The schema of a reference mentions its own pointer. -/
theorem mentions_reference (pointer : String) : (reference pointer).Mentions pointer :=
  Relation.ReflTransGen.refl

/-- What a direct part mentions is mentioned by the whole. -/
theorem Child.mentions {c s : Schema} (hc : Child c s) {pointer : String}
    (h : c.Mentions pointer) : s.Mentions pointer :=
  Relation.ReflTransGen.tail h hc

/-- A reference mentions nothing but its own pointer. -/
theorem mentions_reference_iff {pointer q : String} :
    (reference q).Mentions pointer ↔ pointer = q := by
  rw [mentions_iff_child]
  constructor
  · rintro (h | ⟨c, hc, -⟩)
    · exact (reference.inj h).symm
    · cases hc
  · rintro rfl
    exact Or.inl rfl

/-- **The listed references are the mentioned ones.** -/
theorem mem_references_iff {pointer : String} {s : Schema} :
    pointer ∈ s.references ↔ s.Mentions pointer := by
  induction s using childInduction with
  | step s ih =>
      rw [mem_references_iff_child, mentions_iff_child]
      refine or_congr Iff.rfl (exists_congr fun c => and_congr_right fun hc => ih c hc)

/-- A schema without references mentions none. -/
theorem references_eq_nil_iff {s : Schema} : s.references = [] ↔ ∀ pointer, ¬ s.Mentions pointer := by
  rw [List.eq_nil_iff_forall_not_mem]
  exact forall_congr' fun pointer => not_congr mem_references_iff

end Schema

end ServiceBindings
