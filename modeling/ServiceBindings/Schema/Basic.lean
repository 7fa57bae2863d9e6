import ServiceBindings.Value

/-! # Schemas

A `Schema` is the typed form of a schema mapping: **one constructor for each shape**. Keywords that
do not affect the shape are kept, in order, as *annotations*.

* `Schema.annotations` are these keywords; a reference has none.
* `Schema.references` are the pointers of the references that occur in a schema, from left to right.
* `Additional` is what an object says about properties that it does not declare. -/

namespace ServiceBindings

/-- The keyword that alternatives were declared with. -/
inductive Alternation where
  /-- Exactly one alternative holds. -/
  | oneOf
  /-- At least one alternative holds. -/
  | anyOf
  deriving DecidableEq, Repr, Inhabited

/-- What an object says about properties that it does not declare. -/
inductive Additional (α : Type) where
  /-- Nothing. -/
  | unspecified
  /-- They are allowed or forbidden. -/
  | allowed (flag : Bool)
  /-- They are allowed and have a schema. -/
  | typed (schema : α)
  deriving DecidableEq, Repr, Inhabited

/-- The annotations of a schema, in order. -/
abbrev Annotations := List (Scalar × Value)

/-- A schema. -/
inductive Schema where
  /-- A reference to another place of the document. -/
  | reference (pointer : String)
  /-- A leaf with the names of its types; without any, every value is accepted. -/
  | primitive (types : List String) (annotations : Annotations)
  /-- An object with its declared properties in order, and the list of the required ones if there is
  one. -/
  | object (properties : List (String × Schema)) (required : Option (List String))
      (additional : Additional Schema) (annotations : Annotations)
  /-- An array, with the schema of its items if there is one. -/
  | array (items : Option Schema) (annotations : Annotations)
  /-- Every member holds. -/
  | allOf (members : List Schema) (annotations : Annotations)
  /-- Alternatives. -/
  | union (keyword : Alternation) (members : List Schema) (annotations : Annotations)
  deriving Inhabited

namespace Schema

/-- The schema that accepts every value. -/
abbrev anything : Schema := .primitive [] []

/-- The annotations of a schema. -/
def annotations : Schema → Annotations
  | .reference _ => []
  | .primitive _ annotations => annotations
  | .object _ _ _ annotations => annotations
  | .array _ annotations => annotations
  | .allOf _ annotations => annotations
  | .union _ _ annotations => annotations

mutual

/-- The pointers of the references in a schema, from left to right. -/
def references : Schema → List String
  | .reference pointer => [pointer]
  | .primitive _ _ => []
  | .object properties _ additional _ =>
      referencesOfAdditional additional ++ referencesOfProperties properties
  | .array none _ => []
  | .array (some items) _ => references items
  | .allOf members _ => referencesOfMembers members
  | .union _ members _ => referencesOfMembers members

/-- The pointers in what is said about undeclared properties. -/
def referencesOfAdditional : Additional Schema → List String
  | .unspecified => []
  | .allowed _ => []
  | .typed s => references s

/-- The pointers in the schemas of properties. -/
def referencesOfProperties : List (String × Schema) → List String
  | [] => []
  | (_, s) :: rest => references s ++ referencesOfProperties rest

/-- The pointers in a list of schemas. -/
def referencesOfMembers : List Schema → List String
  | [] => []
  | s :: rest => references s ++ referencesOfMembers rest

end

/-! ## Equality -/

mutual

/-- Whether two schemas are equal, annotations included. -/
def same : Schema → Schema → Bool
  | .reference p, .reference q => decide (p = q)
  | .primitive ts xs, .primitive us ys => decide (ts = us) && decide (xs = ys)
  | .object ps r a xs, .object qs s b ys =>
      sameProperties ps qs && decide (r = s) && sameAdditional a b && decide (xs = ys)
  | .array none xs, .array none ys => decide (xs = ys)
  | .array (some s) xs, .array (some t) ys => same s t && decide (xs = ys)
  | .allOf ms xs, .allOf ns ys => sameMembers ms ns && decide (xs = ys)
  | .union k ms xs, .union l ns ys => decide (k = l) && sameMembers ms ns && decide (xs = ys)
  | _, _ => false

/-- Whether the same is said about undeclared properties. -/
def sameAdditional : Additional Schema → Additional Schema → Bool
  | .unspecified, .unspecified => true
  | .allowed f, .allowed g => decide (f = g)
  | .typed s, .typed t => same s t
  | _, _ => false

/-- Whether two lists of properties are equal. -/
def sameProperties : List (String × Schema) → List (String × Schema) → Bool
  | [], [] => true
  | (n, s) :: ps, (m, t) :: qs => decide (n = m) && same s t && sameProperties ps qs
  | _, _ => false

/-- Whether two lists of schemas are equal. -/
def sameMembers : List Schema → List Schema → Bool
  | [], [] => true
  | s :: ms, t :: ns => same s t && sameMembers ms ns
  | _, _ => false

end

mutual

/-- The comparison decides equality of schemas. -/
theorem same_iff : ∀ s t : Schema, same s t = true ↔ s = t
  | .reference _, t => by cases t <;> simp [same]
  | .primitive _ _, t => by cases t <;> simp [same]
  | .object ps _ a _, t => by
      cases t <;> simp [same, sameProperties_iff ps, sameAdditional_iff a, and_assoc]
  | .array none _, t => by
      cases t with
      | array items _ => cases items <;> simp [same]
      | _ => simp [same]
  | .array (some s) _, t => by
      cases t with
      | array items _ => cases items <;> simp [same, same_iff s]
      | _ => simp [same]
  | .allOf ms _, t => by cases t <;> simp [same, sameMembers_iff ms]
  | .union _ ms _, t => by cases t <;> simp [same, sameMembers_iff ms, and_assoc]

/-- The comparison decides equality of what is said about undeclared properties. -/
theorem sameAdditional_iff : ∀ a b : Additional Schema, sameAdditional a b = true ↔ a = b
  | .unspecified, b => by cases b <;> simp [sameAdditional]
  | .allowed _, b => by cases b <;> simp [sameAdditional]
  | .typed s, b => by cases b <;> simp [sameAdditional, same_iff s]

/-- The comparison decides equality of lists of properties. -/
theorem sameProperties_iff :
    ∀ ps qs : List (String × Schema), sameProperties ps qs = true ↔ ps = qs
  | [], qs => by cases qs <;> simp [sameProperties]
  | _ :: _, [] => by simp [sameProperties]
  | (n, s) :: ps, (m, t) :: qs => by
      simp [sameProperties, same_iff s, sameProperties_iff ps]

/-- The comparison decides equality of lists of schemas. -/
theorem sameMembers_iff : ∀ ms ns : List Schema, sameMembers ms ns = true ↔ ms = ns
  | [], ns => by cases ns <;> simp [sameMembers]
  | _ :: _, [] => by simp [sameMembers]
  | s :: ms, t :: ns => by simp [sameMembers, same_iff s, sameMembers_iff ms]

end

instance : DecidableEq Schema := fun s t => decidable_of_iff _ (same_iff s t)

end Schema

end ServiceBindings
