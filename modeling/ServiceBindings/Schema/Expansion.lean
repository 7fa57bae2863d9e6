import ServiceBindings.Pointer
import ServiceBindings.Schema.Reading

/-! # Following references

* `Value.follow` follows the references at the root of a value until a value that is none.
* `Schema.expand` replaces **every** reference in a schema by the schema that it leads to, itself
  expanded. A reference that leads back to itself is an error that shows the whole chain.
* `Schema.expandWith` is the walk over the schema, given what a reference is replaced by.

Both keep the **chain** of references that are being followed. A chain holds no reference twice, and
all of its references are written in the document or in the value or schema at the start: their
number, `Value.referenceCount`, bounds the recursion. -/

namespace ServiceBindings

/-- The number of different texts in a list. -/
def distinctCount (texts : List String) : Nat := texts.eraseDups.length

namespace Value

/-- The number of different references in a document and in a list of further ones: no chain of
references without repetition is longer. -/
def referenceCount (document : Value) (further : List String) : Nat :=
  distinctCount (document.referenceTexts ++ further)

/-- Follow the references at the root of a value, on top of a chain of at most `bound` more. -/
def followFrom (document : Value) : Nat → List String → Value → Except ReferenceError Value
  | bound, chain, v =>
      match v.reference? with
      | none => .ok v
      | some pointer =>
          if pointer ∈ chain then .error (.cyclic (chain ++ [pointer]))
          else
            match bound with
            | 0 => .error (.unlisted chain pointer)
            | bound + 1 =>
                match Pointer.resolve document pointer with
                | .ok next => followFrom document bound (chain ++ [pointer]) next
                | .error e => .error e

/-- Follow the references at the root of a value until a value that is none. -/
def follow (document v : Value) : Except ReferenceError Value :=
  followFrom document (document.referenceCount v.referenceTexts) [] v

/-- A value that is no reference is its own end. -/
theorem follow_of_reference?_eq_none {document v : Value} (h : v.reference? = none) :
    document.follow v = .ok v := by
  unfold follow followFrom
  simp [h]

end Value

namespace Schema

/-- The schema at the place that a pointer leads to; references in it are left as they are. -/
def atPointer (document : Value) (pointer : String) : Except ReferenceError Schema :=
  (Pointer.resolve document pointer).map ofValue

/-- The chain of references grows by one: the chain and the schema that the reference leads to.
Without a document there is nothing that it could lead to. -/
def followOnce (document : Option Value) (chain : List String) (pointer : String) :
    Except ReferenceError Schema :=
  if pointer ∈ chain then .error (.cyclic (chain ++ [pointer]))
  else
    match document with
    | none => .error (.noDocument pointer)
    | some d => atPointer d pointer

mutual

/-- Replace the references in a schema, from left to right; of an object, what it says about
undeclared properties goes first. -/
def expandWith (replace : String → Except ReferenceError Schema) :
    Schema → Except ReferenceError Schema
  | .reference pointer => replace pointer
  | .primitive types annotations => .ok (.primitive types annotations)
  | .object properties required additional annotations => do
      let additional ← expandAdditional replace additional
      let properties ← expandProperties replace properties
      return .object properties required additional annotations
  | .array none annotations => .ok (.array none annotations)
  | .array (some items) annotations => do
      let items ← expandWith replace items
      return .array (some items) annotations
  | .allOf members annotations => do
      let members ← expandMembers replace members
      return .allOf members annotations
  | .union keyword members annotations => do
      let members ← expandMembers replace members
      return .union keyword members annotations

/-- Replace the references in what is said about undeclared properties. -/
def expandAdditional (replace : String → Except ReferenceError Schema) :
    Additional Schema → Except ReferenceError (Additional Schema)
  | .unspecified => .ok .unspecified
  | .allowed flag => .ok (.allowed flag)
  | .typed s => do
      let s ← expandWith replace s
      return .typed s

/-- Replace the references in the schemas of properties. -/
def expandProperties (replace : String → Except ReferenceError Schema) :
    List (String × Schema) → Except ReferenceError (List (String × Schema))
  | [] => .ok []
  | (name, s) :: rest => do
      let s ← expandWith replace s
      let rest ← expandProperties replace rest
      return (name, s) :: rest

/-- Replace the references in a list of schemas. -/
def expandMembers (replace : String → Except ReferenceError Schema) :
    List Schema → Except ReferenceError (List Schema)
  | [] => .ok []
  | s :: rest => do
      let s ← expandWith replace s
      let rest ← expandMembers replace rest
      return s :: rest

end

/-- The expanded schema that a reference leads to, on top of a chain of at most `bound` more. -/
def expandReference (document : Value) : Nat → List String → String → Except ReferenceError Schema
  | 0, chain, pointer =>
      if pointer ∈ chain then .error (.cyclic (chain ++ [pointer]))
      else .error (.unlisted chain pointer)
  | bound + 1, chain, pointer =>
      match followOnce (some document) chain pointer with
      | .ok s => expandWith (expandReference document bound (chain ++ [pointer])) s
      | .error e => .error e

/-- Replace every reference in a schema by the expanded schema that it leads to. -/
def expand (document : Value) (s : Schema) : Except ReferenceError Schema :=
  expandWith (expandReference document (document.referenceCount s.references) []) s

mutual

/-- A schema without references stays as it is, whatever references would be replaced by. -/
theorem expandWith_of_references_eq_nil (replace : String → Except ReferenceError Schema) :
    ∀ s : Schema, s.references = [] → expandWith replace s = .ok s
  | .reference _, h => by simp [references] at h
  | .primitive _ _, _ => rfl
  | .object properties _ additional _, h => by
      have h' : referencesOfAdditional additional = [] ∧ referencesOfProperties properties = [] := by
        simpa [references] using h
      simp only [expandWith, expandAdditional_of_nil replace additional h'.1,
        expandProperties_of_nil replace properties h'.2]
      rfl
  | .array none _, _ => rfl
  | .array (some items) _, h => by
      have h' : references items = [] := by simpa [references] using h
      simp only [expandWith, expandWith_of_references_eq_nil replace items h']
      rfl
  | .allOf members _, h => by
      have h' : referencesOfMembers members = [] := by simpa [references] using h
      simp only [expandWith, expandMembers_of_nil replace members h']
      rfl
  | .union _ members _, h => by
      have h' : referencesOfMembers members = [] := by simpa [references] using h
      simp only [expandWith, expandMembers_of_nil replace members h']
      rfl

/-- What is said about undeclared properties stays as it is if it holds no reference. -/
theorem expandAdditional_of_nil (replace : String → Except ReferenceError Schema) :
    ∀ a : Additional Schema, referencesOfAdditional a = [] → expandAdditional replace a = .ok a
  | .unspecified, _ => rfl
  | .allowed _, _ => rfl
  | .typed s, h => by
      have h' : references s = [] := by simpa [referencesOfAdditional] using h
      simp only [expandAdditional, expandWith_of_references_eq_nil replace s h']
      rfl

/-- Properties stay as they are if they hold no reference. -/
theorem expandProperties_of_nil (replace : String → Except ReferenceError Schema) :
    ∀ ps : List (String × Schema), referencesOfProperties ps = [] →
      expandProperties replace ps = .ok ps
  | [], _ => rfl
  | (_, s) :: rest, h => by
      have h' : references s = [] ∧ referencesOfProperties rest = [] := by
        simpa [referencesOfProperties] using h
      simp only [expandProperties, expandWith_of_references_eq_nil replace s h'.1,
        expandProperties_of_nil replace rest h'.2]
      rfl

/-- Members stay as they are if they hold no reference. -/
theorem expandMembers_of_nil (replace : String → Except ReferenceError Schema) :
    ∀ ms : List Schema, referencesOfMembers ms = [] → expandMembers replace ms = .ok ms
  | [], _ => rfl
  | s :: rest, h => by
      have h' : references s = [] ∧ referencesOfMembers rest = [] := by
        simpa [referencesOfMembers] using h
      simp only [expandMembers, expandWith_of_references_eq_nil replace s h'.1,
        expandMembers_of_nil replace rest h'.2]
      rfl

end

end Schema

end ServiceBindings
