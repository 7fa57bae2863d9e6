import ServiceBindings.Schema.Basic

/-! # Reading a schema

`Schema.ofValue` reads the schema that a document value writes. A value that is not a mapping writes
the schema that accepts everything; a mapping is read in two steps:

* `Schema.keywords` collects what the **shape keywords** of the mapping hold, with the subschemas
  already read: `Keywords` is the result;
* `Keywords.schema` chooses the shape from it, with no further recursion. A reference excludes all
  else. `allOf` goes before `oneOf`, `oneOf` before `anyOf`, and a composition before the plain
  shapes. Shape keywords beside a composition form **one more member** (`Keywords.siblings`), so that
  they are not lost.

Every key that is not a shape keyword is an annotation (`Schema.annotationsOf`). -/

namespace ServiceBindings

/-- The keywords that decide the shape of a schema. -/
inductive Keyword where
  /-- A reference to another place. -/
  | reference
  /-- Members that must all hold. -/
  | allOf
  /-- Alternatives of which exactly one holds. -/
  | oneOf
  /-- Alternatives of which at least one holds. -/
  | anyOf
  /-- The items of an array. -/
  | items
  /-- The declared properties of an object. -/
  | properties
  /-- The names of the required properties. -/
  | required
  /-- What is said about properties that are not declared. -/
  | additional
  deriving DecidableEq, Repr

namespace Keyword

/-- The key that a keyword stands under. -/
def key : Keyword → String
  | reference => "$ref"
  | allOf => "allOf"
  | oneOf => "oneOf"
  | anyOf => "anyOf"
  | items => "items"
  | properties => "properties"
  | required => "required"
  | additional => "additionalProperties"

/-- All keywords. -/
def all : List Keyword :=
  [reference, allOf, oneOf, anyOf, items, properties, required, additional]

/-- The keyword that a key is, if it is one. -/
def ofKey? (k : Scalar) : Option Keyword := all.find? fun word => decide (k = .text word.key)

/-- A keyword is found under its own key. -/
@[simp] theorem ofKey?_key (word : Keyword) : ofKey? (.text word.key) = some word := by
  cases word <;> decide

/-- A key is read as a keyword only if it is the key of that keyword. -/
theorem eq_key_of_ofKey? {k : Scalar} {word : Keyword} (h : ofKey? k = some word) :
    k = .text word.key := by
  simpa using List.find?_some h

end Keyword

/-- What the shape keywords of a mapping hold, with the subschemas read. -/
structure Keywords where
  /-- The pointer of the reference that the mapping is. -/
  reference : Option String := none
  /-- The members under `allOf`, if these are a list. -/
  allOf : Option (List Schema) := none
  /-- The alternatives under `oneOf`, if these are a list. -/
  oneOf : Option (List Schema) := none
  /-- The alternatives under `anyOf`, if these are a list. -/
  anyOf : Option (List Schema) := none
  /-- Whether there is a key `items`, and the schema under it if it is a mapping. -/
  items : Option (Option Schema) := none
  /-- Whether there is a key `properties`, and the properties under it if it is a mapping. -/
  properties : Option (Option (List (String × Schema))) := none
  /-- The names under `required`, if it is a list. -/
  required : Option (List String) := none
  /-- What is said about undeclared properties, if there is a key for it. -/
  additional : Option (Additional Schema) := none

namespace Keywords

/-- The names of types that a value writes: a text alone, or the texts of a list. -/
def typeNames : Option Value → List String
  | some (.scalar (.text name)) => [name]
  | some (.list names) => names.filterMap Value.text?
  | _ => []

/-- The schema of a mapping without reference and composition. -/
def plain (k : Keywords) (annotations : Annotations) : Schema :=
  let type := Value.lookupText "type" annotations
  if type = some (.text "array") ∨ k.items.isSome then .array k.items.join annotations
  else if type = some (.text "object") ∨ k.properties.join.isSome ∨ k.additional.isSome then
    .object (k.properties.join.getD []) k.required (k.additional.getD .unspecified) annotations
  else .primitive (typeNames type) (annotations.filter fun entry => entry.1 ≠ .text "type")

/-- The member that the shape keywords beside a composition form, if there are any. -/
def siblings (k : Keywords) : List Schema :=
  if k.properties.isSome ∨ k.additional.isSome ∨ k.items.isSome then [k.plain []] else []

/-- The alternatives of a mapping, with the keyword that they were declared with. -/
def alternatives? (k : Keywords) : Option (Alternation × List Schema) :=
  match k.oneOf with
  | some members => some (.oneOf, members)
  | none => k.anyOf.map fun members => (.anyOf, members)

/-- The schema of a mapping. -/
def schema (k : Keywords) (annotations : Annotations) : Schema :=
  match k.reference with
  | some pointer => .reference pointer
  | none =>
      match k.allOf with
      | some members => .allOf (members ++ k.siblings) annotations
      | none =>
          match k.alternatives? with
          | some (keyword, members) =>
              if k.siblings.isEmpty then .union keyword members annotations
              else .allOf (.union keyword members [] :: k.siblings) annotations
          | none => k.plain annotations

end Keywords

namespace Schema

/-- The entries of a mapping that are not shape keywords. -/
def annotationsOf (entries : List (Scalar × Value)) : Annotations :=
  entries.filter fun entry => (Keyword.ofKey? entry.1).isNone

/-- What a value says about undeclared properties, given the schema that it writes. -/
def additionalOf (v : Value) (s : Schema) : Additional Schema :=
  match v with
  | .scalar (.flag b) => .allowed b
  | .map _ => .typed s
  | _ => .unspecified

/-- The names in a list of required properties. -/
def requiredOf : Value → Option (List String)
  | .list names => some (names.filterMap Value.text?)
  | _ => none

mutual

/-- The schema that a value writes. -/
def ofValue : Value → Schema
  | .map entries => (keywords entries).schema (annotationsOf entries)
  | .scalar _ => anything
  | .list _ => anything
  | .set _ => anything

/-- What the shape keywords among the entries of a mapping hold. -/
def keywords : List (Scalar × Value) → Keywords
  | [] => {}
  | (key, v) :: rest =>
      match Keyword.ofKey? key with
      | none => keywords rest
      | some .reference => { keywords rest with reference := v.text? }
      | some .allOf => { keywords rest with allOf := membersOf? v }
      | some .oneOf => { keywords rest with oneOf := membersOf? v }
      | some .anyOf => { keywords rest with anyOf := membersOf? v }
      | some .items =>
          { keywords rest with items := some (if v.isMap then some (ofValue v) else none) }
      | some .properties => { keywords rest with properties := some (propertiesOf? v) }
      | some .required => { keywords rest with required := requiredOf v }
      | some .additional =>
          { keywords rest with additional := some (additionalOf v (ofValue v)) }

/-- The schemas that the items of a list write. -/
def membersOf? : Value → Option (List Schema)
  | .list items => some (ofValues items)
  | .scalar _ => none
  | .map _ => none
  | .set _ => none

/-- The properties that the entries of a mapping write. Two keys with one name are one property. -/
def propertiesOf? : Value → Option (List (String × Schema))
  | .map entries => some (Entries.ofList (namedSchemas entries))
  | .scalar _ => none
  | .list _ => none
  | .set _ => none

/-- The schemas that the values of a list write. -/
def ofValues : List Value → List Schema
  | [] => []
  | v :: rest => ofValue v :: ofValues rest

/-- The entries of a mapping as names with schemas. -/
def namedSchemas : List (Scalar × Value) → List (String × Schema)
  | [] => []
  | (key, v) :: rest => (key.display, ofValue v) :: namedSchemas rest

end

@[simp] theorem ofValue_scalar (s : Scalar) : ofValue (.scalar s) = anything := rfl

@[simp] theorem ofValue_list (items : List Value) : ofValue (.list items) = anything := rfl

@[simp] theorem ofValue_set (members : List Scalar) : ofValue (.set members) = anything := rfl

theorem ofValue_map (entries : List (Scalar × Value)) :
    ofValue (.map entries) = (keywords entries).schema (annotationsOf entries) := rfl

/-- Reading a list of schemas reads each of its items. -/
@[simp] theorem ofValues_eq_map (items : List Value) : ofValues items = items.map ofValue := by
  induction items with
  | nil => rfl
  | cons v rest ih => simp [ofValues, ih]

/-- Reading named schemas reads the value of each entry. -/
@[simp] theorem namedSchemas_eq_map (entries : List (Scalar × Value)) :
    namedSchemas entries = entries.map fun entry => (entry.1.display, ofValue entry.2) := by
  induction entries with
  | nil => rfl
  | cons entry rest ih => simp [namedSchemas, ih]

end Schema

end ServiceBindings
