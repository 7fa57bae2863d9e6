import ServiceBindings.Schema.Basic

/-! # Completing the required properties

Where a schema declares no required properties, `Schema.completeRequired` makes **all** of them
required: an object with properties whose list of required names is absent or empty gets the names of
its properties, and each property is completed in turn. An object that does declare required
properties is left alone, its properties included. Items and members are completed wherever they
stand. -/

namespace ServiceBindings

namespace Schema

/-- Whether a list of required names is absent or empty. -/
def declaresNone : Option (List String) → Bool
  | some (_ :: _) => false
  | _ => true

mutual

/-- Make all properties required wherever a schema declares no required ones. -/
def completeRequired : Schema → Schema
  | .reference pointer => .reference pointer
  | .primitive types annotations => .primitive types annotations
  | .object properties required additional annotations =>
      if declaresNone required && !properties.isEmpty then
        .object (completeProperties properties) (some (properties.map Prod.fst)) additional
          annotations
      else .object properties required additional annotations
  | .array none annotations => .array none annotations
  | .array (some items) annotations => .array (some (completeRequired items)) annotations
  | .allOf members annotations => .allOf (completeMembers members) annotations
  | .union keyword members annotations => .union keyword (completeMembers members) annotations

/-- Complete the schema of each property. -/
def completeProperties : List (String × Schema) → List (String × Schema)
  | [] => []
  | (name, s) :: rest => (name, completeRequired s) :: completeProperties rest

/-- Complete each schema of a list. -/
def completeMembers : List Schema → List Schema
  | [] => []
  | s :: rest => completeRequired s :: completeMembers rest

end

/-- Completing properties completes the schema of each. -/
@[simp] theorem completeProperties_eq_map (properties : List (String × Schema)) :
    completeProperties properties
      = properties.map fun property => (property.1, completeRequired property.2) := by
  induction properties with
  | nil => rfl
  | cons property rest ih => simp [completeProperties, ih]

/-- Completing members completes each of them. -/
@[simp] theorem completeMembers_eq_map (members : List Schema) :
    completeMembers members = members.map completeRequired := by
  induction members with
  | nil => rfl
  | cons s rest ih => simp [completeMembers, ih]

end Schema

end ServiceBindings
