import ServiceBindings.Json.Literal
import ServiceBindings.TypeScript.Operators

/-! # Literals, primitive types and property keys

* `TypeScript.literalType` is the type of one value: its JSON literal, or the unknown type for a value
  that has none.
* `TypeScript.primitiveType` is the type with a given name in the schema language.
* `TypeScript.propertyKey` writes the name of a property: as it is if it is an identifier, otherwise
  as a string literal. -/

namespace ServiceBindings

namespace TypeScript

/-- The type of exactly one value. -/
def literalType : Value → String
  | .scalar s => (Json.literal? s).getD unknownType
  | .list _ => unknownType
  | .map _ => unknownType
  | .set _ => unknownType

/-- The types with a name in the schema language. -/
def primitiveTypes : List (String × String) :=
  [("string", "string"), ("integer", "number"), ("number", "number"), ("boolean", "boolean"),
    ("null", "null")]

/-- The type with a given name in the schema language. -/
def primitiveType (name : String) : String := (primitiveTypes.lookup name).getD unknownType

/-- The type that a value names, if it is a text. -/
def primitiveTypeOf (v : Value) : String := (v.text?.map primitiveType).getD unknownType

/-- Whether a character can begin an identifier. -/
def isIdentifierStart (c : Char) : Bool := c.isAlpha || c == '_' || c == '$'

/-- Whether a character can continue an identifier. -/
def isIdentifierPart (c : Char) : Bool := isIdentifierStart c || c.isDigit

/-- Whether a text is an identifier made of ASCII letters, digits, underscores and dollar signs. -/
def isIdentifier : List Char → Bool
  | [] => false
  | c :: rest => isIdentifierStart c && rest.all isIdentifierPart

/-- Whether a name is written without quotation marks. A line feed at its very end is not looked
at. -/
def isBareKey (name : List Char) : Bool :=
  isIdentifier name || (name.getLast? == some '\n' && isIdentifier name.dropLast)

/-- A name is written without quotation marks if it is an identifier, or one with a line feed behind it. -/
theorem isBareKey_iff_append {name : List Char} : isBareKey name = true ↔
    isIdentifier name = true ∨ ∃ identifier, isIdentifier identifier = true ∧ name = identifier ++ ['\n'] := by
  rw [isBareKey, Bool.or_eq_true, Bool.and_eq_true, beq_iff_eq]
  refine or_congr_right ⟨?_, ?_⟩
  · rintro ⟨hlast, hfront⟩
    have hne : name ≠ [] := by
      rintro rfl
      cases hlast
    rw [List.getLast?_eq_some_getLast hne, Option.some.injEq] at hlast
    refine ⟨name.dropLast, hfront, ?_⟩
    rw [← hlast, List.dropLast_concat_getLast]
  · rintro ⟨identifier, hidentifier, rfl⟩
    rw [List.getLast?_concat, List.dropLast_concat]
    exact ⟨rfl, hidentifier⟩

/-- A property name as it is written in an object type. -/
def propertyKey (name : String) : String :=
  if isBareKey name.toList then name else Json.quote name

end TypeScript

end ServiceBindings
