import ServiceBindings.Module.Services
import ServiceBindings.Text.Line

/-! # The types module

`typesModule` is the text of the module that holds the namespaces of types, one for each operation,
with the declarations of the namespace indented. -/

namespace ServiceBindings

namespace TypeScope

/-- The declarations of a namespace as the lines between its braces; none if there is nothing to
declare. -/
def bodyLines (s : TypeScope) : String :=
  if s.text.isEmpty then "" else Text.indent "  " (Text.strip s.text) ++ "\n"

/-- The text of a namespace. -/
def moduleText (s : TypeScope) : String :=
  Documentation.ofScope s ++ "export namespace " ++ s.name ++ " \x7b\n" ++ s.bodyLines ++
    "\x7d\n\n"

end TypeScope

/-- The text of the types module. -/
def typesModule (templates : Templates) (scopes : List TypeScope) : String :=
  (templates .typesHeader).text banner ++
    (templates .typesItems).text (.join (scopes.map (·.moduleText)))

/-- The text of each namespace stands in the types module. -/
theorem exists_typesModule_eq {scopes : List TypeScope} {types : TypeScope} (h : types ∈ scopes) :
    ∃ before after, typesModule .standard scopes = before ++ types.moduleText ++ after := by
  obtain ⟨front, rest, rfl⟩ := List.append_of_mem h
  refine ⟨banner ++ .join (front.map (·.moduleText)), .join (rest.map (·.moduleText)), ?_⟩
  apply String.toList_injective
  simp [typesModule, Templates.standard, List.append_assoc]

end ServiceBindings
