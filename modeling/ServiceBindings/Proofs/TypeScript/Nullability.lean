import ServiceBindings.Proofs.Schema.Retention
import ServiceBindings.Proofs.TypeScript.Alternatives
import ServiceBindings.Proofs.TypeScript.Rooted

/-! # Null in a list of types

A schema can give null beside other types, in a list under `type` (`Schema.ListsNull`). The list is read where
the schema is a leaf, and only there: an array and an object keep it as an annotation that the printer does not
look at.

**So null is kept by leaves, and by schemas that are declared to be nullable as well**
(`Printer.acceptsNull_iff`). An array of alternatives that stand without parentheses can accept null by
mistake. -/

namespace ServiceBindings

namespace Schema

/-- A mapping without reference, constant, enumeration and composition whose type is a list of texts with the
null type in it. -/
structure ListsNull (entries : List (Scalar × Value)) : Prop where
  /-- There is nothing that goes before the type. -/
  plain : ∀ key ∈ ["$ref", "const", "enum", "allOf", "oneOf", "anyOf"], Value.lookupText key entries = none
  /-- The type is a list of texts, and one of them is the null type. -/
  exists_names : ∃ names : List String, "null" ∈ names ∧
    Value.lookupText "type" entries = some (.list (names.map .text))

/-- A mapping describes neither an array nor an object. -/
structure IsLeaf (entries : List (Scalar × Value)) : Prop where
  /-- There is no key for items. -/
  items : Keyword.items.held entries = none
  /-- There is no mapping of properties. -/
  properties : ∀ declared, Keyword.properties.held entries ≠ some (.map declared)
  /-- There is no key for undeclared properties. -/
  additional : Keyword.additional.held entries = none

variable {entries : List (Scalar × Value)}

/-- Properties are read if there is a mapping of them. -/
theorem isSome_properties_keywords_iff : (keywords entries).properties.join.isSome ↔
    ∃ declared, Keyword.properties.held entries = some (.map declared) := by
  rw [keywords_eq]
  dsimp only
  cases Keyword.properties.held entries with
  | none => simp
  | some v => cases v <;> simp [propertiesOf?]

/-- Without items a mapping is a leaf unless it says something about properties. -/
theorem isLeaf_iff (hitems : Keyword.items.held entries = none) : IsLeaf entries ↔
    ¬ ((keywords entries).properties.join.isSome ∨ (keywords entries).additional.isSome) := by
  have hadditional : (keywords entries).additional.isSome ↔ (Keyword.additional.held entries).isSome := by
    rw [keywords_eq]
    dsimp only
    rw [Option.isSome_map]
  rw [isSome_properties_keywords_iff, hadditional]
  constructor
  · rintro hleaf (⟨declared, hdeclared⟩ | hsome)
    · exact hleaf.properties declared hdeclared
    · rw [hleaf.additional] at hsome
      cases hsome
  · intro h
    rw [not_or, not_exists, Option.not_isSome_iff_eq_none] at h
    exact ⟨hitems, h.1, h.2⟩

/-- The names of types in a list of texts. -/
theorem typeNames_texts (names : List String) :
    Keywords.typeNames (some (.list (names.map .text))) = names := by
  rw [Keywords.typeNames, List.filterMap_map]
  exact List.filterMap_some

namespace ListsNull

/-- The schema is the plain shape. -/
theorem ofValue_eq_plain (h : ListsNull entries) :
    ofValue (.map entries) = (keywords entries).plain (annotationsOf entries) := by
  have hheld : ∀ word ∈ [Keyword.reference, .allOf, .oneOf, .anyOf], word.held entries = none := by
    intro word hword
    refine h.plain word.key ?_
    simp only [List.mem_cons, List.not_mem_nil, or_false] at hword
    rcases hword with rfl | rfl | rfl | rfl <;> decide
  have hreference : (keywords entries).reference = none := by
    rw [keywords_eq]
    simp [hheld .reference (by decide)]
  have hplain : ¬ (keywords entries).IsComposed := by
    rw [keywords_eq]
    simp [Keywords.IsComposed, hheld .allOf (by decide), hheld .oneOf (by decide), hheld .anyOf (by decide)]
  rw [ofValue_map, Keywords.schema_of_not_isComposed hreference hplain]

/-- The type is neither that of an array nor that of an object by itself. -/
theorem lookupText_type_ne (h : ListsNull entries) (name : String) :
    Value.lookupText "type" (annotationsOf entries) ≠ some (.text name) := by
  obtain ⟨names, -, htype⟩ := h.exists_names
  rw [lookupText_type_annotationsOf, htype]
  nofun

/-- **What the schema is**: a leaf with the names in the list, an array or an object. -/
theorem ofValue_cases (h : ListsNull entries) :
    (IsLeaf entries ∧ ∃ names annotations, "null" ∈ names ∧
      ofValue (.map entries) = .primitive names annotations) ∨
    (∃ v, Keyword.items.held entries = some v ∧
      ofValue (.map entries) = .array (if v.isMap then some (ofValue v) else none) (annotationsOf entries)) ∨
    (¬ IsLeaf entries ∧ Keyword.items.held entries = none ∧ ∃ properties required additional,
      ofValue (.map entries) = .object properties required additional (annotationsOf entries)) := by
  rw [h.ofValue_eq_plain]
  cases hitems : Keyword.items.held entries with
  | some v =>
      have hkeyword : (keywords entries).items = some (if v.isMap then some (ofValue v) else none) := by
        rw [keywords_eq]
        dsimp only
        rw [hitems, Option.map_some]
      exact .inr (.inl ⟨v, rfl, Keywords.plain_of_items hkeyword⟩)
  | none =>
      have hkeyword : (keywords entries).items = none := by
        rw [keywords_eq]
        dsimp only
        rw [hitems, Option.map_none]
      rw [isLeaf_iff hitems]
      by_cases hobject : (keywords entries).properties.join.isSome ∨ (keywords entries).additional.isSome
      · exact .inr (.inr ⟨not_not_intro hobject, rfl, _, _, _,
          Keywords.plain_of_properties hkeyword (h.lookupText_type_ne "array") hobject⟩)
      · obtain ⟨names, hnull, htype⟩ := h.exists_names
        have harray : ¬ (Value.lookupText "type" (annotationsOf entries) = some (.text "array") ∨
            (keywords entries).items.isSome) := by
          simp [h.lookupText_type_ne, hkeyword]
        have hplain : ¬ (Value.lookupText "type" (annotationsOf entries) = some (.text "object") ∨
            (keywords entries).properties.join.isSome ∨ (keywords entries).additional.isSome) := by
          rintro (htype | hshape)
          · exact h.lookupText_type_ne "object" htype
          · exact hobject hshape
        have hleaf : (keywords entries).plain (annotationsOf entries)
            = .primitive names ((annotationsOf entries).filter fun entry => entry.1 ≠ .text "type") := by
          rw [Keywords.plain, if_neg harray, if_neg hplain, lookupText_type_annotationsOf, htype,
            typeNames_texts]
        exact .inl ⟨hobject, names, _, hnull, hleaf⟩

/-- Other annotations are those of the mapping. -/
theorem lookupText_annotations (h : ListsNull entries) {key : String}
    (hkey : Keyword.ofKey? (.text key) = none) (htype : key ≠ "type") :
    Value.lookupText key (ofValue (.map entries)).annotations = Value.lookupText key entries := by
  have hread : Value.lookupText key (annotationsOf entries) = Value.lookupText key entries :=
    lookupText_annotationsOf hkey
  rw [h.ofValue_eq_plain, Keywords.plain]
  split
  · exact hread
  · split
    · exact hread
    -- a leaf loses its type
    · have hkeep : decide (Scalar.text key ≠ .text "type") = true := by simpa using htype
      exact (@lookupText_filter (fun k => decide (k ≠ .text "type")) key hkeep _).trans hread

/-- Nothing fixes the type. -/
theorem fixedType?_annotations (h : ListsNull entries) :
    TypeScript.fixedType? (ofValue (.map entries)).annotations = none := by
  rw [TypeScript.fixedType?, h.lookupText_annotations (by decide) (by decide),
    h.lookupText_annotations (by decide) (by decide), h.plain "const" (by decide), h.plain "enum" (by decide)]

/-- The schema is nullable if the mapping says so. -/
theorem isNullable_annotations_iff (h : ListsNull entries) :
    isNullable (ofValue (.map entries)).annotations = true ↔
      Value.lookupText "nullable" entries = some (.scalar (.flag true)) := by
  rw [isNullable, h.lookupText_annotations (by decide) (by decide), beq_iff_eq]

end ListsNull

end Schema

namespace TypeScript

/-! ## Types of the shapes -/

/-- **A nullable type accepts null**, and another one if the type of the shape does. -/
theorem acceptsNull_nullableType_iff {type : String} (h : read (.code []) type.toList = .code [])
    (annotations : Annotations) :
    AcceptsNull (nullableType annotations type) ↔ Schema.isNullable annotations = true ∨ AcceptsNull type := by
  have hread : ∀ t ∈ [type, "null"], read (.code []) t.toList = .code [] := by
    intro t ht
    rcases List.mem_cons.mp ht with rfl | ht
    · exact h
    · rw [List.mem_singleton.mp ht]
      decide
  have hnull : AcceptsNull "null" := by decide
  rw [nullableType]
  split
  · next hnullable =>
      have hunion := (acceptsNull_union_iff hread).mpr (.inr ⟨"null", by simp, hnull⟩)
      exact iff_of_true hunion (.inl hnullable)
  · next hnullable => simp [hnullable]

/-- A leaf with the null type accepts null. -/
theorem acceptsNull_leafType {types : List String} (h : "null" ∈ types) : AcceptsNull (leafType types) := by
  have hread : ∀ type ∈ types.map primitiveType, read (.code []) type.toList = .code [] := by
    intro type htype
    obtain ⟨name, -, rfl⟩ := List.mem_map.mp htype
    have hweaves : Weaves (fun _ => True) false (primitiveType name).toList := weaves_primitiveType name
    obtain ⟨operator, hwoven⟩ := hweaves
    exact hwoven.read_code []
  have hne : ¬ types.isEmpty = true := by
    rintro hempty
    rw [List.isEmpty_iff.mp hempty] at h
    cases h
  rw [leafType, if_neg hne]
  exact (acceptsNull_union_iff hread).mpr
    (.inr ⟨primitiveType "null", List.mem_map_of_mem h, by decide⟩)

namespace Printer

variable {p : Printer} {annotations : Annotations} {bound : Nat} {chain : List String} {depth : Nat}
  {text : String}

/-- What is written for a schema is woven. -/
theorem weaves_of_expressionWith (hindent : Text.isBlank p.indent = true) {s : Schema}
    (h : p.expressionWith (p.referenceExpression bound chain) depth s = .ok text) :
    Weaves (fun _ => True) false text.toList :=
  weaves_expressionWith_referenceExpression hindent (fun _ _ => trivial) h

/-- A type that nothing fixes is that of the shape, with null if it is nullable. -/
theorem exists_shape_of_annotated (hfixed : fixedType? annotations = none)
    {shape : Unit → Except ReferenceError String} (h : annotated annotations shape = .ok text) :
    ∃ type, shape () = .ok type ∧ text = nullableType annotations type := by
  obtain ⟨type, rfl, hsome | ⟨-, htype⟩⟩ := annotated_eq_ok_iff.mp h
  · rw [hfixed] at hsome
    cases hsome
  · exact ⟨type, htype, rfl⟩

/-- **A leaf with the null type accepts null.** -/
theorem acceptsNull_primitive (hfixed : fixedType? annotations = none) {names : List String}
    (hnull : "null" ∈ names) (h : p.expressionWith (p.referenceExpression bound chain) depth
      (.primitive names annotations) = .ok text) : AcceptsNull text := by
  rw [expressionWith] at h
  obtain ⟨type, htype, rfl⟩ := exists_shape_of_annotated hfixed h
  cases htype
  have hweaves : Weaves (fun _ => True) false (leafType names).toList := weaves_leafType names
  obtain ⟨operator, hwoven⟩ := hweaves
  have hleaf := acceptsNull_leafType hnull
  exact (acceptsNull_nullableType_iff (hwoven.read_code []) annotations).mpr (.inr hleaf)

/-- **An array accepts null if it is nullable**, or by mistake. -/
theorem acceptsNull_array (hindent : Text.isBlank p.indent = true) (hfixed : fixedType? annotations = none)
    {items : Option Schema} (h : p.expressionWith (p.referenceExpression bound chain) depth
      (.array items annotations) = .ok text) :
    AcceptsNull text ↔ Schema.isNullable annotations = true ∨ ∃ c item, items = some c ∧
      p.expressionWith (p.referenceExpression bound chain) depth c = .ok item ∧ LeaksNull item := by
  cases items with
  | none =>
      rw [expressionWith] at h
      obtain ⟨type, htype, rfl⟩ := exists_shape_of_annotated hfixed h
      cases htype
      have hunknown : ¬ AcceptsNull (unknownType ++ "[]") := by decide
      rw [acceptsNull_nullableType_iff (by decide)]
      simp [hunknown]
  | some c =>
      rw [expressionWith] at h
      obtain ⟨type, htype, rfl⟩ := exists_shape_of_annotated hfixed h
      obtain ⟨item, hitem, htype⟩ := bind_eq_ok_iff.mp htype
      cases htype
      have hwoven := weaves_of_expressionWith hindent hitem
      obtain ⟨operator, harray⟩ := weaves_array (weaves_operand hwoven)
      rw [acceptsNull_nullableType_iff (harray.read_code []), acceptsNull_array_iff hwoven]
      simp [hitem]

/-- **An object accepts null if it is nullable.** -/
theorem acceptsNull_object (hindent : Text.isBlank p.indent = true) (hfixed : fixedType? annotations = none)
    {properties : List (String × Schema)} {required : Option (List String)} {additional : Additional Schema}
    (h : p.expressionWith (p.referenceExpression bound chain) depth
      (.object properties required additional annotations) = .ok text) :
    AcceptsNull text ↔ Schema.isNullable annotations = true := by
  rw [expressionWith] at h
  obtain ⟨type, htype, rfl⟩ := exists_shape_of_annotated hfixed h
  suffices hshape : Weaves (fun _ => True) false type.toList ∧ ¬ AcceptsNull type by
    obtain ⟨⟨operator, hwoven⟩, hnull⟩ := hshape
    rw [acceptsNull_nullableType_iff (hwoven.read_code [])]
    simp [hnull]
  split at htype
  -- without properties, what is said about undeclared ones
  · have hclosed : p.Closed (fun _ => True) fun text => Weaves (fun _ => True) false text.toList :=
      closed_weaves hindent
    obtain ⟨value, rfl, hvalue⟩ := hclosed.exists_recordOf htype
      fun c _ text htext => weaves_of_expressionWith hindent htext
    exact ⟨weaves_recordOf hvalue, not_acceptsNull_recordOf hvalue⟩
  · obtain ⟨lines, hlines, htype⟩ := bind_eq_ok_iff.mp htype
    cases htype
    have hwoven : Woven (fun _ => True) false false
        (p.objectType depth (lines ++ p.indexLines depth additional)).toList :=
      woven_objectType_of_isPropertyLine hindent (fun line hline => isPropertyLine_of_linesWith hlines
        (fun _ c _ => ⟨fun _ _ => trivial, fun _ hc => weaves_of_expressionWith hindent hc⟩) hline) additional
    exact ⟨⟨false, hwoven⟩, not_acceptsNull_of_woven hwoven (toList_objectType p depth _) (by decide)⟩

/-! ## The schema as a whole -/

/-- A schema of which null is one of the types is written as a type that accepts null. -/
inductive KeepsNull (p : Printer) (entries : List (Scalar × Value)) : Prop where
  /-- It is declared to be nullable as well. -/
  | nullable : Value.lookupText "nullable" entries = some (.scalar (.flag true)) → KeepsNull p entries
  /-- It is neither an array nor an object. -/
  | leaf : Schema.IsLeaf entries → KeepsNull p entries
  /-- It is an array, and alternatives of its items are taken for its own. -/
  | leak {v : Value} {item : String} : Keyword.items.held entries = some v → v.isMap = true →
      p.expression (.ofValue v) = .ok item → LeaksNull item → KeepsNull p entries

variable {entries : List (Scalar × Value)}

/-- An array is written on top of the references of its items. -/
theorem expression_array (items : Schema) :
    p.expressionWith (p.referenceExpression (p.referenceCount (.array (some items) annotations)) []) 0 items
      = p.expression items := by
  rw [expression, referenceCount, referenceCount, Schema.references]

/-- **The expression of a schema of which null is one of the types** accepts null if the schema keeps it. -/
theorem acceptsNull_expression_iff (hindent : Text.isBlank p.indent = true) (h : Schema.ListsNull entries)
    (htext : p.expression (.ofValue (.map entries)) = .ok text) : AcceptsNull text ↔ p.KeepsNull entries := by
  have hfixed := h.fixedType?_annotations
  have hnullable := h.isNullable_annotations_iff
  rcases h.ofValue_cases with ⟨hleaf, names, annotations, hnull, heq⟩ | ⟨v, hitems, heq⟩ |
    ⟨hleaf, hitems, properties, required, additional, heq⟩
  · rw [heq] at hfixed htext
    exact iff_of_true (acceptsNull_primitive hfixed hnull htext) (.leaf hleaf)
  · rw [heq] at hfixed hnullable htext
    rw [acceptsNull_array hindent hfixed htext]
    constructor
    · rintro (hflag | ⟨c, item, hc, hitem, hleak⟩)
      · exact .nullable (hnullable.mp hflag)
      · split at hc
        · next hmap =>
            rw [if_pos hmap, Option.some.inj hc, expression_array] at hitem
            exact .leak hitems hmap ((Option.some.inj hc).symm ▸ hitem) hleak
        · cases hc
    · rintro (hflag | hleaf | ⟨hheld, hmap, hitem, hleak⟩)
      · exact .inl (hnullable.mpr hflag)
      · cases hitems.symm.trans hleaf.items
      · cases hitems.symm.trans hheld
        refine .inr ⟨_, _, if_pos hmap, ?_, hleak⟩
        rw [if_pos hmap, expression_array]
        exact hitem
  · rw [heq] at hfixed hnullable htext
    rw [acceptsNull_object hindent hfixed htext]
    constructor
    · exact fun hflag => .nullable (hnullable.mp hflag)
    · rintro (hflag | hyes | ⟨hheld, -, -, -⟩)
      · exact hnullable.mpr hflag
      · exact absurd hyes hleaf
      · cases hitems.symm.trans hheld

/-- A schema of which null is one of the types is declared as its expression. An interface does not accept
null. -/
theorem exists_type_of_declaration (hindent : Text.isBlank p.indent = true) (h : Schema.ListsNull entries)
    {name : String} (htext : p.declaration name (.ofValue (.map entries)) = .ok text) :
    ∃ type, p.expression (.ofValue (.map entries)) = .ok type ∧
      text = declarationText name (.ofValue (.map entries)) type ∧
      (isInterface (.ofValue (.map entries)) = true → ¬ AcceptsNull type) := by
  have hfixed := h.fixedType?_annotations
  have href : ¬ (Schema.ofValue (.map entries)).IsReference := by
    rintro ⟨q, hq⟩
    rcases h.ofValue_cases with ⟨-, _, _, -, heq⟩ | ⟨_, -, heq⟩ | ⟨-, -, _, _, _, heq⟩ <;>
      cases hq.symm.trans heq
  rw [declaration, declareFrom_of_not_isReference href, declareWith_eq,
    expressionWith_declaredPart fun hkind => hkind.2 hfixed] at htext
  obtain ⟨type, htype, htext⟩ := bind_eq_ok_iff.mp htext
  cases htext
  refine ⟨type, htype, rfl, fun hkind hnull => ?_⟩
  -- only an object is declared as an interface, and only one that is not nullable
  obtain ⟨properties, required, additional, annotations, hs, -, hnullable⟩ := isInterface_iff.mp hkind
  rw [hs] at hfixed htype
  have hyes : Schema.isNullable annotations = true := (acceptsNull_object hindent hfixed htype).mp hnull
  rw [hnullable] at hyes
  cases hyes

/-- **A schema of which null is one of the types accepts null if and only if the schema keeps it**: as an
expression, and as a declaration, which is a type alias then. -/
theorem acceptsNull_iff (hindent : Text.isBlank p.indent = true) (h : Schema.ListsNull entries) :
    (∀ text, p.expression (.ofValue (.map entries)) = .ok text →
      (AcceptsNull text ↔ p.KeepsNull entries)) ∧
    ∀ name text, p.declaration name (.ofValue (.map entries)) = .ok text →
      ((∃ type, text = aliasText (leadText (.ofValue (.map entries))) name type ∧ AcceptsNull type) ↔
        p.KeepsNull entries) := by
  refine ⟨fun text htext => acceptsNull_expression_iff hindent h htext, fun name text htext => ?_⟩
  obtain ⟨written, hwritten, rfl, hinterface⟩ := exists_type_of_declaration hindent h htext
  rw [← acceptsNull_expression_iff hindent h hwritten, declarationText]
  split
  · next hkind =>
      refine iff_of_false ?_ (hinterface hkind)
      rintro ⟨type, heq, -⟩
      exact aliasText_ne_interfaceText heq.symm
  · constructor
    · rintro ⟨type, heq, hnull⟩
      exact aliasText_inj.mp heq ▸ hnull
    · exact fun hnull => ⟨written, rfl, hnull⟩

/-- An object or null, with one property. -/
def objectOrNull : List (Scalar × Value) :=
  [(.text "type", .list [.text "object", .text "null"]),
    (.text "properties", .map [(.text "a", .map [(.text "type", .text "string")])])]

/-- Null is one of the types. -/
theorem listsNull_objectOrNull : Schema.ListsNull objectOrNull where
  plain := by decide
  exists_names := ⟨["object", "null"], by decide, rfl⟩

/-- An object or null that is declared to be nullable as well accepts null. -/
theorem acceptsNull_nullable : Schema.ListsNull ((.text "nullable", .scalar (.flag true)) :: objectOrNull) ∧
    ∃ text, expression ⟨none, "  "⟩
        (.ofValue (.map ((.text "nullable", .scalar (.flag true)) :: objectOrNull))) = .ok text ∧
      text = "\x7b\n  a?: string;\n\x7d | null" ∧ AcceptsNull text := by
  have hlists : Schema.ListsNull ((.text "nullable", .scalar (.flag true)) :: objectOrNull) :=
    ⟨by decide, ["object", "null"], by decide, rfl⟩
  refine ⟨hlists, _, rfl, rfl, ?_⟩
  exact ((acceptsNull_iff (p := ⟨none, "  "⟩) rfl hlists).1 _ rfl).mpr (.nullable rfl)

/-- **An object or null is written as the object alone.** -/
theorem acceptsNull_objectOrNull : Schema.ListsNull objectOrNull ∧
    ∃ text written, declaration ⟨none, "  "⟩ "T" (.ofValue (.map objectOrNull)) = .ok text ∧
      expression ⟨none, "  "⟩ (.ofValue (.map objectOrNull)) = .ok written ∧
      text = "export interface T \x7b\n  a?: string;\n\x7d\n" ∧ written = "\x7b\n  a?: string;\n\x7d" ∧
      ¬ AcceptsNull written ∧ ¬ ∃ type, text = aliasText "" "T" type ∧ AcceptsNull type := by
  refine ⟨listsNull_objectOrNull, _, _, rfl, rfl, rfl, rfl, by decide, ?_⟩
  rintro ⟨type, heq, -⟩
  have hinterface : "export interface T \x7b\n  a?: string;\n\x7d\n"
      = interfaceText "" "T" "\x7b\n  a?: string;\n\x7d" := rfl
  exact aliasText_ne_interfaceText (heq.symm.trans hinterface)

end Printer

end TypeScript

end ServiceBindings
