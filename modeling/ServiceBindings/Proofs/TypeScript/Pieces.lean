import ServiceBindings.Proofs.TypeScript.Walk
import ServiceBindings.Proofs.TypeScript.Woven

/-! # The pieces of an expression are woven

Literals, names and operators between types: each of them is a woven text if its parts are, and each JSON
literal is one, whatever number or text it is the literal of (`weaves_literalType`). -/

namespace ServiceBindings

namespace TypeScript

variable {X : String → Prop} {nested : Bool}

/-! ## Neutral characters -/

/-- Whether a character may stand anywhere outside comments and string literals. -/
def isNeutral (c : Char) : Bool := isPlain c && !isOperator c && c != '\n'

/-- Neutral characters are plain. -/
theorem isPlain_of_isNeutral {c : Char} (h : isNeutral c = true) : isPlain c = true := by
  simp only [isNeutral, Bool.and_eq_true] at h
  exact h.1.1

/-- Text of neutral characters is woven without operator. -/
theorem woven_of_isNeutral {cs : List Char} (h : ∀ c ∈ cs, isNeutral c = true) :
    Woven X nested false cs := by
  induction cs with
  | nil => exact .nil
  | cons c cs ih =>
      have hc := h c List.mem_cons_self
      simp only [isNeutral, Bool.and_eq_true, Bool.not_eq_true', bne_iff_ne] at hc
      exact .plain hc.1.1 hc.1.2 (Or.inr hc.2) (ih fun d hd => h d (List.mem_cons_of_mem _ hd))

/-- Text of neutral characters is woven. -/
theorem weaves_of_all_isNeutral {cs : List Char} (h : cs.all isNeutral = true) : Weaves X nested cs :=
  ⟨false, woven_of_isNeutral (List.all_eq_true.mp h)⟩

/-- A class of characters is neutral if neither marks nor brackets, operators and the line feed are in
it. -/
theorem isNeutral_of_all {P : Char → Bool} (hplain : ['/', '"', '\'', '\x7b', '[', '(', '<',
    '\x7d', ']', ')', '>'].all (!P ·) = true) (hop : ['|', '&'].all (!P ·) = true) (hline : P '\n' = false)
    {c : Char} (h : P c = true) : isNeutral c = true := by
  have hne : c ≠ '\n' := by
    rintro rfl
    rw [h] at hline
    cases hline
  simp only [isNeutral, isPlain_of_all hplain h, isOperator_eq_false_of_all hop h,
    Bool.not_false, Bool.true_and, bne_iff_ne]
  exact hne

/-- White space is woven between brackets. -/
theorem weaves_of_isBlank {cs : List Char} (h : ∀ c ∈ cs, isBlank c = true) : Weaves X true cs := by
  induction cs with
  | nil => exact ⟨false, .nil⟩
  | cons c cs ih =>
      have hc := h c List.mem_cons_self
      obtain ⟨operator, hcs⟩ := ih fun d hd => h d (List.mem_cons_of_mem _ hd)
      exact ⟨operator, .plain (isPlain_of_isBlank hc) (isOperator_eq_false_of_all (by decide) hc)
        (Or.inl rfl) hcs⟩

/-- What holds of nothing and of texts one after the other holds of texts with a separator between neighbours. -/
theorem toList_join_of_append {P : List Char → Prop} (hnil : P [])
    (happend : ∀ {cs ds}, P cs → P ds → P (cs ++ ds)) {separator : String} (hseparator : P separator.toList)
    {texts : List String} (h : ∀ text ∈ texts, P text.toList) : P (Text.join separator texts).toList := by
  rw [Text.join, String.toList_intercalate]
  induction texts with
  | nil => exact hnil
  | cons text texts ih =>
      have htext := h text List.mem_cons_self
      have hrest := ih fun text htext => h text (List.mem_cons_of_mem _ htext)
      -- a separator stands in front of every text but the first
      cases texts with
      | nil => simpa using htext
      | cons next texts =>
          rw [List.map_cons, List.map_cons, List.intercalate_cons_cons]
          rw [List.map_cons] at hrest
          exact happend (happend htext hseparator) hrest

/-- A list of texts with woven text between neighbours. -/
theorem weaves_join {separator : String} (hseparator : Weaves X nested separator.toList)
    {texts : List String} (h : ∀ text ∈ texts, Weaves X nested text.toList) :
    Weaves X nested (Text.join separator texts).toList :=
  toList_join_of_append ⟨false, .nil⟩ Weaves.append hseparator h

/-! ## Literals -/

/-- A JSON string is woven. -/
theorem weaves_quote (text : String) : Weaves X nested (Json.quote text).toList := by
  rw [Json.toList_quote]
  exact ⟨false, .string (quoted_flatMap_escapeChar _) .nil⟩

/-- Whether a character stands in numbers. -/
def isNumeral (c : Char) : Bool := c.isDigit || c ∈ ['.', 'e', '+', '-']

/-- The digits of a number stand in numbers. -/
theorem isNumeral_of_mem_toDigits {n : Nat} {c : Char} (h : c ∈ Nat.toDigits 10 n) :
    isNumeral c = true := by
  rw [isNumeral, Nat.isDigit_of_mem_toDigits (by decide) (by decide) h, Bool.true_or]

/-- A whole number is written in the characters of numbers. -/
theorem isNumeral_of_mem_toString {n : Int} {c : Char} (h : c ∈ (toString n).toList) :
    isNumeral c = true := by
  rw [Int.toString_eq_repr, Int.repr_eq_if] at h
  split at h
  · rw [Nat.toList_repr] at h
    exact isNumeral_of_mem_toDigits h
  · rw [String.toList_append, Nat.toList_repr, List.mem_append] at h
    rcases h with h | h
    · rw [List.mem_singleton.mp h]
      rfl
    · exact isNumeral_of_mem_toDigits h

/-- Zeros stand in numbers. -/
theorem isNumeral_of_mem_zeros {count : Nat} {c : Char} (h : c ∈ List.replicate count '0') :
    isNumeral c = true := by
  rw [List.eq_of_mem_replicate h]
  rfl

/-- Positional notation is written in the characters of numbers. -/
theorem isNumeral_of_mem_plain {digits : List Char} (hdigits : ∀ c ∈ digits, isNumeral c = true)
    (lead : Int) {c : Char} (h : c ∈ NumberNotation.plain digits lead) : isNumeral c = true := by
  unfold NumberNotation.plain at h
  split at h
  · simp only [List.mem_cons, List.mem_append] at h
    rcases h with (rfl | rfl | h) | h
    · rfl
    · rfl
    · exact isNumeral_of_mem_zeros h
    · exact hdigits c h
  · simp only [List.mem_cons, List.mem_append] at h
    rcases h with (h | h) | rfl | h
    · exact hdigits c (List.mem_of_mem_take h)
    · exact isNumeral_of_mem_zeros h
    · rfl
    · split at h
      · rw [List.mem_singleton.mp h]
        rfl
      · exact hdigits c (List.mem_of_mem_drop h)

/-- Exponent notation is written in the characters of numbers. -/
theorem isNumeral_of_mem_scientific {digits : List Char} (hdigits : ∀ c ∈ digits, isNumeral c = true)
    (lead : Int) {c : Char} (h : c ∈ NumberNotation.scientific digits lead) : isNumeral c = true := by
  unfold NumberNotation.scientific at h
  simp only [List.mem_cons, List.mem_append] at h
  rcases h with ((h | h) | rfl | rfl | h) | h
  · exact hdigits c (List.mem_of_mem_take h)
  · split at h
    · cases h
    · rcases List.mem_cons.mp h with rfl | h
      · rfl
      · exact hdigits c (List.mem_of_mem_drop h)
  · rfl
  · split <;> rfl
  · exact isNumeral_of_mem_zeros h
  · exact isNumeral_of_mem_toDigits h

/-- A finite number is written in the characters of numbers. -/
theorem isNumeral_of_mem_layout (format : NumberNotation) (d : Decimal) {c : Char}
    (h : c ∈ format.layout d) : isNumeral c = true := by
  unfold NumberNotation.layout at h
  dsimp only at h
  split at h
  · exact isNumeral_of_mem_plain (fun _ => isNumeral_of_mem_toDigits) _ h
  · exact isNumeral_of_mem_scientific (fun _ => isNumeral_of_mem_toDigits) _ h

/-- Whether a character stands in literals other than strings: in numbers and in names. -/
def isLiteral (c : Char) : Bool := isNumeral c || c.isAlpha

/-- The characters of literals are neutral. -/
theorem isNeutral_of_isLiteral {c : Char} (h : isLiteral c = true) : isNeutral c = true :=
  isNeutral_of_all (by decide) (by decide) (by decide) h

/-- The characters of numbers stand in literals. -/
theorem isLiteral_of_isNumeral {c : Char} (h : isNumeral c = true) : isLiteral c = true := by
  rw [isLiteral, h, Bool.true_or]

/-- A number in JSON texts is written in the characters of literals, its names for what is not finite
included. -/
theorem isLiteral_of_mem_number (x : Float) {c : Char}
    (h : c ∈ (Json.notationOfNumbers.text x).toList) : isLiteral c = true := by
  have hsign : ∀ negative : Bool, ∀ c ∈ (if negative then "-" else "").toList, isLiteral c = true := by
    intro negative
    cases negative <;> exact List.all_eq_true.mp (by decide)
  have hinfinity : ∀ c ∈ Json.notationOfNumbers.infinityName.toList, isLiteral c = true :=
    List.all_eq_true.mp (by decide)
  have hundefined : ∀ c ∈ Json.notationOfNumbers.undefinedName.toList, isLiteral c = true :=
    List.all_eq_true.mp (by decide)
  have hzero : ∀ c ∈ "0.0".toList, isLiteral c = true := List.all_eq_true.mp (by decide)
  unfold NumberNotation.text NumberNotation.textOfBits at h
  dsimp only at h
  split at h
  · split at h
    · rw [String.toList_append, List.mem_append] at h
      exact h.elim (hsign _ c) (hinfinity c)
    · exact hundefined c h
  · split at h
    · rw [String.toList_append, List.mem_append] at h
      exact h.elim (hsign _ c) (hzero c)
    · rw [String.toList_append, String.toList_ofList, List.mem_append] at h
      exact h.elim (hsign _ c) fun h => isLiteral_of_isNumeral (isNumeral_of_mem_layout _ _ h)

/-- The type of one value is written in the characters of literals, or it is a string literal. -/
theorem literalType_cases (v : Value) :
    (∀ c ∈ (literalType v).toList, isLiteral c = true) ∨ ∃ text, literalType v = Json.quote text := by
  have hunknown : ∀ c ∈ unknownType.toList, isLiteral c = true := List.all_eq_true.mp (by decide)
  cases v with
  | scalar s =>
      cases s with
      | null => exact .inl (List.all_eq_true.mp (by decide))
      | flag b => cases b <;> exact .inl (List.all_eq_true.mp (by decide))
      | int n => exact .inl fun c hc => isLiteral_of_isNumeral (isNumeral_of_mem_toString hc)
      | float x => exact .inl fun c hc => isLiteral_of_mem_number x hc
      | text t => exact .inr ⟨t, rfl⟩
      | date => exact .inl hunknown
      | timestamp => exact .inl hunknown
      | bytes => exact .inl hunknown
  | list => exact .inl hunknown
  | map => exact .inl hunknown
  | set => exact .inl hunknown

/-- The type of one value is woven. -/
theorem weaves_literalType (v : Value) : Weaves X nested (literalType v).toList := by
  rcases literalType_cases v with hliteral | ⟨text, htext⟩
  · exact ⟨false, woven_of_isNeutral fun c hc => isNeutral_of_isLiteral (hliteral c hc)⟩
  · rw [htext]
    exact weaves_quote text

/-- A primitive type is one of those with a name, or the unknown one. -/
theorem primitiveType_cases (name : String) : primitiveType name = unknownType ∨
    ∃ entry ∈ primitiveTypes, primitiveType name = entry.2 := by
  rw [primitiveType]
  cases hlookup : primitiveTypes.lookup name with
  | none => exact Or.inl rfl
  | some type =>
      obtain ⟨before, after, heq, -⟩ := List.lookup_eq_some_iff.mp hlookup
      refine Or.inr ⟨(name, type), ?_, rfl⟩
      rw [heq]
      exact List.mem_append_right _ List.mem_cons_self

/-- A primitive type is woven. -/
theorem weaves_primitiveType (name : String) : Weaves X nested (primitiveType name).toList := by
  have hall : ∀ entry ∈ primitiveTypes, entry.2.toList.all isNeutral = true := by decide
  rcases primitiveType_cases name with heq | ⟨entry, hmem, heq⟩
  · rw [heq]
    exact weaves_of_all_isNeutral (by decide)
  · rw [heq]
    exact weaves_of_all_isNeutral (hall entry hmem)

/-- Each character of an identifier can continue one. -/
theorem isIdentifierPart_of_mem {cs : List Char} (h : isIdentifier cs = true) {c : Char} (hc : c ∈ cs) :
    isIdentifierPart c = true := by
  cases cs with
  | nil => cases h
  | cons d cs =>
      rw [isIdentifier, Bool.and_eq_true] at h
      rcases List.mem_cons.mp hc with rfl | hc
      · rw [isIdentifierPart, h.1, Bool.true_or]
      · exact List.all_eq_true.mp h.2 c hc

/-- An identifier is woven. -/
theorem weaves_of_isIdentifier {cs : List Char} (h : isIdentifier cs = true) : Weaves X nested cs :=
  ⟨false, woven_of_isNeutral fun _ hc =>
    isNeutral_of_all (by decide) (by decide) (by decide) (isIdentifierPart_of_mem h hc)⟩

/-- A property name is woven between brackets: a bare one may end with a line feed. -/
theorem weaves_propertyKey (name : String) : Weaves X true (propertyKey name).toList := by
  rw [propertyKey]
  split
  · next hbare =>
      rcases isBareKey_iff_append.mp hbare with hname | ⟨identifier, hidentifier, hname⟩
      · exact weaves_of_isIdentifier hname
      -- the line feed at the very end, which is not looked at
      · rw [hname]
        exact (weaves_of_isIdentifier hidentifier).append (weaves_of_isBlank (List.all_eq_true.mp (by decide)))
  · exact weaves_quote name

/-! ## Types -/

/-- A union of woven types is woven. -/
theorem weaves_union {types : List String} (h : ∀ type ∈ types, Weaves X nested type.toList) :
    Weaves X nested (union types).toList := by
  have hspace : Woven X nested false [' '] := woven_of_isNeutral (List.all_eq_true.mp (by decide))
  have hseparator : Weaves X nested " | ".toList := ⟨true, hspace.append (.operator (by decide) hspace)⟩
  rw [union]
  split
  · exact weaves_of_all_isNeutral (by decide)
  · refine weaves_join hseparator fun type htype => h type ?_
    exact List.mem_eraseDups.mp htype

/-- An operand is woven if the type is. -/
theorem weaves_operand {type : String} (h : Weaves X nested type.toList) :
    Weaves X nested (operand type).toList := by
  rw [operand]
  split
  · have heq : ("(" ++ type ++ ")").toList = '(' :: type.toList ++ [closing '('] := by
      simp [String.toList_append, closing]
    rw [heq]
    exact .bracket (by decide) h.nest
  · exact h

/-- An intersection of woven types is woven. -/
theorem weaves_intersection {types : List String} (h : ∀ type ∈ types, Weaves X nested type.toList) :
    Weaves X nested (intersection types).toList := by
  have hdistinct : ∀ type ∈ distinct types, Weaves X nested type.toList := fun type htype =>
    h type (List.mem_eraseDups.mp htype)
  have hspace : Woven X nested false [' '] := woven_of_isNeutral (List.all_eq_true.mp (by decide))
  have hseparator : Weaves X nested " & ".toList := ⟨true, hspace.append (.operator (by decide) hspace)⟩
  rw [intersection]
  split
  · exact weaves_of_all_isNeutral (by decide)
  · next type heq => exact hdistinct type (by rw [heq]; exact List.mem_cons_self)
  · refine weaves_join hseparator fun text htext => ?_
    obtain ⟨type, htype, rfl⟩ := List.mem_map.mp htext
    exact weaves_operand (hdistinct type htype)

/-- An object without declared properties is woven, and no operator stands outside its brackets. -/
theorem woven_recordOf {type : String} (h : Weaves X nested type.toList) :
    Woven X nested false (recordOf type).toList := by
  have heq : (recordOf type).toList
      = "Record".toList ++ ('<' :: ("string, ".toList ++ type.toList) ++ [closing '<']) := by
    simp [recordOf, String.toList_append, closing]
  rw [heq]
  have hinside : Weaves X true ("string, ".toList ++ type.toList) :=
    (weaves_of_all_isNeutral (by decide)).append h.nest
  exact (woven_of_isNeutral (List.all_eq_true.mp (by decide))).append
    (Weaves.woven_bracket (by decide) hinside)

/-- An object without declared properties is woven. -/
theorem weaves_recordOf {type : String} (h : Weaves X nested type.toList) :
    Weaves X nested (recordOf type).toList := ⟨false, woven_recordOf h⟩

/-- An array of woven items is woven. -/
theorem weaves_array {item : String} (h : Weaves X nested item.toList) :
    Weaves X nested (item ++ "[]").toList := by
  have heq : (item ++ "[]").toList = item.toList ++ ('[' :: [] ++ [closing '[']) := by
    simp [String.toList_append, closing]
  rw [heq]
  exact h.append (.bracket (by decide) .nil)

/-- A leaf is woven. -/
theorem weaves_leafType (types : List String) : Weaves X nested (leafType types).toList := by
  rw [leafType]
  split
  · exact weaves_of_all_isNeutral (by decide)
  · refine weaves_union fun type htype => ?_
    obtain ⟨name, -, rfl⟩ := List.mem_map.mp htype
    exact weaves_primitiveType name

end TypeScript

end ServiceBindings
