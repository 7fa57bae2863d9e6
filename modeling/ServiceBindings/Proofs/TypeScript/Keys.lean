import ServiceBindings.Proofs.Json.Writing
import ServiceBindings.TypeScript.Expression

/-! # What a property key denotes

A key text **denotes** a property name (`Denotes`): an identifier is the name itself, and a string literal is
the text that it reads as. White space behind a key is no part of it, so a member may have a name that its key
text does not denote as a whole (`DeclaresMember`).

**A property key denotes the name that it was written for, unless the name is an identifier with a line feed
behind it** (`StraysFrom`): such a name is taken for an identifier and written as it is, and the member that
it declares is the one without the line feed. So two names give one member only in this way
(`denotes_propertyKey_iff`). -/

namespace ServiceBindings

namespace TypeScript

/-! ## Identifiers -/

/-- A character that an identifier may begin with. -/
def BeginsIdentifier (c : Char) : Prop := 'A' ≤ c ∧ c ≤ 'Z' ∨ 'a' ≤ c ∧ c ≤ 'z' ∨ c = '_' ∨ c = '$'

/-- A name is an identifier: an ASCII letter, an underscore or a dollar sign, and then only these and ASCII
digits. -/
def IsIdentifier (name : String) : Prop :=
  ∃ first rest, name.toList = first :: rest ∧ BeginsIdentifier first ∧
    ∀ c ∈ rest, BeginsIdentifier c ∨ '0' ≤ c ∧ c ≤ '9'

/-- The characters that an identifier may begin with are recognized. -/
theorem isIdentifierStart_iff {c : Char} : isIdentifierStart c = true ↔ BeginsIdentifier c := by
  have halpha : c.isAlpha = true ↔ 'A' ≤ c ∧ c ≤ 'Z' ∨ 'a' ≤ c ∧ c ≤ 'z' := by
    show (decide (c.val ≥ 'A'.val ∧ c.val ≤ 'Z'.val) ||
      decide (c.val ≥ 'a'.val) && decide (c.val ≤ 'z'.val)) = true ↔ _
    simp only [Bool.or_eq_true, Bool.and_eq_true, decide_eq_true_eq]
    exact Iff.rfl
  simp only [isIdentifierStart, BeginsIdentifier, Bool.or_eq_true, halpha, beq_iff_eq, or_assoc]

/-- The characters that an identifier may go on with are recognized. -/
theorem isIdentifierPart_iff {c : Char} :
    isIdentifierPart c = true ↔ BeginsIdentifier c ∨ '0' ≤ c ∧ c ≤ '9' := by
  rw [isIdentifierPart, Bool.or_eq_true, isIdentifierStart_iff, Char.isDigit_iff_toNat]
  exact Iff.rfl

/-- Identifiers are recognized. -/
theorem isIdentifier_iff {name : String} : isIdentifier name.toList = true ↔ IsIdentifier name := by
  rw [IsIdentifier]
  cases name.toList with
  | nil => simp [isIdentifier]
  | cons first rest =>
      simp only [isIdentifier, Bool.and_eq_true, List.all_eq_true, isIdentifierStart_iff,
        isIdentifierPart_iff, List.cons.injEq]
      constructor
      · intro h
        exact ⟨first, rest, ⟨rfl, rfl⟩, h⟩
      · rintro ⟨_, _, ⟨rfl, rfl⟩, h⟩
        exact h

/-- A character of an identifier is no white space. -/
theorem isBlank_eq_false_of_isIdentifierPart {c : Char} (h : isIdentifierPart c = true) :
    isBlank c = false := by
  have hrange : 65 ≤ c.toNat ∧ c.toNat ≤ 90 ∨ 97 ≤ c.toNat ∧ c.toNat ≤ 122 ∨ c.toNat = 95 ∨ c.toNat = 36 ∨
      48 ≤ c.toNat ∧ c.toNat ≤ 57 := by
    rcases isIdentifierPart_iff.mp h with (hupper | hlower | rfl | rfl) | hdigit
    · exact .inl hupper
    · exact .inr (.inl hlower)
    · decide
    · decide
    · exact .inr (.inr (.inr (.inr hdigit)))
  simp only [isBlank, Bool.or_eq_false_iff, Bool.and_eq_false_iff, decide_eq_false_iff_not,
    beq_eq_false_iff_ne]
  omega

/-- An identifier ends with a character that it may go on with. -/
theorem exists_last_of_isIdentifier {name : String} (h : isIdentifier name.toList = true) :
    ∃ front last, name.toList = front ++ [last] ∧ isIdentifierPart last = true := by
  cases hlist : name.toList with
  | nil =>
      rw [hlist] at h
      cases h
  | cons first rest =>
      rw [hlist, isIdentifier, Bool.and_eq_true] at h
      rcases List.eq_nil_or_concat rest with rfl | ⟨front, last, rfl⟩
      · exact ⟨[], first, rfl, by rw [isIdentifierPart, h.1, Bool.true_or]⟩
      · refine ⟨first :: front, last, by rw [List.concat_eq_append, List.cons_append], ?_⟩
        refine List.all_eq_true.mp h.2 last ?_
        rw [List.concat_eq_append]
        exact List.mem_append_right _ (List.mem_singleton_self last)

/-! ## Names that are denoted -/

/-- A key text denotes a property name. -/
inductive Denotes : String → String → Prop where
  /-- An identifier denotes itself. -/
  | identifier {name : String} : IsIdentifier name → Denotes name name
  /-- A string literal denotes the text that it reads as, if its closing mark is the end of the key. -/
  | string {key name : String} {rest : List Char} :
      key.toList = '"' :: rest → Json.scanString .standard rest = some (name, rest.length) → Denotes key name

/-- A key denotes one name. -/
theorem Denotes.unique {key name other : String} (h : Denotes key name) (h' : Denotes key other) :
    name = other := by
  have hmark : ¬ BeginsIdentifier '"' := by
    rw [← isIdentifierStart_iff]
    decide
  cases h with
  | identifier hname =>
      cases h' with
      | identifier => rfl
      | string hkey =>
          obtain ⟨first, rest, hlist, hfirst, -⟩ := hname
          rw [hkey, List.cons.injEq] at hlist
          exact absurd (hlist.1 ▸ hfirst) hmark
  | string hkey hread =>
      cases h' with
      | identifier hname =>
          obtain ⟨first, rest, hlist, hfirst, -⟩ := hname
          rw [hkey, List.cons.injEq] at hlist
          exact absurd (hlist.1 ▸ hfirst) hmark
      | string hkey' hread' =>
          rw [hkey, List.cons.injEq] at hkey'
          obtain ⟨-, rfl⟩ := hkey'
          rw [hread, Option.some.injEq, Prod.mk.injEq] at hread'
          exact hread'.1

/-- A member with a key declares a property name: the one that the key denotes without the white space behind
it. -/
def DeclaresMember (key name : String) : Prop := Denotes (Text.stripRight key) name

/-! ## Property keys -/

/-- A name is an identifier with a line feed behind it. -/
def StraysFrom (name identifier : String) : Prop := IsIdentifier identifier ∧ name = identifier ++ "\n"

/-- An identifier has no line feed behind it. -/
theorem not_straysFrom_of_isIdentifier {name identifier : String} (h : IsIdentifier name) :
    ¬ StraysFrom name identifier := by
  rintro ⟨-, rfl⟩
  obtain ⟨front, last, hlist, hlast⟩ := exists_last_of_isIdentifier (isIdentifier_iff.mpr h)
  rw [String.toList_append] at hlist
  obtain ⟨-, heq⟩ := List.append_inj' hlist rfl
  cases heq
  cases hlast

/-- A name is written as it is if it is an identifier, or one with a line feed behind it. -/
theorem isBareKey_iff {name : String} : isBareKey name.toList = true ↔
    IsIdentifier name ∨ ∃ identifier, StraysFrom name identifier := by
  rw [isBareKey_iff_append, isIdentifier_iff]
  refine or_congr_right ⟨?_, ?_⟩
  · rintro ⟨identifier, hidentifier, hname⟩
    refine ⟨.ofList identifier, ?_, ?_⟩
    · rwa [← isIdentifier_iff, String.toList_ofList]
    · apply String.toList_injective
      rw [String.toList_append, String.toList_ofList, hname]
      rfl
  · rintro ⟨identifier, hidentifier, rfl⟩
    exact ⟨identifier.toList, isIdentifier_iff.mpr hidentifier, String.toList_append⟩

/-- A string literal denotes the text that it is written for. -/
theorem denotes_quote (name : String) : Denotes (Json.quote name) name := by
  have hkey : (Json.quote name).toList = '"' :: (name.toList.flatMap Json.escapeChar ++ ['"']) := by
    rw [Json.toList_quote, Json.quoteChars, List.cons_append]
  refine .string hkey ?_
  rw [Json.scanString_flatMap, String.ofList_toList, List.length_append]
  rfl

/-- A string literal has no white space behind it. -/
theorem stripRight_quote (name : String) : Text.stripRight (Json.quote name) = Json.quote name := by
  apply String.toList_injective
  rw [Text.toList_stripRight, Json.toList_quote, Json.quoteChars]
  exact Chars.stripRight_append_of_not_isBlank rfl _

/-- An identifier has no white space behind it. -/
theorem stripRight_of_isIdentifier {name : String} (h : IsIdentifier name) :
    Text.stripRight name = name := by
  obtain ⟨front, last, hlist, hlast⟩ := exists_last_of_isIdentifier (isIdentifier_iff.mpr h)
  apply String.toList_injective
  rw [Text.toList_stripRight, hlist]
  exact Chars.stripRight_append_of_not_isBlank (isBlank_eq_false_of_isIdentifierPart hlast) _

/-- Without the line feed behind it, a name is the identifier that it strays from. -/
theorem StraysFrom.stripRight {name identifier : String} (h : StraysFrom name identifier) :
    Text.stripRight name = identifier := by
  obtain ⟨hidentifier, rfl⟩ := h
  have hfeed : isBlank '\n' = true := rfl
  apply String.toList_injective
  rw [← congrArg String.toList (stripRight_of_isIdentifier hidentifier), Text.toList_stripRight,
    Text.toList_stripRight, String.toList_append]
  exact Chars.stripRight_append_of_isBlank hfeed _

/-- A key with a line feed behind an identifier denotes nothing. -/
theorem StraysFrom.not_denotes {name identifier : String} (h : StraysFrom name identifier)
    (member : String) : ¬ Denotes name member := by
  intro hdenotes
  cases hdenotes with
  | identifier hname => exact not_straysFrom_of_isIdentifier hname h
  | string hkey =>
      obtain ⟨⟨first, rest, hlist, hfirst, -⟩, rfl⟩ := h
      rw [String.toList_append, hlist, List.cons_append, List.cons.injEq] at hkey
      obtain ⟨rfl, -⟩ := hkey
      exact absurd (isIdentifierStart_iff.mpr hfirst) (by decide)

/-- A name is an identifier, or strays from one, or is written as a string literal. -/
theorem propertyKey_cases (name : String) :
    IsIdentifier name ∧ propertyKey name = name ∨
      (∃ identifier, StraysFrom name identifier) ∧ propertyKey name = name ∨
      (¬ ∃ identifier, StraysFrom name identifier) ∧ propertyKey name = Json.quote name := by
  by_cases hbare : isBareKey name.toList = true
  · have hkey : propertyKey name = name := if_pos hbare
    rcases isBareKey_iff.mp hbare with hname | hstrays
    · exact .inl ⟨hname, hkey⟩
    · exact .inr (.inl ⟨hstrays, hkey⟩)
  · exact .inr (.inr ⟨fun hstrays => hbare (isBareKey_iff.mpr (.inr hstrays)), if_neg hbare⟩)

/-- **A member is declared under its own name**, or under the identifier that its name strays from. -/
theorem declaresMember_propertyKey_iff {name member : String} :
    DeclaresMember (propertyKey name) member ↔
      (¬ ∃ identifier, StraysFrom name identifier) ∧ member = name ∨ StraysFrom name member := by
  rw [DeclaresMember]
  rcases propertyKey_cases name with ⟨hname, hkey⟩ | ⟨⟨identifier, hstrays⟩, hkey⟩ | ⟨hno, hkey⟩
  · have hno : ¬ ∃ identifier, StraysFrom name identifier := by
      rintro ⟨identifier, hstrays⟩
      exact not_straysFrom_of_isIdentifier hname hstrays
    have hdenotes : Denotes name name := .identifier hname
    rw [hkey, stripRight_of_isIdentifier hname]
    constructor
    · intro h
      exact .inl ⟨hno, h.unique hdenotes⟩
    · rintro (⟨-, rfl⟩ | hstrays)
      · exact hdenotes
      · exact absurd ⟨member, hstrays⟩ hno
  · have hdenotes : Denotes identifier identifier := .identifier hstrays.1
    rw [hkey, hstrays.stripRight]
    constructor
    · intro h
      rw [h.unique hdenotes]
      exact .inr hstrays
    · rintro (⟨hno, -⟩ | hmember)
      · exact absurd ⟨identifier, hstrays⟩ hno
      · rw [← hstrays.stripRight, hmember.stripRight]
        exact .identifier hmember.1
  · have hdenotes := denotes_quote name
    rw [hkey, stripRight_quote]
    constructor
    · intro h
      exact .inl ⟨hno, h.unique hdenotes⟩
    · rintro (⟨-, rfl⟩ | hstrays)
      · exact hdenotes
      · exact absurd ⟨member, hstrays⟩ hno

/-- **A property key denotes exactly the name that it was written for**, unless the name is an identifier with
a line feed behind it; and two names give one member only if they are equal or one of them strays from the
other in this way. -/
theorem denotes_propertyKey_iff (name : String) :
    (Denotes (propertyKey name) name ↔ ¬ ∃ identifier, StraysFrom name identifier) ∧
    ∀ other, (∃ member, DeclaresMember (propertyKey name) member ∧
        DeclaresMember (propertyKey other) member) ↔
      other = name ∨ StraysFrom name other ∨ StraysFrom other name := by
  constructor
  · rcases propertyKey_cases name with ⟨hname, hkey⟩ | ⟨⟨identifier, hstrays⟩, hkey⟩ | ⟨hno, hkey⟩
    · rw [hkey]
      refine iff_of_true (.identifier hname) ?_
      rintro ⟨identifier, hstrays⟩
      exact not_straysFrom_of_isIdentifier hname hstrays
    · rw [hkey]
      exact iff_of_false (hstrays.not_denotes name) (not_not_intro ⟨identifier, hstrays⟩)
    · rw [hkey]
      exact iff_of_true (denotes_quote name) hno
  · intro other
    simp only [declaresMember_propertyKey_iff]
    constructor
    · rintro ⟨member, ⟨-, rfl⟩ | hname, ⟨-, rfl⟩ | hother⟩
      · exact .inl rfl
      · exact .inr (.inr hother)
      · exact .inr (.inl hname)
      · exact .inl (hother.2.trans hname.2.symm)
    · rintro (rfl | hstrays | hstrays)
      · by_cases hno : ∃ identifier, StraysFrom other identifier
        · obtain ⟨identifier, hstrays⟩ := hno
          exact ⟨identifier, .inr hstrays, .inr hstrays⟩
        · exact ⟨other, .inl ⟨hno, rfl⟩, .inl ⟨hno, rfl⟩⟩
      -- the name that is strayed from is an identifier, so it strays from none itself
      · refine ⟨other, .inr hstrays, .inl ⟨?_, rfl⟩⟩
        rintro ⟨identifier, h⟩
        exact not_straysFrom_of_isIdentifier hstrays.1 h
      · refine ⟨name, .inl ⟨?_, rfl⟩, .inr hstrays⟩
        rintro ⟨identifier, h⟩
        exact not_straysFrom_of_isIdentifier hstrays.1 h

/-- An object with the properties `a` and, a line feed behind it, `a` again: the key of the second is no
property name, and both members declare the same property. -/
theorem declaresMember_lineFeed :
    Printer.declaration ⟨none, "  "⟩ "T" (.ofValue (.map [(.text "type", .text "object"),
        (.text "properties", .map [(.text "a", .map [(.text "type", .text "string")]),
          (.text "a\n", .map [(.text "type", .text "integer")])])]))
      = .ok ("export interface T \x7b\n  " ++ propertyKey "a" ++ "?: string;\n  " ++
          propertyKey "a\n" ++ "?: number;\n\x7d\n") ∧
    (∀ name, ¬ Denotes (propertyKey "a\n") name) ∧
    DeclaresMember (propertyKey "a") "a" ∧ DeclaresMember (propertyKey "a\n") "a" := by
  have hidentifier : IsIdentifier "a" := isIdentifier_iff.mp rfl
  have hstrays : StraysFrom "a\n" "a" := ⟨hidentifier, rfl⟩
  refine ⟨rfl, hstrays.not_denotes, .identifier hidentifier, ?_⟩
  exact declaresMember_propertyKey_iff.mpr (.inr hstrays)

end TypeScript

end ServiceBindings
