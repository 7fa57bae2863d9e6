import ServiceBindings.Proofs.TypeScript.Pieces

/-! # The alternatives of a type

The **alternatives** of a type (`alternatives`) stand between the operators `|` outside all brackets, comments
and string literals. A type **accepts null** (`AcceptsNull`) if one of them is the null type or the unknown one.

A union accepts null if one of its members does (`acceptsNull_union_iff`). An object never accepts null, because
it is a single alternative that ends with a bracket (`not_acceptsNull_of_woven`), and neither does an array,
unless its items have alternatives and stand there without parentheses (`acceptsNull_array_iff`). -/

namespace ServiceBindings

/-! ## White space at the ends -/

namespace Chars

/-- White space in front is dropped. -/
theorem strip_cons_blank {c : Char} (h : isBlank c = true) (cs : List Char) : strip (c :: cs) = strip cs := by
  rw [strip, strip, List.dropWhile_cons, if_pos h]

/-- White space at the end is dropped. -/
theorem strip_append_blank {c : Char} (h : isBlank c = true) (cs : List Char) :
    strip (cs ++ [c]) = strip cs := by
  rw [strip, strip, List.dropWhile_append]
  split
  · next hempty =>
      rw [List.isEmpty_iff.mp hempty, List.dropWhile_cons, if_pos h]
      rfl
  · exact stripRight_append_of_isBlank h _

/-- Another character at the end is kept. -/
theorem getLast?_strip {c : Char} (h : isBlank c = false) (cs : List Char) :
    (strip (cs ++ [c])).getLast? = some c := by
  have hne : ¬ isBlank c = true := by rw [h]; exact Bool.false_ne_true
  have hfront : ∃ front, (cs ++ [c]).dropWhile isBlank = front ++ [c] := by
    rw [List.dropWhile_append]
    split
    · exact ⟨[], by rw [List.dropWhile_cons, if_neg hne]; rfl⟩
    · exact ⟨_, rfl⟩
  obtain ⟨front, hfront⟩ := hfront
  rw [strip, hfront, stripRight_append_of_not_isBlank h, List.getLast?_concat]

end Chars

namespace TypeScript

/-! ## Cutting a type at its operators -/

/-- The pieces of a text between the operators `|` that a reader passes outside all brackets. -/
def pieces : Cursor → List Char → List (List Char)
  | _, [] => [[]]
  | cursor, c :: rest =>
      if cursor = .code [] ∧ c = '|' then [] :: pieces (cursor.step c) rest
      else (pieces (cursor.step c) rest).modifyHead (c :: ·)

@[simp] theorem pieces_nil (cursor : Cursor) : pieces cursor [] = [[]] := rfl

theorem pieces_cons (cursor : Cursor) (c : Char) (rest : List Char) :
    pieces cursor (c :: rest) = if cursor = .code [] ∧ c = '|' then [] :: pieces (cursor.step c) rest
      else (pieces (cursor.step c) rest).modifyHead (c :: ·) := rfl

/-- Cutting yields at least one piece. -/
theorem pieces_ne_nil (cursor : Cursor) (cs : List Char) : pieces cursor cs ≠ [] := by
  induction cs generalizing cursor with
  | nil => simp
  | cons c rest ih =>
      rw [pieces_cons]
      split
      · simp
      · cases h : pieces (cursor.step c) rest with
        | nil => exact absurd h (ih _)
        | cons piece others => simp

/-- A piece ends where the operator stands. -/
theorem pieces_append_operator {cursor : Cursor} {v : List Char} (h : read cursor v = .code [])
    (w : List Char) : pieces cursor (v ++ '|' :: w) = pieces cursor v ++ pieces (.code []) w := by
  induction v generalizing cursor with
  | nil =>
      cases h
      rfl
  | cons c v ih =>
      rw [List.cons_append, pieces_cons, pieces_cons, ih h]
      split
      · rfl
      · cases hpieces : pieces (cursor.step c) v with
        | nil => exact absurd hpieces (pieces_ne_nil _ _)
        | cons piece others => rfl

/-- Without operator outside all brackets a text is one piece. -/
theorem pieces_of_notMem_outline {cursor : Cursor} {v : List Char} (h : '|' ∉ outline cursor v) :
    pieces cursor v = [v] := by
  induction v generalizing cursor with
  | nil => rfl
  | cons c v ih =>
      rw [outline_cons, List.mem_append, not_or] at h
      have hcut : ¬ (cursor = .code [] ∧ c = '|') := by
        rintro ⟨rfl, rfl⟩
        exact h.1 (by decide)
      rw [pieces_cons, if_neg hcut, ih h.2]
      rfl

/-- Text without operator outside all brackets goes to the last piece. -/
theorem exists_pieces_append {cursor : Cursor} (v : List Char) {w : List Char}
    (h : '|' ∉ outline (read cursor v) w) : ∃ before last, pieces cursor v = before ++ [last] ∧
      pieces cursor (v ++ w) = before ++ [last ++ w] := by
  induction v generalizing cursor with
  | nil => exact ⟨[], [], rfl, pieces_of_notMem_outline h⟩
  | cons c v ih =>
      obtain ⟨before, last, hv, hvw⟩ := ih h
      rw [List.cons_append, pieces_cons, pieces_cons, hv, hvw]
      split
      · exact ⟨[] :: before, last, rfl, rfl⟩
      · cases before with
        | nil => exact ⟨[], c :: last, rfl, rfl⟩
        | cons first before => exact ⟨(c :: first) :: before, last, rfl, rfl⟩

/-! ## Alternatives -/

/-- The alternatives of a type, without the white space around them. -/
def alternatives (type : String) : List String :=
  (pieces (.code []) type.toList).map fun piece => .ofList (Chars.strip piece)

/-- An alternative that null belongs to. -/
def IsNullish (alternative : String) : Prop := alternative = "null" ∨ alternative = unknownType

/-- A type has an alternative that null belongs to. -/
def AcceptsNull (type : String) : Prop := ∃ alternative ∈ alternatives type, IsNullish alternative

instance (alternative : String) : Decidable (IsNullish alternative) :=
  inferInstanceAs (Decidable (_ ∨ _))

instance (type : String) : Decidable (AcceptsNull type) :=
  inferInstanceAs (Decidable (∃ alternative ∈ alternatives type, IsNullish alternative))

/-- The alternatives of two types with the operator between them. -/
theorem alternatives_append {type : String} (h : read (.code []) type.toList = .code []) (other : String) :
    alternatives (type ++ " | " ++ other) = alternatives type ++ alternatives other := by
  have hlist : (type ++ " | " ++ other).toList = (type.toList ++ [' ']) ++ '|' :: ' ' :: other.toList := by
    simp [String.toList_append]
  have hread : read (.code []) (type.toList ++ [' ']) = .code [] := by
    rw [read_append, h]
    rfl
  -- the space in front of the operator goes to the last piece, the one behind it to the first
  have hspace : '|' ∉ outline (read (.code []) type.toList) [' '] := by
    rw [h]
    decide
  obtain ⟨before, last, hpieces, hbefore⟩ := exists_pieces_append type.toList hspace
  have hbehind : pieces (.code []) (' ' :: other.toList)
      = (pieces (.code []) other.toList).modifyHead (' ' :: ·) := rfl
  obtain ⟨first, rest, hother⟩ := List.exists_cons_of_ne_nil (pieces_ne_nil (.code []) other.toList)
  rw [alternatives, hlist, pieces_append_operator hread, hbefore, hbehind, alternatives, alternatives, hpieces,
    hother]
  simp [Chars.strip_append_blank, Chars.strip_cons_blank, show isBlank ' ' = true from rfl]

/-- Of two types with the operator between them, one has to accept null. -/
theorem acceptsNull_append_iff {type : String} (h : read (.code []) type.toList = .code []) (other : String) :
    AcceptsNull (type ++ " | " ++ other) ↔ AcceptsNull type ∨ AcceptsNull other := by
  simp only [AcceptsNull, alternatives_append h, List.mem_append, or_and_right, exists_or]

/-- Of several types with the operator between neighbours, one has to accept null. -/
theorem acceptsNull_join_iff {types : List String} (hne : types ≠ [])
    (h : ∀ type ∈ types, read (.code []) type.toList = .code []) :
    AcceptsNull (Text.join " | " types) ↔ ∃ type ∈ types, AcceptsNull type := by
  induction types with
  | nil => exact absurd rfl hne
  | cons first rest ih =>
      cases rest with
      | nil => simp [Text.join]
      | cons next rest =>
          have hrest := ih (List.cons_ne_nil _ _) fun type htype => h type (List.mem_cons_of_mem _ htype)
          have hsplit : Text.join " | " (first :: next :: rest)
              = first ++ " | " ++ Text.join " | " (next :: rest) := by
            simp [Text.join]
          rw [hsplit, acceptsNull_append_iff (h first List.mem_cons_self), hrest]
          simp only [List.mem_cons, exists_eq_or_imp]

/-- **A union accepts null if one of its members does**, or if it has none. -/
theorem acceptsNull_union_iff {types : List String}
    (h : ∀ type ∈ types, read (.code []) type.toList = .code []) :
    AcceptsNull (union types) ↔ types = [] ∨ ∃ type ∈ types, AcceptsNull type := by
  have hmem : ∀ type, type ∈ distinct types ↔ type ∈ types := fun type => List.mem_eraseDups
  rw [union]
  split
  · next hempty =>
      have hnil : types = [] := by
        refine List.eq_nil_iff_forall_not_mem.mpr fun type htype => ?_
        have hdistinct := (hmem type).mpr htype
        rw [hempty] at hdistinct
        cases hdistinct
      exact iff_of_true (by decide) (.inl hnil)
  · next hne =>
      rw [acceptsNull_join_iff hne fun type htype => h type ((hmem type).mp htype)]
      simp only [hmem]
      refine ⟨.inr, fun h => h.resolve_left ?_⟩
      rintro rfl
      exact hne rfl

/-! ## Brackets at the end -/

/-- An alternative that ends with a bracket is not one that null belongs to. -/
theorem not_isNullish_of_isClosing {c : Char} (h : isClosing c = true) (cs : List Char) :
    ¬ IsNullish (.ofList (Chars.strip (cs ++ [c]))) := by
  have hblank : isBlank c = false := by
    simp only [isClosing, List.mem_cons, List.not_mem_nil, or_false, decide_eq_true_eq] at h
    rcases h with rfl | rfl | rfl | rfl <;> rfl
  have hlast := Chars.getLast?_strip hblank cs
  -- the null type ends with an `l`, the unknown one with an `n`
  rintro (heq | heq)
  · have hend : Chars.strip (cs ++ [c]) = "null".toList := by rw [← heq, String.toList_ofList]
    rw [hend] at hlast
    cases hlast
    cases h
  · have hend : Chars.strip (cs ++ [c]) = unknownType.toList := by rw [← heq, String.toList_ofList]
    rw [hend] at hlast
    cases hlast
    cases h

section Woven

variable {X : String → Prop} {type : String}

/-- No operator stands outside the brackets of a text that is woven without. -/
theorem notMem_outline_of_woven (h : Woven X false false type.toList) :
    '|' ∉ outline (.code []) type.toList := by
  intro hmem
  have hop := h.exists_isOperator_iff.mp ⟨'|', hmem, rfl⟩
  cases hop

/-- **A type in brackets does not accept null.** -/
theorem not_acceptsNull_of_woven (h : Woven X false false type.toList) {cs : List Char} {c : Char}
    (hlist : type.toList = cs ++ [c]) (hclosing : isClosing c = true) : ¬ AcceptsNull type := by
  rintro ⟨alternative, hmem, hnullish⟩
  rw [alternatives, pieces_of_notMem_outline (notMem_outline_of_woven h), hlist] at hmem
  cases List.mem_singleton.mp hmem
  exact not_isNullish_of_isClosing hclosing cs hnullish

/-- Alternatives of items are taken for alternatives of the array: they stand without parentheses, and null
belongs to one of them that is not the last. -/
def LeaksNull (item : String) : Prop :=
  isCompound item = false ∧ ∃ alternative ∈ (alternatives item).dropLast, IsNullish alternative

/-- **An array accepts null only by mistake.** -/
theorem acceptsNull_array_iff (h : Weaves X false type.toList) :
    AcceptsNull (operand type ++ "[]") ↔ LeaksNull type := by
  obtain ⟨operator, h⟩ := h
  rw [LeaksNull]
  cases hcompound : isCompound type with
  | true =>
      have hinside : Woven X false false ('(' :: type.toList ++ [closing '(']) :=
        Weaves.woven_bracket (by decide) ⟨operator, h.nest⟩
      have hempty : Woven X false false ('[' :: [] ++ [closing '[']) :=
        Weaves.woven_bracket (by decide) .nil
      have hlist : (operand type ++ "[]").toList
          = ('(' :: type.toList ++ [closing '(']) ++ ('[' :: [] ++ [closing '[']) := by
        rw [operand, if_pos hcompound]
        simp [String.toList_append, closing]
      have hwoven : Woven X false false (operand type ++ "[]").toList := hlist ▸ hinside.append hempty
      have hend : (operand type ++ "[]").toList = ('(' :: type.toList ++ [closing '('] ++ ['[']) ++ [']'] := by
        rw [hlist, List.append_assoc _ ['[']]
        rfl
      exact iff_of_false (not_acceptsNull_of_woven hwoven hend (by decide)) (by simp)
  | false =>
      have hlist : (operand type ++ "[]").toList = type.toList ++ ['[', ']'] := by
        rw [operand, if_neg (by rw [hcompound]; exact Bool.false_ne_true)]
        simp [String.toList_append]
      have hend : '|' ∉ outline (read (.code []) type.toList) ['[', ']'] := by
        rw [h.read_code]
        decide
      obtain ⟨before, last, hpieces, hboth⟩ := exists_pieces_append type.toList hend
      have hlast := not_isNullish_of_isClosing (by decide : isClosing ']' = true) (last ++ ['['])
      rw [List.append_assoc, List.singleton_append] at hlast
      rw [AcceptsNull, alternatives, alternatives, hlist, hboth, hpieces]
      simp only [List.map_append, List.map_cons, List.map_nil, List.dropLast_concat, List.mem_append,
        List.mem_singleton, true_and]
      constructor
      · rintro ⟨alternative, hmem | rfl, hnullish⟩
        · exact ⟨alternative, hmem, hnullish⟩
        · exact absurd hnullish hlast
      · rintro ⟨alternative, hmem, hnullish⟩
        exact ⟨alternative, .inl hmem, hnullish⟩

/-- An object without declared properties does not accept null. -/
theorem not_acceptsNull_recordOf (h : Weaves X false type.toList) : ¬ AcceptsNull (recordOf type) := by
  have hlist : (recordOf type).toList = ("Record<string, ".toList ++ type.toList) ++ ['>'] := by
    simp [recordOf, String.toList_append]
  exact not_acceptsNull_of_woven (woven_recordOf h) hlist (by decide)

end Woven

end TypeScript

end ServiceBindings
