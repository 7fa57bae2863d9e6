import ServiceBindings.Json.Literal
import ServiceBindings.Proofs.TypeScript.Commented

/-! # Texts that are put together

`Woven` are the texts that expressions are put together from: plain characters, operators, string
literals, brackets around woven text, and, **only between brackets**, comments on texts of a given kind.

A woven text is read from its beginning to its end without a trace (`Woven.read_code`), and its outline is
known from the derivation: it holds an operator exactly when the derivation has one outside all brackets
(`Woven.exists_isOperator_iff`). -/

namespace ServiceBindings

namespace TypeScript

/-! ## The inside of a string literal -/

/-- What may stand between the marks of a string literal: a mark or a backslash stands behind a
backslash, and no character ends a line. -/
inductive Quoted : List Char → Prop where
  /-- Nothing. -/
  | nil : Quoted []
  /-- A character that is neither a mark nor a backslash. -/
  | char {c : Char} {cs : List Char} :
      c ≠ '"' → c ≠ '\\' → isLineBreak c = false → Quoted cs → Quoted (c :: cs)
  /-- A character behind a backslash. -/
  | escape {c : Char} {cs : List Char} : isLineBreak c = false → Quoted cs → Quoted ('\\' :: c :: cs)

/-- Quoted texts one after the other. -/
theorem Quoted.append {cs ds : List Char} (hcs : Quoted cs) (hds : Quoted ds) : Quoted (cs ++ ds) := by
  induction hcs with
  | nil => exact hds
  | char hmark hslash hline _ ih => exact .char hmark hslash hline ih
  | escape hline _ ih => exact .escape hline ih

/-- Quoted text stands on one line. -/
theorem Quoted.isLineBreak_eq_false {cs : List Char} (h : Quoted cs) {c : Char} (hc : c ∈ cs) :
    isLineBreak c = false := by
  induction h with
  | nil => cases hc
  | char _ _ hline _ ih =>
      rcases List.mem_cons.mp hc with rfl | hc
      · exact hline
      · exact ih hc
  | escape hline _ ih =>
      rcases List.mem_cons.mp hc with rfl | hc
      · decide
      · rcases List.mem_cons.mp hc with rfl | hc
        · exact hline
        · exact ih hc

/-- The inside of a string literal does not end it, and has no outline. -/
theorem Quoted.read_string {cs : List Char} (h : Quoted cs) (opened : List Char) :
    read (.string '"' opened) cs = .string '"' opened ∧ outline (.string '"' opened) cs = [] := by
  induction h with
  | nil => exact ⟨rfl, rfl⟩
  | @char c cs hmark hslash _ _ ih =>
      have hstep : (Cursor.string '"' opened).step c = .string '"' opened := by
        rw [Cursor.step, if_neg hslash, if_neg hmark]
      rw [read_cons, outline_cons_of_ne (by simp), hstep]
      exact ih
  | @escape c cs _ _ ih =>
      rw [read_cons, read_cons, outline_cons_of_ne (by simp), outline_cons_of_ne (by simp [Cursor.step])]
      exact ih

/-- The digits of a number are digit characters. -/
theorem exists_digitChar_of_mem_toDigits {base : Nat} (hbase : 1 < base) (n : Nat) {c : Char}
    (h : c ∈ Nat.toDigits base n) : ∃ d, c = Nat.digitChar d := by
  induction n using Nat.strongRecOn with
  | ind n ih =>
      rw [Nat.toDigits_eq_if hbase] at h
      split at h
      · exact ⟨n, List.mem_singleton.mp h⟩
      · rcases List.mem_append.mp h with h | h
        · exact ih (n / base) (Nat.div_lt_self (by omega) hbase) h
        · exact ⟨n % base, List.mem_singleton.mp h⟩

/-- No digit character ends a line. -/
theorem isLineBreak_digitChar (d : Nat) : isLineBreak (Nat.digitChar d) = false := by
  have hsmall : ∀ d < 16, isLineBreak (Nat.digitChar d) = false := by decide
  by_cases h : d < 16
  · exact hsmall d h
  · have hstar : Nat.digitChar d = '*' := by
      simp only [Nat.digitChar]
      repeat rw [if_neg (by omega)]
    rw [hstar]
    rfl

/-- A printable ASCII character ends no line. -/
theorem isLineBreak_eq_false_of_toNat {c : Char} (h : 32 ≤ c.toNat ∧ c.toNat < 127) :
    isLineBreak c = false := by
  obtain ⟨hlow, hhigh⟩ := h
  simp only [isLineBreak, Bool.or_eq_false_iff, Bool.and_eq_false_iff, decide_eq_false_iff_not,
    beq_eq_false_iff_ne]
  omega

/-- Hexadecimal digits may stand in a string literal. -/
theorem quoted_hex (width n : Nat) : Quoted (Text.hex width n) := by
  have hquoted : ∀ cs : List Char, (∀ c ∈ cs, c = '0' ∨ ∃ d, c = Nat.digitChar d) → Quoted cs := by
    intro cs
    induction cs with
    | nil => exact fun _ => .nil
    | cons c cs ih =>
        intro h
        obtain ⟨hmark, hslash, hline⟩ : c ≠ '"' ∧ c ≠ '\\' ∧ isLineBreak c = false := by
          rcases h c List.mem_cons_self with rfl | ⟨d, rfl⟩
          · decide
          · exact ⟨Nat.digitChar_ne '"' (by decide), Nat.digitChar_ne '\\' (by decide),
              isLineBreak_digitChar d⟩
        exact .char hmark hslash hline (ih fun d hd => h d (List.mem_cons_of_mem _ hd))
  refine hquoted _ fun c hc => ?_
  rcases List.mem_append.mp hc with hc | hc
  · exact Or.inl (List.eq_of_mem_replicate hc)
  · exact Or.inr (exists_digitChar_of_mem_toDigits (by decide) n hc)

/-- The escape of a unit may stand in a string literal. -/
theorem quoted_escapeUnit (unit : Nat) : Quoted (Json.escapeUnit unit) :=
  .escape (by decide) (quoted_hex 4 unit)

/-- What is written for a character may stand in a string literal. -/
theorem quoted_escapeChar (c : Char) : Quoted (Json.escapeChar c) := by
  unfold Json.escapeChar
  split_ifs with hmark hslash _ _ _ _ _ hprint
  · exact .escape (by decide) .nil
  · exact .escape (by decide) .nil
  · exact .escape (by decide) .nil
  · exact .escape (by decide) .nil
  · exact .escape (by decide) .nil
  · exact .escape (by decide) .nil
  · exact .escape (by decide) .nil
  · exact .char hmark hslash (isLineBreak_eq_false_of_toNat hprint) .nil
  · exact quoted_escapeUnit _
  · exact (quoted_escapeUnit _).append (quoted_escapeUnit _)

/-- What is written for a text may stand in a string literal. -/
theorem quoted_flatMap_escapeChar (cs : List Char) : Quoted (cs.flatMap Json.escapeChar) := by
  induction cs with
  | nil => exact .nil
  | cons c cs ih =>
      rw [List.flatMap_cons]
      exact (quoted_escapeChar c).append ih

/-! ## Woven texts -/

/-- The texts that expressions are put together from. The first flag says whether the text stands between
brackets, the second whether an operator stands in it outside its own brackets. -/
inductive Woven (X : String → Prop) : Bool → Bool → List Char → Prop where
  /-- Nothing. -/
  | nil {nested : Bool} : Woven X nested false []
  /-- A plain character; a line feed only between brackets. -/
  | plain {nested operator : Bool} {c : Char} {w : List Char} :
      isPlain c = true → isOperator c = false → (nested = true ∨ c ≠ '\n') →
      Woven X nested operator w → Woven X nested operator (c :: w)
  /-- An operator. -/
  | operator {nested operator : Bool} {c : Char} {w : List Char} :
      isOperator c = true → Woven X nested operator w → Woven X nested true (c :: w)
  /-- A string literal. -/
  | string {nested operator : Bool} {body w : List Char} :
      Quoted body → Woven X nested operator w → Woven X nested operator ('"' :: body ++ '"' :: w)
  /-- Brackets around a text. -/
  | bracket {nested operator inner : Bool} {o : Char} {v w : List Char} :
      isOpening o = true → Woven X true inner v → Woven X nested operator w →
      Woven X nested operator (o :: v ++ closing o :: w)
  /-- A comment, between brackets. -/
  | comment {operator : Bool} {x margin : String} {w : List Char} :
      X x → Text.isBlank margin = true → Woven X true operator w →
      Woven X true operator ((comment x margin).toList ++ w)

namespace Woven

variable {X : String → Prop} {nested operator operator' : Bool} {v w : List Char}

/-- Woven texts one after the other. -/
theorem append (hv : Woven X nested operator v) (hw : Woven X nested operator' w) :
    Woven X nested (operator || operator') (v ++ w) := by
  induction hv with
  | nil => exact hw
  | plain hplain hop hline _ ih => exact .plain hplain hop hline (ih hw)
  | operator hop _ ih => exact .operator hop (ih hw)
  | string hbody _ ih =>
      rw [List.append_assoc]
      exact .string hbody (ih hw)
  | bracket ho hinner _ _ ih =>
      rw [List.append_assoc]
      exact .bracket ho hinner (ih hw)
  | comment hx hmargin _ ih =>
      rw [List.append_assoc]
      exact .comment hx hmargin (ih hw)

/-- Woven text may stand between brackets. -/
theorem nest (h : Woven X nested operator w) : Woven X true operator w := by
  induction h with
  | nil => exact .nil
  | plain hplain hop _ _ ih => exact .plain hplain hop (Or.inl rfl) ih
  | operator hop _ ih => exact .operator hop ih
  | string hbody _ ih => exact .string hbody ih
  | bracket ho hinner _ _ ih => exact .bracket ho hinner ih
  | comment hx hmargin _ ih => exact .comment hx hmargin ih

/-! ## Reading woven texts -/

/-- **A woven text leaves the reader where it is.** -/
theorem read_code (h : Woven X nested operator w) (opened : List Char) :
    read (.code opened) w = .code opened := by
  induction h generalizing opened with
  | nil => rfl
  | plain hplain _ _ _ ih => rw [read_cons, step_code_of_isPlain hplain, ih]
  | @operator _ _ c _ hop _ ih =>
      rw [read_cons, step_code_of_isPlain (isPlain_of_isOperator hop), ih]
  | @string _ _ body w hbody _ ih =>
      have hmark : (Cursor.code opened).step '"' = .string '"' opened := rfl
      have hend : (Cursor.string '"' opened).step '"' = .code opened := rfl
      rw [List.cons_append, read_cons, hmark, read_append, (hbody.read_string opened).1, read_cons, hend,
        ih]
  | @bracket _ _ _ o v w ho _ _ ihv ihw =>
      rw [List.cons_append, read_cons, step_code_of_isOpening ho, read_append, ihv, read_cons,
        step_code_closing ho, ihw]
  | @comment _ x _ _ _ hmargin _ ih => rw [read_append, read_comment x hmargin, ih]

/-- A string literal is passed as a whole. -/
theorem outline_string {body : List Char} (hbody : Quoted body) (opened w : List Char) :
    outline (.code opened) ('"' :: body ++ '"' :: w) = outline (.code opened) w := by
  have hmark : (Cursor.code opened).step '"' = .string '"' opened := rfl
  have hend : (Cursor.string '"' opened).step '"' = .code opened := rfl
  obtain ⟨hread, houtline⟩ := hbody.read_string opened
  rw [List.cons_append, outline_cons, hmark, if_neg (by simp), List.nil_append, outline_append,
    houtline, hread, List.nil_append, outline_cons_of_ne (by simp), hend]

/-- Brackets are passed as a whole if their inside has no outline. -/
theorem outline_bracket {o : Char} (ho : isOpening o = true) (hv : Woven X nested operator v)
    {opened : List Char} (hinside : outline (.code (o :: opened)) v = []) (w : List Char) :
    outline (.code opened) (o :: v ++ closing o :: w) = outline (.code opened) w := by
  rw [List.cons_append, outline_cons, step_code_of_isOpening ho, if_neg (by simp), List.nil_append,
    outline_append, hinside, hv.read_code, List.nil_append, outline_cons_of_ne (by simp),
    step_code_closing ho]

/-- Between brackets a woven text has no outline. -/
theorem outline_of_ne_nil (h : Woven X nested operator w) {opened : List Char} (hopened : opened ≠ []) :
    outline (.code opened) w = [] := by
  have hne : Cursor.code opened ≠ .code [] := fun heq => hopened (Cursor.code.inj heq)
  induction h generalizing opened with
  | nil => rfl
  | plain hplain _ _ _ ih => rw [outline_cons_of_ne hne, step_code_of_isPlain hplain, ih hopened hne]
  | operator hop _ ih =>
      rw [outline_cons_of_ne hne, step_code_of_isPlain (isPlain_of_isOperator hop), ih hopened hne]
  | string hbody _ ih => rw [outline_string hbody, ih hopened hne]
  | bracket ho hv _ ihv ihw =>
      rw [outline_bracket ho hv (ihv (List.cons_ne_nil _ _) (by simp)), ihw hopened hne]
  | @comment _ x _ _ _ hmargin _ ih =>
      rw [outline_append, outline_comment_of_ne_nil x hmargin hopened, read_comment x hmargin,
        ih hopened hne, List.append_nil]

/-- **The outline of a woven text** consists of plain characters other than the line feed. -/
theorem of_mem_outline (h : Woven X false operator w) {c : Char} (hc : c ∈ outline (.code []) w) :
    isPlain c = true ∧ c ≠ '\n' := by
  -- the flag has to be a variable for the induction; it excludes comments
  generalize hnested : false = nested at h
  induction h with
  | nil => cases hc
  | @plain _ _ d w hplain hop hline _ ih =>
      rw [outline_cons, step_code_of_isPlain hplain, if_pos ⟨rfl, rfl⟩] at hc
      rcases List.mem_cons.mp hc with rfl | hc
      · exact ⟨hplain, hline.resolve_left (by rw [← hnested]; exact Bool.false_ne_true)⟩
      · exact ih hc hnested
  | @operator _ _ d w hop _ ih =>
      have hplain := isPlain_of_isOperator hop
      rw [outline_cons, step_code_of_isPlain hplain, if_pos ⟨rfl, rfl⟩] at hc
      rcases List.mem_cons.mp hc with rfl | hc
      · refine ⟨hplain, ?_⟩
        rintro rfl
        cases hop
      · exact ih hc hnested
  | string hbody _ ih =>
      rw [outline_string hbody] at hc
      exact ih hc hnested
  | bracket ho hv _ _ ihw =>
      rw [outline_bracket ho hv (hv.outline_of_ne_nil (List.cons_ne_nil _ _))] at hc
      exact ihw hc hnested
  | comment => cases hnested

/-- **The second flag is right**: it says whether the outline holds an operator. -/
theorem exists_isOperator_iff (h : Woven X false operator w) :
    (∃ c ∈ outline (.code []) w, isOperator c = true) ↔ operator = true := by
  -- as above, without comments
  generalize hnested : false = nested at h
  induction h with
  | nil => simp
  | @plain _ _ d w hplain hop _ _ ih =>
      rw [outline_cons, step_code_of_isPlain hplain, if_pos ⟨rfl, rfl⟩, List.singleton_append,
        List.exists_mem_cons_iff, hop, ih hnested]
      simp
  | @operator _ _ d w hop _ _ =>
      rw [outline_cons, step_code_of_isPlain (isPlain_of_isOperator hop), if_pos ⟨rfl, rfl⟩,
        List.singleton_append, List.exists_mem_cons_iff]
      exact ⟨fun _ => rfl, fun _ => Or.inl hop⟩
  | string hbody _ ih => rw [outline_string hbody, ih hnested]
  | bracket ho hv _ _ ihw =>
      rw [outline_bracket ho hv (hv.outline_of_ne_nil (List.cons_ne_nil _ _)), ihw hnested]
  | comment => cases hnested

end Woven

/-! ## Operators or not -/

variable {X : String → Prop} {nested : Bool}

/-- A text is woven, with an operator or without. -/
def Weaves (X : String → Prop) (nested : Bool) (cs : List Char) : Prop :=
  ∃ operator, Woven X nested operator cs

namespace Weaves

variable {v w : List Char}

/-- Nothing is woven. -/
theorem nil : Weaves X nested [] := ⟨false, .nil⟩

/-- Woven texts one after the other. -/
theorem append (hv : Weaves X nested v) (hw : Weaves X nested w) : Weaves X nested (v ++ w) := by
  obtain ⟨operator, hv⟩ := hv
  obtain ⟨operator', hw⟩ := hw
  exact ⟨operator || operator', hv.append hw⟩

/-- Woven text may stand between brackets. -/
theorem nest (h : Weaves X nested v) : Weaves X true v := h.imp fun _ => Woven.nest

/-- Brackets around woven text leave no operator outside. -/
theorem woven_bracket {o : Char} (ho : isOpening o = true) (hv : Weaves X true v) :
    Woven X nested false (o :: v ++ [closing o]) := by
  obtain ⟨operator, hv⟩ := hv
  exact .bracket ho hv .nil

/-- Brackets around woven text. -/
theorem bracket {o : Char} (ho : isOpening o = true) (hv : Weaves X true v) :
    Weaves X nested (o :: v ++ [closing o]) := ⟨false, woven_bracket ho hv⟩

end Weaves

end TypeScript

end ServiceBindings
