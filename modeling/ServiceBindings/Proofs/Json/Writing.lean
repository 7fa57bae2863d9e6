import Mathlib.Algebra.Group.Nat.Defs
import Mathlib.Data.List.Basic
import Mathlib.Data.List.TakeWhile
import Mathlib.Tactic.SplitIfs
import ServiceBindings.Json.Literal
import ServiceBindings.Json.Reader

/-! # Reading what was written as a JSON literal

`Json.literal?` writes scalars, and `Json.read?` reads JSON texts. **Reading undoes writing** for the scalars
that have an exact literal, null, flags, whole numbers and texts (`Json.exists_literal?_eq`).

* The digits of a number read back as that number in every base up to sixteen, also behind zeros
  (`natOfDigitsFrom?_toDigits`, `natOfDigits?_hex`).
* Whatever is written for a character reads back as its sixteen-bit units
  (`Json.scanStringFrom_escapeChar`), and the units of a character make that character whatever stands behind
  them (`Json.charsOfUnits_unitsOf`). So a string reads back as its text (`Json.scanString_flatMap`). -/

namespace ServiceBindings

/-! ## Digits -/

/-- A digit reads back as its value. -/
theorem digitValue?_digitChar {d : Nat} (h : d < 16) : digitValue? (Nat.digitChar d) = some d := by
  have hall : ∀ d < 16, digitValue? (Nat.digitChar d) = some d := by decide
  exact hall d h

/-- Digits are read on behind those that are already read. -/
theorem natOfDigitsFrom?_append (base n : Nat) (cs ds : List Char) :
    natOfDigitsFrom? base n (cs ++ ds)
      = (natOfDigitsFrom? base n cs).bind fun m => natOfDigitsFrom? base m ds := by
  induction cs generalizing n with
  | nil => rfl
  | cons c cs ih =>
      rw [List.cons_append, natOfDigitsFrom?, natOfDigitsFrom?]
      cases digitValue? c with
      | none => rfl
      | some d =>
          dsimp only
          split
          · exact ih _
          · rfl

/-- **The digits of a number read back as the number.** -/
theorem natOfDigitsFrom?_toDigits {base : Nat} (hbase : 1 < base) (hsixteen : base ≤ 16) (n : Nat) :
    natOfDigitsFrom? base 0 (Nat.toDigits base n) = some n := by
  have hlast : ∀ m d, d < base → natOfDigitsFrom? base m [Nat.digitChar d] = some (m * base + d) := by
    intro m d hd
    simp [natOfDigitsFrom?, digitValue?_digitChar (Nat.lt_of_lt_of_le hd hsixteen), hd]
  induction n using Nat.strongRecOn with
  | ind n ih =>
      rw [Nat.toDigits_eq_if hbase]
      split
      · next hn => rw [hlast 0 n hn, Nat.zero_mul, Nat.zero_add]
      · rw [natOfDigitsFrom?_append, ih (n / base) (Nat.div_lt_self (by omega) hbase), Option.bind_some,
          hlast _ _ (Nat.mod_lt n (by omega)), Nat.div_add_mod']

/-- Zeros in front of digits do not count. -/
theorem natOfDigitsFrom?_zeros {base : Nat} (hbase : 0 < base) (count : Nat) (ds : List Char) :
    natOfDigitsFrom? base 0 (List.replicate count '0' ++ ds) = natOfDigitsFrom? base 0 ds := by
  induction count with
  | zero => rfl
  | succ count ih =>
      have hzero : digitValue? '0' = some 0 := rfl
      rw [List.replicate_succ, List.cons_append, natOfDigitsFrom?, hzero]
      dsimp only
      rw [if_pos hbase, Nat.zero_mul, Nat.zero_add, ih]

/-- One or more digits are a number. -/
theorem natOfDigits?_of_ne_nil {base : Nat} {digits : List Char} (h : digits ≠ []) :
    natOfDigits? base digits = natOfDigitsFrom? base 0 digits := by
  rw [natOfDigits?, if_neg (by simpa using h)]

/-- Hexadecimal digits read back as the number. -/
theorem natOfDigits?_hex (width n : Nat) : natOfDigits? 16 (Text.hex width n) = some n := by
  have hne : Text.hex width n ≠ [] := List.append_ne_nil_of_right_ne_nil _ Nat.toDigits_ne_nil
  rw [natOfDigits?_of_ne_nil hne, Text.hex, natOfDigitsFrom?_zeros (by decide),
    natOfDigitsFrom?_toDigits (by decide) (by decide)]

/-- Decimal digits read back as the number. -/
theorem natOfDecimal_toDigits (n : Nat) : natOfDecimal (Nat.toDigits 10 n) = n := by
  rw [natOfDecimal, natOfDigits?_of_ne_nil Nat.toDigits_ne_nil,
    natOfDigitsFrom?_toDigits (by decide) (by decide), Option.getD_some]

/-- A number that is not too large is written in exactly the given number of hexadecimal digits. -/
theorem length_hex {width n : Nat} (hwidth : 0 < width) (h : n < 16 ^ width) :
    (Text.hex width n).length = width := by
  have hlength := (Nat.length_toDigits_le_iff (by decide) hwidth).mpr h
  rw [Text.hex, List.length_append, List.length_replicate]
  omega

/-- The digits of a number begin with a zero only if the number is zero. -/
theorem head?_toDigits {n : Nat} (h : 0 < n) : (Nat.toDigits 10 n).head? ≠ some '0' := by
  induction n using Nat.strongRecOn with
  | ind n ih =>
      rw [Nat.toDigits_eq_if (by decide)]
      split
      · rw [List.head?_singleton, ne_eq, Option.some.injEq, Nat.digitChar_eq_zero]
        omega
      · rw [List.head?_append_of_ne_nil _ Nat.toDigits_ne_nil]
        exact ih (n / 10) (Nat.div_lt_self h (by decide)) (by omega)

namespace Json

variable {surrogates : SurrogateBlock}

/-! ## Strings -/

/-- The sixteen-bit units of a character. -/
def unitsOf (c : Char) : List Nat :=
  if c.toNat < 0x10000 then [c.toNat]
  else [0xD800 + (c.toNat - 0x10000) / 0x400, 0xDC00 + (c.toNat - 0x10000) % 0x400]

/-- **The units of a character make the character**, whatever units stand behind them. -/
theorem charsOfUnits_unitsOf (c : Char) (rest : List Nat) :
    charsOfUnits surrogates (unitsOf c ++ rest) = c :: charsOfUnits surrogates rest := by
  have hvalid : c.toNat < 0xD800 ∨ 0xDFFF < c.toNat ∧ c.toNat < 0x110000 := c.valid
  rw [unitsOf]
  split
  -- a unit that stands alone is no surrogate, so it makes no pair with the next one
  · have halone : charOfUnit surrogates c.toNat = c := by
      have hplain : ¬ isSurrogate c.toNat = true := by
        rw [isSurrogate, decide_eq_true_eq]
        omega
      rw [charOfUnit, if_neg hplain, Char.ofNat_toNat]
    cases rest with
    | nil =>
        show [charOfUnit surrogates c.toNat] = [c]
        rw [halone]
    | cons low rest => rw [List.singleton_append, charsOfUnits, if_neg (by omega), halone]
  -- two units are a pair, from which the number of the character comes back
  · have hnumber : 0x10000 + (0xD800 + (c.toNat - 0x10000) / 0x400 - 0xD800) * 0x400 +
        (0xDC00 + (c.toNat - 0x10000) % 0x400 - 0xDC00) = c.toNat := by omega
    rw [List.cons_append, List.cons_append, List.nil_append, charsOfUnits, if_pos (by omega), hnumber,
      Char.ofNat_toNat]

/-- The units of the characters of a text make the text. -/
theorem charsOfUnits_flatMap (cs : List Char) : charsOfUnits surrogates (cs.flatMap unitsOf) = cs := by
  induction cs with
  | nil => rfl
  | cons c cs ih => rw [List.flatMap_cons, charsOfUnits_unitsOf, ih]

/-- The escape of a unit reads back as the unit. -/
theorem scanStringFrom_escapeUnit {unit : Nat} (h : unit < 0x10000) (units : List Nat) (taken : Nat)
    (rest : List Char) : scanStringFrom units taken (escapeUnit unit ++ rest)
      = scanStringFrom (unit :: units) (taken + (escapeUnit unit).length) rest := by
  have hlength : (Text.hex 4 unit).length = 4 := length_hex (by decide) h
  have hvalue := natOfDigits?_hex 4 unit
  rw [escapeUnit, List.length_cons, List.length_cons, hlength]
  match hhex : Text.hex 4 unit, hlength with
  | [a, b, c, d], _ =>
      rw [hhex] at hvalue
      show scanStringFrom units taken ('\\' :: 'u' :: a :: b :: c :: d :: rest) = _
      rw [scanStringFrom, hvalue]

/-- **What is written for a character reads back as its units.** -/
theorem scanStringFrom_escapeChar (c : Char) (units : List Nat) (taken : Nat) (rest : List Char) :
    scanStringFrom units taken (escapeChar c ++ rest)
      = scanStringFrom ((unitsOf c).reverse ++ units) (taken + (escapeChar c).length) rest := by
  unfold escapeChar
  split_ifs with hmark hslash hfeed hreturn htab hback hform hprint hwide
  · subst hmark
    rfl
  · subst hslash
    rfl
  · subst hfeed
    rfl
  · subst hreturn
    rfl
  · subst htab
    rfl
  · subst hback
    rfl
  · subst hform
    rfl
  -- a printable character stands for itself
  · have hunits : unitsOf c = [c.toNat] := if_pos (by omega)
    have hplain : ¬ (c.toNat < 32 ∨ c = '\\') := by
      rintro (hcontrol | hc)
      · omega
      · exact hslash hc
    rw [hunits, List.singleton_append, scanStringFrom.eq_5, if_neg hplain]
    · rfl
    · exact hmark
    · intro _ _ _ _ _ hc
      exact absurd hc hslash
    · intro _ _ hc
      exact absurd hc hslash
  · have hunits : unitsOf c = [c.toNat] := if_pos hwide
    rw [hunits, scanStringFrom_escapeUnit hwide]
    rfl
  -- beyond the sixteen-bit range there are two units, each with its escape
  · have hvalid : c.toNat < 0xD800 ∨ 0xDFFF < c.toNat ∧ c.toNat < 0x110000 := c.valid
    dsimp only
    rw [unitsOf, if_neg hwide, List.append_assoc, scanStringFrom_escapeUnit (by omega),
      scanStringFrom_escapeUnit (by omega), List.length_append, Nat.add_assoc]
    rfl

/-- What is written for a text reads back as its units. -/
theorem scanStringFrom_flatMap (cs : List Char) (units : List Nat) (taken : Nat) (rest : List Char) :
    scanStringFrom units taken (cs.flatMap escapeChar ++ rest)
      = scanStringFrom ((cs.flatMap unitsOf).reverse ++ units) (taken + (cs.flatMap escapeChar).length)
          rest := by
  induction cs generalizing units taken with
  | nil => rfl
  | cons c cs ih =>
      rw [List.flatMap_cons, List.flatMap_cons, List.append_assoc, scanStringFrom_escapeChar, ih,
        List.reverse_append, List.append_assoc, List.length_append, Nat.add_assoc]

/-- **A string reads back as its text**, up to its closing mark. -/
theorem scanString_flatMap (cs rest : List Char) :
    scanString surrogates (cs.flatMap escapeChar ++ '"' :: rest)
      = some (.ofList cs, (cs.flatMap escapeChar).length + 1) := by
  rw [scanString, scanStringFrom_flatMap, scanStringFrom, Option.map_some, List.append_nil]
  dsimp only
  rw [List.reverse_reverse, charsOfUnits_flatMap, Nat.zero_add]

/-! ## Texts of one token -/

/-- Passing over the characters of a token. -/
theorem tokensAfter?_length (done : List Token) (cs : List Char) :
    tokensAfter? surrogates done cs.length cs = some done.reverse := by
  induction cs with
  | nil => rw [List.length_nil, tokensAfter?]
  | cons c cs ih => rw [List.length_cons, tokensAfter?, ih]

/-- A text that is the token of a scalar is read as the scalar. -/
theorem read?_of_scanToken {text : String} {c : Char} {cs : List Char} {s : Scalar}
    (htext : text.toList = c :: cs) (hspace : isSpace c = false)
    (h : scanToken .standard (c :: cs) = some (.scalar s, cs.length + 1)) : read? text = some (.scalar s) := by
  have htokens : tokens? .standard text = some [.scalar s] := by
    rw [tokens?, htext, tokensAfter?, if_neg (by rw [hspace]; exact Bool.false_ne_true), h]
    dsimp only
    rw [Nat.add_sub_cancel, tokensAfter?_length]
    rfl
  rw [read?, htokens]
  rfl

/-- **A string reads back as its text.** -/
theorem read?_quote (text : String) : read? (quote text) = some (.text text) := by
  have hlist : (quote text).toList = '"' :: (text.toList.flatMap escapeChar ++ ['"']) := by
    rw [toList_quote, quoteChars, List.cons_append]
  refine read?_of_scanToken hlist rfl ?_
  rw [scanToken, scanString_flatMap, Option.map_some, String.ofList_toList, List.length_append]
  rfl

/-! ## Whole numbers -/

/-- The digits of a number are taken as a whole. -/
theorem wholeDigits_toDigits (n : Nat) : wholeDigits (Nat.toDigits 10 n) = Nat.toDigits 10 n := by
  rcases Nat.eq_zero_or_pos n with rfl | hpos
  · rfl
  · unfold wholeDigits
    split
    · next heq => exact absurd (by rw [heq]; rfl) (head?_toDigits hpos)
    · rw [leadingDigits, List.takeWhile_eq_self_iff]
      exact fun c => Nat.isDigit_of_mem_toDigits (by decide) (by decide)

/-- Digits alone are a whole number. -/
theorem scanMagnitude_toDigits (negative : Bool) (n : Nat) : scanMagnitude negative (Nat.toDigits 10 n)
    = some (.int (if negative then -n else n), (Nat.toDigits 10 n).length) := by
  have hne : (Nat.toDigits 10 n).isEmpty = false := by
    rw [List.isEmpty_eq_false_iff]
    exact Nat.toDigits_ne_nil
  simp [scanMagnitude, wholeDigits_toDigits, hne, fractionDigits, scanExponent, natOfDecimal_toDigits]

/-- A text begins like a number: with a digit, perhaps behind a minus sign. -/
def BeginsNumber (cs : List Char) : Prop :=
  ∃ d rest, d.isDigit = true ∧ (cs = d :: rest ∨ cs = '-' :: d :: rest)

/-- A digit is no other character. -/
theorem ne_of_isDigit {c d : Char} (hc : c.isDigit = true) (hd : d.isDigit = false) : c ≠ d := by
  rintro rfl
  rw [hc] at hd
  cases hd

/-- A digit is no white space. -/
theorem isSpace_of_isDigit {c : Char} (h : c.isDigit = true) : isSpace c = false := by
  have hspace : c ≠ ' ' := ne_of_isDigit h rfl
  have htab : c ≠ '\t' := ne_of_isDigit h rfl
  have hfeed : c ≠ '\n' := ne_of_isDigit h rfl
  have hreturn : c ≠ '\r' := ne_of_isDigit h rfl
  simp [isSpace, hspace, htab, hfeed, hreturn]

/-- No name begins like a number. -/
theorem scanLiteral_eq_scanNumber {cs : List Char} (h : BeginsNumber cs) :
    scanLiteral cs = scanNumber cs := by
  obtain ⟨d, rest, hdigit, hcs⟩ := h
  have hnone : ∀ entry ∈ names, ¬ entry.1.isPrefixOf cs = true := by
    have hn : 'n' ≠ d := (ne_of_isDigit hdigit rfl).symm
    have ht : 't' ≠ d := (ne_of_isDigit hdigit rfl).symm
    have hf : 'f' ≠ d := (ne_of_isDigit hdigit rfl).symm
    have hN : 'N' ≠ d := (ne_of_isDigit hdigit rfl).symm
    have hI : 'I' ≠ d := (ne_of_isDigit hdigit rfl).symm
    have hminus : '-' ≠ d := (ne_of_isDigit hdigit rfl).symm
    rcases hcs with rfl | rfl <;> simp [names, hn, ht, hf, hN, hI, hminus]
  unfold scanLiteral
  split
  · next heq => exact absurd (List.find?_some heq) (hnone _ (List.mem_of_find?_eq_some heq))
  · rfl

/-- A text that begins like a number is read as one. -/
theorem scanToken_of_beginsNumber {cs : List Char} (h : BeginsNumber cs) :
    scanToken surrogates cs = (scanNumber cs).map fun (s, taken) => (.scalar s, taken) := by
  rw [← scanLiteral_eq_scanNumber h]
  obtain ⟨d, rest, hdigit, rfl | rfl⟩ := h
  · unfold scanToken
    -- a digit is none of the characters that are tokens or begin a string
    split <;> first | rfl | (next heq => cases heq <;> cases hdigit)
  · rfl

/-- The digits of a number begin like one. -/
theorem exists_cons_toDigits (n : Nat) :
    ∃ d rest, d.isDigit = true ∧ Nat.toDigits 10 n = d :: rest := by
  obtain ⟨d, rest, heq⟩ := List.exists_cons_of_ne_nil (Nat.toDigits_ne_nil (n := n) (b := 10))
  have hmem : d ∈ Nat.toDigits 10 n := heq ▸ List.mem_cons_self
  exact ⟨d, rest, Nat.isDigit_of_mem_toDigits (by decide) (by decide) hmem, heq⟩

/-- Digits without a sign are read as a number. -/
theorem scanNumber_toDigits (n : Nat) :
    scanNumber (Nat.toDigits 10 n) = some (.int n, (Nat.toDigits 10 n).length) := by
  obtain ⟨d, rest, hdigit, heq⟩ := exists_cons_toDigits n
  have hmagnitude : scanNumber (d :: rest) = scanMagnitude false (d :: rest) := by
    unfold scanNumber
    split
    · next heq =>
        cases heq
        cases hdigit
    · rfl
  rw [heq, hmagnitude, ← heq, scanMagnitude_toDigits]
  rfl

/-- The characters of a whole number: its digits, behind a minus sign if it is negative. -/
theorem toList_toString_int (n : Int) : (toString n).toList
    = if 0 ≤ n then Nat.toDigits 10 n.toNat else '-' :: Nat.toDigits 10 (-n).toNat := by
  rw [Int.toString_eq_repr, Int.repr_eq_if]
  split
  · rw [Nat.toList_repr]
  · rw [String.toList_append, Nat.toList_repr]
    rfl

/-- **A whole number reads back.** -/
theorem read?_toString (n : Int) : read? (toString n) = some (.scalar (.int n)) := by
  have hlist := toList_toString_int n
  split at hlist
  · next hsign =>
      obtain ⟨d, rest, hdigit, heq⟩ := exists_cons_toDigits n.toNat
      have hlength : (Nat.toDigits 10 n.toNat).length = rest.length + 1 := by rw [heq, List.length_cons]
      refine read?_of_scanToken (hlist.trans heq) (isSpace_of_isDigit hdigit) ?_
      rw [scanToken_of_beginsNumber ⟨d, rest, hdigit, .inl rfl⟩, ← heq, scanNumber_toDigits,
        Int.toNat_of_nonneg hsign, hlength]
      rfl
  · next hsign =>
      obtain ⟨d, rest, hdigit, heq⟩ := exists_cons_toDigits (-n).toNat
      refine read?_of_scanToken hlist rfl ?_
      have hvalue : -(((-n).toNat : Nat) : Int) = n := by omega
      rw [scanToken_of_beginsNumber ⟨d, rest, hdigit, .inr (by rw [heq])⟩, scanNumber,
        scanMagnitude_toDigits, if_pos rfl, hvalue]
      rfl

/-! ## Literals -/

/-- A scalar whose literal is exact: null, a flag, a whole number or a text. -/
inductive IsExact : Scalar → Prop where
  /-- Null. -/
  | null : IsExact .null
  /-- A flag. -/
  | flag (value : Bool) : IsExact (.flag value)
  /-- A whole number. -/
  | int (value : Int) : IsExact (.int value)
  /-- A text. -/
  | text (value : String) : IsExact (.text value)

/-- **Reading undoes writing**: a scalar with an exact literal reads back. -/
theorem exists_literal?_eq {s : Scalar} (h : IsExact s) :
    ∃ text, literal? s = some text ∧ read? text = some (.scalar s) := by
  cases h with
  | null => exact ⟨"null", rfl, rfl⟩
  | flag value => cases value <;> exact ⟨_, rfl, rfl⟩
  | int value => exact ⟨_, rfl, read?_toString value⟩
  | text value => exact ⟨_, rfl, read?_quote value⟩

end Json

end ServiceBindings
