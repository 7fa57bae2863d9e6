import ServiceBindings.Text.CapitalTable

/-! # Capital letters

* `capital` is the upper-case form of a character, which can be **several characters long** (`ß` has
  the capital `SS`).
* `Text.upper` capitalises every character of a text, `Text.capitalize` the first one alone. -/

namespace ServiceBindings

/-- The capital of a character outside ASCII, found in the tables; a character that they do not name
is its own capital. -/
def capitalOf (code : Nat) : List Nat :=
  match Text.capitalExpansions.lookup code with
  | some codes => codes
  | none =>
      match Text.capitalRuns.find? fun (first, last, step, _) =>
          first ≤ code && code ≤ last && (code - first) % step == 0 with
      | some (_, _, _, distance) => [((code : Int) + distance).toNat]
      | none => [code]

/-- The upper-case form of a character. -/
def capital (c : Char) : List Char :=
  if c.toNat < 128 then [c.toUpper] else (capitalOf c.toNat).map Char.ofNat

/-! ## What capitals are made of -/

/-- The capitals that are several characters long are made of ASCII capitals and of characters beyond ASCII. -/
theorem capitalExpansions_codes : ∀ expansion ∈ Text.capitalExpansions,
    expansion.2 ≠ [] ∧ ∀ code ∈ expansion.2, 65 ≤ code ∧ code ≤ 90 ∨ 128 ≤ code := by decide

/-- The capitals of a run beyond ASCII are ASCII capitals or lie beyond ASCII. -/
theorem capitalRuns_codes : ∀ run ∈ Text.capitalRuns, 128 ≤ run.2.1 →
    65 ≤ run.1 + run.2.2.2 ∧ run.2.1 + run.2.2.2 ≤ 90 ∨ 128 ≤ run.1 + run.2.2.2 := by decide +kernel

/-- What is found among the capitals that are several characters long. -/
theorem codes_of_lookup {n : Nat} {codes : List Nat} (h : Text.capitalExpansions.lookup n = some codes) :
    codes ≠ [] ∧ ∀ code ∈ codes, 65 ≤ code ∧ code ≤ 90 ∨ 128 ≤ code := by
  obtain ⟨before, behind, hexpansions, -⟩ := List.lookup_eq_some_iff.mp h
  have hmem : (n, codes) ∈ Text.capitalExpansions := by
    rw [hexpansions]
    exact List.mem_append_right _ List.mem_cons_self
  exact capitalExpansions_codes _ hmem

/-- Beyond ASCII, a capital is made of ASCII capitals and of characters beyond ASCII. -/
theorem mem_capitalOf {n code : Nat} (hn : 128 ≤ n) (h : code ∈ capitalOf n) :
    65 ≤ code ∧ code ≤ 90 ∨ 128 ≤ code := by
  rw [capitalOf] at h
  split at h
  · next codes hlookup => exact (codes_of_lookup hlookup).2 code h
  · split at h
    · next first last step distance hfind =>
        have hrun := capitalRuns_codes _ (List.mem_of_find?_eq_some hfind)
        have hin := List.find?_some hfind
        simp only [Bool.and_eq_true, decide_eq_true_eq] at hin
        dsimp only at hrun
        rw [List.mem_singleton.mp h]
        omega
    · rw [List.mem_singleton.mp h]
      exact .inr hn

/-- A capital has at least one character. -/
theorem capital_ne_nil (c : Char) : capital c ≠ [] := by
  rw [capital]
  split
  · exact List.cons_ne_nil _ _
  · rw [Ne, List.map_eq_nil_iff, capitalOf]
    split
    · next codes hlookup => exact (codes_of_lookup hlookup).1
    · split <;> exact List.cons_ne_nil _ _

/-- An ASCII character is its own capital, or has an ASCII capital. -/
theorem toUpper_ascii : ∀ n < 128, (Char.ofNat n).toUpper = Char.ofNat n ∨
    65 ≤ (Char.ofNat n).toUpper.toNat ∧ (Char.ofNat n).toUpper.toNat ≤ 90 := by decide

/-- **An ASCII character that is no capital letter stands in no capital but its own.** -/
theorem eq_of_mem_capital {c d : Char} (h : d ∈ capital c) (hascii : 0 < d.toNat ∧ d.toNat < 128)
    (hletter : ¬ (65 ≤ d.toNat ∧ d.toNat ≤ 90)) : d = c := by
  rw [capital] at h
  split at h
  · next hc =>
      have hupper := toUpper_ascii c.toNat hc
      rw [Char.ofNat_toNat, ← List.mem_singleton.mp h] at hupper
      exact hupper.resolve_right hletter
  · next hc =>
      obtain ⟨code, hcode, rfl⟩ := List.mem_map.mp h
      have hcodes := mem_capitalOf (Nat.le_of_not_lt hc) hcode
      have hvalue : (Char.ofNat code).toNat = code ∨ (Char.ofNat code).toNat = 0 := by
        by_cases hvalid : code.isValidChar
        · rw [Char.ofNat, dif_pos hvalid]
          exact .inl rfl
        · rw [Char.ofNat, dif_neg hvalid]
          exact .inr rfl
      omega

namespace Chars

/-- Capitalise every character. -/
def upper (cs : List Char) : List Char := cs.flatMap capital

/-- Capitalise the first character. -/
def capitalize : List Char → List Char
  | [] => []
  | c :: rest => capital c ++ rest

@[simp] theorem capitalize_nil : capitalize [] = [] := rfl

@[simp] theorem upper_nil : upper [] = [] := rfl

end Chars

namespace Text

/-- Capitalise every character of a text. -/
def upper (text : String) : String := .ofList (Chars.upper text.toList)

/-- The lower-case form of the ASCII letters of a text; other characters stay. -/
def asciiLower (text : String) : String := .ofList (text.toList.map Char.toLower)

end Text

end ServiceBindings
