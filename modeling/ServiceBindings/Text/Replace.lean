/-! # Replacing part of a text

* `Chars.replaceAll pattern replacement` replaces the occurrences of a pattern from left to right;
  an occurrence begins only **after the end of the previous one**, and a replacement is not searched
  again.
* `Chars.replaceFirst` replaces the first occurrence alone.
* `Chars.occurs` says whether a pattern occurs at all. -/

namespace ServiceBindings

namespace Chars

/-- Replace the occurrences of `pattern` in a text whose first `skip` characters belong to an
occurrence that is already replaced. -/
def replaceAfter (pattern replacement : List Char) : Nat → List Char → List Char
  | _, [] => []
  | skip + 1, _ :: rest => replaceAfter pattern replacement skip rest
  | 0, c :: rest =>
      if pattern.isPrefixOf (c :: rest) then
        replacement ++ replaceAfter pattern replacement (pattern.length - 1) rest
      else
        c :: replaceAfter pattern replacement 0 rest

/-- Replace every occurrence of a non-empty pattern, from left to right. -/
def replaceAll (pattern replacement text : List Char) : List Char :=
  replaceAfter pattern replacement 0 text

@[simp] theorem replaceAll_nil (pattern replacement : List Char) :
    replaceAll pattern replacement [] = [] := rfl

/-- What belongs to an occurrence that is already replaced is passed over. -/
theorem replaceAfter_eq_drop (pattern replacement : List Char) (skip : Nat) (cs : List Char) :
    replaceAfter pattern replacement skip cs = replaceAll pattern replacement (cs.drop skip) := by
  induction skip generalizing cs with
  | zero => rfl
  | succ skip ih =>
      cases cs with
      | nil => rfl
      | cons c rest => exact ih rest

/-- An occurrence at the beginning is replaced. -/
theorem replaceAll_append {pattern : List Char} (hne : pattern ≠ []) (replacement rest : List Char) :
    replaceAll pattern replacement (pattern ++ rest) = replacement ++ replaceAll pattern replacement rest := by
  cases pattern with
  | nil => exact absurd rfl hne
  | cons c pattern =>
      have hprefix : (c :: pattern).isPrefixOf (c :: (pattern ++ rest)) = true :=
        List.isPrefixOf_iff_prefix.mpr (List.prefix_append (c :: pattern) rest)
      rw [List.cons_append, replaceAll, replaceAfter, if_pos hprefix, replaceAfter_eq_drop]
      simp

/-- A character that begins no occurrence stays. -/
theorem replaceAll_cons {pattern : List Char} {c : Char} {rest : List Char} (h : ¬ pattern <+: c :: rest)
    (replacement : List Char) :
    replaceAll pattern replacement (c :: rest) = c :: replaceAll pattern replacement rest := by
  rw [replaceAll, replaceAfter, if_neg fun hprefix => h (List.isPrefixOf_iff_prefix.mp hprefix)]
  rfl

/-- A character other than the first of a pattern stays. -/
theorem replaceAll_cons_of_ne {first c : Char} (h : c ≠ first) (pattern replacement rest : List Char) :
    replaceAll (first :: pattern) replacement (c :: rest) = c :: replaceAll (first :: pattern) replacement rest := by
  refine replaceAll_cons ?_ replacement
  rintro ⟨tail, htail⟩
  exact h (List.cons.inj htail).1.symm

/-- Induction along the occurrences of a pattern, from left to right. -/
@[elab_as_elim]
theorem replaceInduction {pattern : List Char} (hne : pattern ≠ []) {P : List Char → Prop} (nil : P [])
    (occurrence : ∀ rest, P rest → P (pattern ++ rest))
    (char : ∀ c rest, ¬ pattern <+: c :: rest → P rest → P (c :: rest)) (cs : List Char) : P cs := by
  induction hlength : cs.length using Nat.strongRecOn generalizing cs with
  | ind n ih =>
      cases cs with
      | nil => exact nil
      | cons c rest =>
          by_cases hprefix : pattern <+: c :: rest
          · obtain ⟨tail, htail⟩ := hprefix
            have hpos := List.length_pos_iff.mpr hne
            have hsum := congrArg List.length htail
            rw [List.length_append] at hsum
            rw [← htail]
            exact occurrence tail (ih tail.length (by omega) tail rfl)
          · rw [List.length_cons] at hlength
            exact char c rest hprefix (ih rest.length (by omega) rest rfl)

/-- Replace the first occurrence of a pattern. -/
def replaceFirst (pattern replacement : List Char) : List Char → List Char
  | [] => if pattern.isEmpty then replacement else []
  | c :: rest =>
      if pattern.isPrefixOf (c :: rest) then
        replacement ++ (c :: rest).drop pattern.length
      else
        c :: replaceFirst pattern replacement rest

/-- Whether a pattern occurs in a text. -/
def occurs (pattern : List Char) : List Char → Bool
  | [] => pattern.isEmpty
  | c :: rest => pattern.isPrefixOf (c :: rest) || occurs pattern rest

end Chars

namespace Text

/-- Replace every occurrence of a non-empty pattern, from left to right. -/
def replaceAll (pattern replacement text : String) : String :=
  .ofList (Chars.replaceAll pattern.toList replacement.toList text.toList)

/-- Replace the first occurrence of a pattern. -/
def replaceFirst (pattern replacement text : String) : String :=
  .ofList (Chars.replaceFirst pattern.toList replacement.toList text.toList)

/-- Whether a pattern occurs in a text. -/
def occurs (pattern text : String) : Bool :=
  Chars.occurs pattern.toList text.toList

/-- Whether a text begins with another. -/
def beginsWith (start text : String) : Bool :=
  start.toList.isPrefixOf text.toList

@[simp] theorem toList_replaceAll (pattern replacement text : String) :
    (replaceAll pattern replacement text).toList
      = Chars.replaceAll pattern.toList replacement.toList text.toList := by
  simp [replaceAll]

end Text

end ServiceBindings
