import ServiceBindings.Proofs.Json.Writing
import ServiceBindings.Proofs.TypeScript.Lexis

/-! # Template literals

The value of a template literal (`TypeScript.Evaluates`), read from behind its opening back quote up to the
first back quote that is not escaped. A text is a sequence of sixteen-bit units, in which most characters of a
literal stand for themselves. There are four exceptions: a backslash begins an escape (`TypeScript.escape?`), a
carriage return counts as a line feed, a back quote ends the literal, and a dollar sign before a brace opens an
interpolation. **The only interpolation that has a value here is that of the identifier.**

A literal ends in one place and has one value (`Evaluates.unique`). Nothing that an escape stands for is longer
than the escape itself (`length_le_of_escape?`), so the value tells whether characters were escaped. -/

namespace ServiceBindings

namespace TypeScript

/-! ## Escapes -/

/-- The sixteen-bit units of a text. -/
def units (cs : List Char) : List Nat := cs.flatMap Json.unitsOf

/-- The units that a letter behind a backslash stands for. -/
def letterEscapes : List (Char × Nat) :=
  [('\'', 39), ('"', 34), ('\\', 92), ('b', 8), ('f', 12), ('n', 10), ('r', 13), ('t', 9), ('v', 11)]

/-- The unit that a given number of hexadecimal digits stand for, and the text behind them. -/
def unitOfDigits? (count : Nat) (cs : List Char) : Option (List Nat × List Char) :=
  if count ≤ cs.length then (natOfDigits? 16 (cs.take count)).map fun n => ([n], cs.drop count) else none

/-- The units of the character whose number stands before a closing brace, and the text behind it. -/
def unitsOfNumber? (cs : List Char) : Option (List Nat × List Char) :=
  match natOfDigits? 16 (cs.takeWhile (· != '\x7d')), cs.dropWhile (· != '\x7d') with
  | some n, _ :: rest =>
      if n < 0x10000 then some ([n], rest)
      else if n < 0x110000 then some (Json.unitsOf (Char.ofNat n), rest)
      else none
  | _, _ => none

/-- The units that the text behind a backslash stands for, and the text behind the escape. -/
def escape? : List Char → Option (List Nat × List Char)
  | [] => none
  | '\r' :: '\n' :: rest => some ([], rest)
  | 'u' :: '\x7b' :: rest => unitsOfNumber? rest
  | 'u' :: rest => unitOfDigits? 4 rest
  | 'x' :: rest => unitOfDigits? 2 rest
  | '0' :: rest => if rest.head?.any Char.isDigit then none else some ([0], rest)
  | c :: rest =>
      if isLineTerminator c then some ([], rest)
      else if c.isDigit then none
      else match letterEscapes.lookup c with
        | some unit => some ([unit], rest)
        | none => some (Json.unitsOf c, rest)

theorem units_append (cs ds : List Char) : units (cs ++ ds) = units cs ++ units ds := List.flatMap_append

theorem units_cons (c : Char) (cs : List Char) : units (c :: cs) = Json.unitsOf c ++ units cs :=
  List.flatMap_cons

/-- A character has one unit or two. -/
theorem length_unitsOf (c : Char) : 1 ≤ (Json.unitsOf c).length ∧ (Json.unitsOf c).length ≤ 2 := by
  rw [Json.unitsOf]
  split
  · exact ⟨Nat.le_refl 1, Nat.le_succ 1⟩
  · exact ⟨Nat.le_succ 1, Nat.le_refl 2⟩

/-- A text has at least as many units as characters. -/
theorem length_le_length_units (cs : List Char) : cs.length ≤ (units cs).length := by
  induction cs with
  | nil => exact Nat.le_refl 0
  | cons c cs ih =>
      have hc := (length_unitsOf c).1
      rw [units_cons, List.length_append, List.length_cons]
      omega

/-- Hexadecimal digits stand for one unit. -/
theorem exists_of_unitOfDigits? {count : Nat} {cs rest : List Char} {us : List Nat}
    (h : unitOfDigits? count cs = some (us, rest)) : ∃ taken, cs = taken ++ rest ∧ us.length = 1 := by
  rw [unitOfDigits?] at h
  split at h
  · obtain ⟨n, -, heq⟩ := Option.map_eq_some_iff.mp h
    cases heq
    exact ⟨cs.take count, (List.take_append_drop count cs).symm, rfl⟩
  · cases h

/-- The number of a character stands for one unit or two. -/
theorem exists_of_unitsOfNumber? {cs rest : List Char} {us : List Nat}
    (h : unitsOfNumber? cs = some (us, rest)) : ∃ taken, cs = taken ++ rest ∧ us.length ≤ 2 := by
  rw [unitsOfNumber?] at h
  split at h
  · next n brace behind hn hbehind =>
      have hcs : cs = cs.takeWhile (· != '\x7d') ++ [brace] ++ behind := by
        rw [List.append_assoc, List.singleton_append, ← hbehind, List.takeWhile_append_dropWhile]
      split_ifs at h
      · cases h
        exact ⟨_, hcs, Nat.le_succ 1⟩
      · cases h
        exact ⟨_, hcs, (length_unitsOf _).2⟩
  · cases h

/-- **An escape stands for no more units than it is written with.** -/
theorem length_le_of_escape? {source rest : List Char} {us : List Nat} (h : escape? source = some (us, rest)) :
    ∃ taken, source = taken ++ rest ∧ us.length ≤ (units taken).length := by
  have hlong : ∀ {taken : List Char}, us.length ≤ taken.length → us.length ≤ (units taken).length :=
    fun {taken} h => h.trans (length_le_length_units taken)
  rw [escape?.eq_def] at h
  split at h
  · cases h
  -- the line ends behind the backslash
  · cases h
    exact ⟨['\r', '\n'], rfl, Nat.zero_le _⟩
  · obtain ⟨taken, rfl, hus⟩ := exists_of_unitsOfNumber? h
    refine ⟨'u' :: '\x7b' :: taken, rfl, hlong ?_⟩
    rw [List.length_cons, List.length_cons]
    omega
  · obtain ⟨taken, rfl, hus⟩ := exists_of_unitOfDigits? h
    refine ⟨'u' :: taken, rfl, hlong ?_⟩
    rw [List.length_cons]
    omega
  · obtain ⟨taken, rfl, hus⟩ := exists_of_unitOfDigits? h
    refine ⟨'x' :: taken, rfl, hlong ?_⟩
    rw [List.length_cons]
    omega
  · split at h
    · cases h
    · cases h
      exact ⟨['0'], rfl, Nat.le_refl 1⟩
  -- one character behind the backslash
  · split_ifs at h
    · cases h
      exact ⟨[_], rfl, Nat.zero_le _⟩
    · split at h
      · cases h
        exact ⟨[_], rfl, hlong (Nat.le_refl 1)⟩
      · cases h
        exact ⟨[_], rfl, by rw [units_cons, List.length_append]; exact Nat.le_add_right _ _⟩

/-! ## Values -/

/-- A text, read from behind the opening back quote of a template literal, has a value, and a rest behind the
closing one. The identifier is bound to a given text. -/
inductive Evaluates (id : String) : List Char → List Nat → List Char → Prop where
  /-- The back quote that closes the literal. -/
  | close {rest : List Char} : Evaluates id ('`' :: rest) [] rest
  /-- The interpolation of the identifier. -/
  | interpolation {source rest : List Char} {us : List Nat} :
      Evaluates id source us rest →
        Evaluates id ('$' :: '\x7b' :: 'i' :: 'd' :: '\x7d' :: source) (units id.toList ++ us) rest
  /-- A dollar sign that opens no interpolation. -/
  | dollar {source rest : List Char} {us : List Nat} :
      source.head? ≠ some '\x7b' → Evaluates id source us rest → Evaluates id ('$' :: source) (36 :: us) rest
  /-- An escape behind a backslash. -/
  | escape {source behind rest : List Char} {escaped us : List Nat} :
      escape? source = some (escaped, behind) → Evaluates id behind us rest →
        Evaluates id ('\\' :: source) (escaped ++ us) rest
  /-- A carriage return and the line feed behind it are one line feed. -/
  | lineEnd {source rest : List Char} {us : List Nat} :
      Evaluates id source us rest → Evaluates id ('\r' :: '\n' :: source) (10 :: us) rest
  /-- A carriage return alone is a line feed. -/
  | carriageReturn {source rest : List Char} {us : List Nat} :
      source.head? ≠ some '\n' → Evaluates id source us rest → Evaluates id ('\r' :: source) (10 :: us) rest
  /-- Any other character stands for itself. -/
  | char {c : Char} {source rest : List Char} {us : List Nat} :
      c ∉ ['`', '$', '\\', '\r'] → Evaluates id source us rest →
        Evaluates id (c :: source) (Json.unitsOf c ++ us) rest

/-- **A template literal ends in one place and has one value.** -/
theorem Evaluates.unique {id : String} {source rest rest' : List Char} {us us' : List Nat}
    (h : Evaluates id source us rest) (h' : Evaluates id source us' rest') : us = us' ∧ rest = rest' := by
  induction h generalizing us' with
  | close =>
      cases h' with
      | close => exact ⟨rfl, rfl⟩
      | char hc => simp at hc
  | interpolation _ ih =>
      cases h' with
      | interpolation h' => exact ⟨congrArg _ (ih h').1, (ih h').2⟩
      | dollar hhead => simp at hhead
      | char hc => simp at hc
  | dollar hhead _ ih =>
      cases h' with
      | interpolation => simp at hhead
      | dollar _ h' => exact ⟨congrArg _ (ih h').1, (ih h').2⟩
      | char hc => simp at hc
  | escape hescape _ ih =>
      cases h' with
      | escape hescape' h' =>
          rw [hescape, Option.some.injEq, Prod.mk.injEq] at hescape'
          obtain ⟨rfl, rfl⟩ := hescape'
          exact ⟨congrArg _ (ih h').1, (ih h').2⟩
      | char hc => simp at hc
  | lineEnd _ ih =>
      cases h' with
      | lineEnd h' => exact ⟨congrArg _ (ih h').1, (ih h').2⟩
      | carriageReturn hhead => simp at hhead
      | char hc => simp at hc
  | carriageReturn hhead _ ih =>
      cases h' with
      | lineEnd => simp at hhead
      | carriageReturn _ h' => exact ⟨congrArg _ (ih h').1, (ih h').2⟩
      | char hc => simp at hc
  | char hc _ ih =>
      cases h' with
      | char _ h' => exact ⟨congrArg _ (ih h').1, (ih h').2⟩
      | close => simp at hc
      | interpolation => simp at hc
      | dollar => simp at hc
      | escape => simp at hc
      | lineEnd => simp at hc
      | carriageReturn => simp at hc

end TypeScript

end ServiceBindings
