import Mathlib.Data.Nat.Digits.Defs
import ServiceBindings.Pointer

/-! # Pointers address every place of a document

A step leads from a mapping to the value under that key, from a list to the item whose index it writes in
decimal digits, and from anything else nowhere (`Value.StepsTo`); steps one after the other lead along
(`Value.LeadsAlong`) or **come to a halt** at a step that leads nowhere (`Value.Halts`). A step may hold
slashes and tildes: in a pointer they are escaped (`Pointer.written`).

**The pointer that is written for steps resolves to what the steps lead to**, and fails exactly where they come
to a halt, unless they **stumble** over an index of too many digits before (`Value.Stumbles`): then resolving
ends with an error that is not reported, whatever item the index stands for (`Pointer.resolve_written`,
`Pointer.resolve_written_zeros`). Two facts are behind this: the two replacements that read the escapes of a
step undo the two that write them, whatever tildes, slashes and digits stand next to each other
(`Pointer.unescape_escape`), and no slash of a step is left to cut the pointer at
(`Pointer.steps?_ofSteps`). -/

namespace ServiceBindings

/-! ## Indexes -/

/-- The number that a decimal digit stands for. -/
def decimalDigit (c : Char) : Nat := c.toNat - '0'.toNat

/-- A text is an index: it consists of one or more decimal digits, and these write the number. -/
structure WritesIndex (step : String) (index : Nat) : Prop where
  /-- There is a digit. -/
  ne_nil : step.toList ≠ []
  /-- There is nothing but digits. -/
  digits : ∀ c ∈ step.toList, '0' ≤ c ∧ c ≤ '9'
  /-- The digits write the number, the last one standing for the units. -/
  value : Nat.ofDigits 10 (step.toList.reverse.map decimalDigit) = index

/-- A character is read as a decimal digit exactly if it is one. -/
theorem digitValue?_lt_ten_iff {c : Char} {d : Nat} :
    digitValue? c = some d ∧ d < 10 ↔ ('0' ≤ c ∧ c ≤ '9') ∧ d = decimalDigit c := by
  have hzero : '0' ≤ c ↔ 48 ≤ c.toNat := Iff.rfl
  have hnine : c ≤ '9' ↔ c.toNat ≤ 57 := Iff.rfl
  have hvalue : decimalDigit c = c.toNat - 48 := rfl
  rw [hzero, hnine, hvalue, digitValue?]
  constructor
  · rintro ⟨h, hlt⟩
    split_ifs at h with hdecimal hlower hupper
    · cases h
      exact ⟨hdecimal, rfl⟩
    -- a letter stands for ten or more
    · cases h
      omega
    · cases h
      omega
  · rintro ⟨hdecimal, rfl⟩
    rw [if_pos hdecimal]
    exact ⟨rfl, by omega⟩

/-- Digits are read from left to right behind a number that is already read. -/
theorem natOfDigitsFrom?_eq_some_iff {cs : List Char} {n m : Nat} : natOfDigitsFrom? 10 n cs = some m ↔
    (∀ c ∈ cs, '0' ≤ c ∧ c ≤ '9') ∧ (cs.map decimalDigit).foldl (fun n d => d + 10 * n) n = m := by
  induction cs generalizing n with
  | nil => simp [natOfDigitsFrom?]
  | cons c rest ih =>
      rw [natOfDigitsFrom?, List.forall_mem_cons, List.map_cons, List.foldl_cons]
      by_cases hc : '0' ≤ c ∧ c ≤ '9'
      · obtain ⟨hvalue, hlt⟩ := digitValue?_lt_ten_iff.mpr ⟨hc, rfl⟩
        have hnext : n * 10 + decimalDigit c = decimalDigit c + 10 * n := by omega
        simp only [hvalue, if_pos hlt, hnext, ih, hc, and_self, true_and]
      · have hnone : ∀ d, ¬ (digitValue? c = some d ∧ d < 10) := fun d h =>
          hc (digitValue?_lt_ten_iff.mp h).1
        simp only [hc, false_and, iff_false]
        cases hvalue : digitValue? c with
        | none => nofun
        | some d =>
            have hlt : ¬ d < 10 := fun h => hnone d ⟨hvalue, h⟩
            simp only [if_neg hlt, reduceCtorEq, not_false_eq_true]

/-- **Decimal digits are read as the number that they write.** -/
theorem natOfDigits?_eq_some_iff {step : String} {index : Nat} :
    natOfDigits? 10 step.toList = some index ↔ WritesIndex step index := by
  rw [natOfDigits?]
  by_cases hempty : step.toList = []
  · simp only [hempty, List.isEmpty_nil, if_true, reduceCtorEq, false_iff]
    exact fun h => h.ne_nil hempty
  · rw [if_neg (by simpa using hempty), natOfDigitsFrom?_eq_some_iff, ← List.foldr_reverse,
      ← List.map_reverse]
    have hvalue := Nat.ofDigits_eq_foldr 10 (step.toList.reverse.map decimalDigit)
    constructor
    · rintro ⟨hdigits, hindex⟩
      exact ⟨hempty, hdigits, hvalue.trans hindex⟩
    · rintro ⟨-, hdigits, hindex⟩
      exact ⟨hdigits, hvalue.symm.trans hindex⟩

/-- A text is an index of too many digits. -/
def IsOverlongIndex (step : String) : Prop := (∃ index, WritesIndex step index) ∧ digitLimit < step.length

/-- Indexes of too many digits are told by their digits and their length. -/
theorem isOverlong_iff {step : String} : isOverlong step = true ↔ IsOverlongIndex step := by
  simp only [isOverlong, IsOverlongIndex, Bool.and_eq_true, decide_eq_true_eq, Option.isSome_iff_exists,
    natOfDigits?_eq_some_iff]

/-- Any number of zeros is the index zero. -/
theorem writesIndex_zeros (n : Nat) : WritesIndex (.ofList (List.replicate (n + 1) '0')) 0 where
  ne_nil := by simp [List.replicate_succ]
  digits c hc := by
    rw [String.toList_ofList] at hc
    rw [List.eq_of_mem_replicate hc]
    decide
  value := by
    rw [String.toList_ofList, List.reverse_replicate, List.map_replicate]
    exact Nat.ofDigits_replicate_zero

namespace Value

/-! ## Steps -/

/-- What a step leads to. -/
inductive StepsTo : Value → String → Value → Prop where
  /-- In a mapping, to the value under that key. -/
  | entry {entries : List (Scalar × Value)} {step : String} {w : Value} :
      entries.lookup (.text step) = some w → StepsTo (.map entries) step w
  /-- In a list, to the item at the index. -/
  | item {items : List Value} {step : String} {index : Nat} {w : Value} :
      WritesIndex step index → items[index]? = some w → StepsTo (.list items) step w

/-- What steps lead to, one after the other. -/
inductive LeadsAlong : Value → List String → Value → Prop where
  /-- Without steps, nowhere else. -/
  | here {v : Value} : LeadsAlong v [] v
  /-- With the first step to the next value, and along from there. -/
  | step {v next w : Value} {step : String} {rest : List String} :
      StepsTo v step next → LeadsAlong next rest w → LeadsAlong v (step :: rest) w

/-- Some of the steps leads nowhere from where the steps before it lead to. -/
def Halts (v : Value) (steps : List String) : Prop :=
  ∃ before step after next, steps = before ++ step :: after ∧ v.LeadsAlong before next ∧
    ∀ w, ¬ next.StepsTo step w

/-- A step is taken in a list and is an index of too many digits. -/
def StumblesAt (v : Value) (step : String) : Prop := v.isList = true ∧ IsOverlongIndex step

/-- The first index of too many digits that steps come to in a list has so many. -/
inductive Stumbles : Value → List String → Nat → Prop where
  /-- It is the first step. -/
  | here {v : Value} {step : String} {rest : List String} :
      v.StumblesAt step → Stumbles v (step :: rest) step.length
  /-- It comes after a step that leads on. -/
  | later {v next : Value} {step : String} {rest : List String} {count : Nat} :
      ¬ v.StumblesAt step → v.StepsTo step next → Stumbles next rest count →
      Stumbles v (step :: rest) count

/-- A step leads to one value. -/
theorem StepsTo.unique {v w w' : Value} {step : String} (h : v.StepsTo step w) (h' : v.StepsTo step w') :
    w = w' := by
  cases h with
  | entry hentry =>
      cases h' with
      | entry hentry' => exact Option.some.inj (hentry.symm.trans hentry')
  | item hindex hitem =>
      cases h' with
      | item hindex' hitem' =>
          rw [← hindex.value, hindex'.value] at hitem
          exact Option.some.inj (hitem.symm.trans hitem')

/-- **Steps come to a halt exactly if they lead nowhere.** -/
theorem halts_iff {v : Value} {steps : List String} : v.Halts steps ↔ ∀ w, ¬ v.LeadsAlong steps w := by
  induction steps generalizing v with
  | nil =>
      refine ⟨?_, fun h => absurd .here (h v)⟩
      rintro ⟨before, step, after, next, heq, -⟩
      simp at heq
  | cons step rest ih =>
      constructor
      · rintro ⟨before, step', after, last, heq, halong, hno⟩ w hw
        cases hw with
        | step hnext hrest =>
            cases halong with
            | here =>
                -- the very first step leads nowhere
                obtain ⟨rfl, rfl⟩ := List.cons.inj heq
                exact hno _ hnext
            | step hnext' halong =>
                obtain ⟨rfl, rfl⟩ := List.cons.inj heq
                obtain rfl := hnext.unique hnext'
                exact ih.mp ⟨_, step', after, last, rfl, halong, hno⟩ w hrest
      · intro h
        by_cases hstep : ∃ next, v.StepsTo step next
        · obtain ⟨next, hnext⟩ := hstep
          have hrest : next.Halts rest := ih.mpr fun w hw => h w (.step hnext hw)
          obtain ⟨before, step', after, last, rfl, halong, hno⟩ := hrest
          exact ⟨step :: before, step', after, last, rfl, .step hnext halong, hno⟩
        · exact ⟨[], step, rest, v, rfl, .here, fun w hw => hstep ⟨w, hw⟩⟩

/-- **One step is taken as it leads**, unless it is an index of too many digits. -/
theorem step?_eq_some_iff {v w : Value} {step : String} :
    v.step? step = some w ↔ v.StepsTo step w ∧ ¬ v.StumblesAt step := by
  cases v with
  | map entries =>
      have hmap : ¬ (Value.map entries).StumblesAt step := fun h => Bool.false_ne_true h.1
      refine ⟨fun h => ⟨.entry h, hmap⟩, fun ⟨h, _⟩ => ?_⟩
      cases h with
      | entry hentry => exact hentry
  | list items =>
      have hlist : (Value.list items).StumblesAt step ↔ isOverlong step = true := by
        rw [isOverlong_iff]
        exact and_iff_right rfl
      rw [hlist, step?, indexOfStep?]
      by_cases hlong : isOverlong step = true
      · simp [hlong]
      · rw [if_neg hlong, Option.bind_eq_some_iff]
        constructor
        · rintro ⟨index, hindex, hitem⟩
          exact ⟨.item (natOfDigits?_eq_some_iff.mp hindex) hitem, hlong⟩
        · rintro ⟨h, -⟩
          cases h with
          | item hindex hitem => exact ⟨_, natOfDigits?_eq_some_iff.mpr hindex, hitem⟩
  | scalar => exact ⟨nofun, fun h => nomatch h.1⟩
  | set => exact ⟨nofun, fun h => nomatch h.1⟩

/-- **Steps stumble where a walk finds an index of too many digits.** -/
theorem overlongStep?_eq_some_iff {v : Value} {steps : List String} {count : Nat} :
    v.overlongStep? steps = some count ↔ v.Stumbles steps count := by
  induction steps generalizing v with
  | nil => exact ⟨nofun, nofun⟩
  | cons step rest ih =>
      have hstumbles : (v.isList && isOverlong step) = true ↔ v.StumblesAt step := by
        rw [Bool.and_eq_true, isOverlong_iff, StumblesAt]
      rw [overlongStep?]
      by_cases hat : v.StumblesAt step
      · rw [if_pos (hstumbles.mpr hat), Option.some.injEq]
        constructor
        · rintro rfl
          exact .here hat
        · intro h
          cases h with
          | here => rfl
          | later hnot => exact absurd hat hnot
      · rw [if_neg (mt hstumbles.mp hat), Option.bind_eq_some_iff]
        constructor
        · rintro ⟨next, hnext, hrest⟩
          exact .later hat (step?_eq_some_iff.mp hnext).1 (ih.mp hrest)
        · intro h
          cases h with
          | here hat' => exact absurd hat' hat
          | later _ hnext hrest => exact ⟨_, step?_eq_some_iff.mpr ⟨hnext, hat⟩, ih.mpr hrest⟩

/-- **A walk ends where its steps lead to**, unless they stumble. -/
theorem walk?_eq_some_iff {v w : Value} {steps : List String} :
    v.walk? steps = some w ↔ v.LeadsAlong steps w ∧ ∀ count, ¬ v.Stumbles steps count := by
  induction steps generalizing v with
  | nil =>
      rw [walk?_nil, Option.some.injEq]
      constructor
      · rintro rfl
        exact ⟨.here, nofun⟩
      · rintro ⟨h, -⟩
        cases h
        rfl
  | cons step rest ih =>
      rw [walk?_cons, Option.bind_eq_some_iff]
      constructor
      · rintro ⟨next, hnext, hrest⟩
        obtain ⟨hstep, hat⟩ := step?_eq_some_iff.mp hnext
        obtain ⟨halong, hsmooth⟩ := ih.mp hrest
        refine ⟨.step hstep halong, fun count h => ?_⟩
        cases h with
        | here hat' => exact hat hat'
        | later _ hstep' hstumbles =>
            obtain rfl := hstep.unique hstep'
            exact hsmooth count hstumbles
      · rintro ⟨h, hsmooth⟩
        cases h with
        | step hstep hrest =>
            have hat : ¬ v.StumblesAt step := fun hat => hsmooth _ (.here hat)
            refine ⟨_, step?_eq_some_iff.mpr ⟨hstep, hat⟩, ih.mpr ⟨hrest, fun count h => ?_⟩⟩
            exact hsmooth count (.later hat hstep h)

end Value

namespace Pointer

/-! ## Escapes -/

/-- The pointer with the given steps: in each of them `~0` replaces the tildes, and then `~1` the slashes. -/
def written (steps : List String) : String :=
  "#/" ++ Text.join "/" (steps.map fun step => Text.replaceAll "/" "~1" (Text.replaceAll "~" "~0" step))

/-- The occurrences of one character are replaced one by one. -/
theorem replaceAll_singleton (d : Char) (replacement cs : List Char) :
    Chars.replaceAll [d] replacement cs = cs.flatMap fun c => if c = d then replacement else [c] := by
  induction cs with
  | nil => rfl
  | cons c rest ih =>
      rw [List.flatMap_cons]
      by_cases hc : c = d
      · subst hc
        rw [if_pos rfl, ← ih]
        exact Chars.replaceAll_append (List.cons_ne_nil c []) replacement rest
      · rw [if_neg hc, Chars.replaceAll_cons_of_ne hc, ih, List.singleton_append]

/-- Escapes are written by two replacements one after the other. -/
theorem escape_eq_replaceAll (step : List Char) :
    escape step = Chars.replaceAll ['/'] ['~', '1'] (Chars.replaceAll ['~'] ['~', '0'] step) := by
  rw [replaceAll_singleton, replaceAll_singleton, List.flatMap_assoc, escape]
  congr 1
  funext c
  by_cases htilde : c = '~'
  · simp [htilde]
  · simp [htilde]

/-- The pointer that is written for steps. -/
theorem written_eq_ofSteps (steps : List String) : written steps = ofSteps steps := by
  rw [← String.toList_inj, written, ofSteps, String.toList_append, Text.join, String.toList_intercalate,
    Chars.join, List.map_map]
  have hstep : (String.toList ∘ fun step =>
      Text.replaceAll "/" "~1" (Text.replaceAll "~" "~0" step)) = fun step => escape step.toList := by
    funext step
    rw [Function.comp_apply, Text.toList_replaceAll, Text.toList_replaceAll, escape_eq_replaceAll]
    rfl
  rw [hstep]
  exact String.toList_ofList.symm

/-- An occurrence of a pattern of two characters is replaced, and the text is read on behind it. -/
theorem replaceAll_cons_cons (first second : Char) (replacement rest : List Char) :
    Chars.replaceAll [first, second] replacement (first :: second :: rest)
      = replacement ++ Chars.replaceAll [first, second] replacement rest :=
  Chars.replaceAll_append (List.cons_ne_nil first [second]) replacement rest

/-- The slashes are back, and every tilde is still escaped. -/
theorem replaceAll_escape (step : List Char) : Chars.replaceAll ['~', '1'] ['/'] (escape step)
    = step.flatMap fun c => if c = '~' then ['~', '0'] else [c] := by
  induction step with
  | nil => rfl
  | cons c rest ih =>
      rw [escape] at ih
      rw [escape, List.flatMap_cons, List.flatMap_cons]
      by_cases htilde : c = '~'
      · subst htilde
        -- the tilde of the escape is followed by a zero, so it stays
        have hkeep : Chars.replaceAll ['~', '1'] ['/'] ('~' :: '0' :: rest.flatMap fun c =>
            if c = '~' then ['~', '0'] else if c = '/' then ['~', '1'] else [c])
            = '~' :: '0' :: Chars.replaceAll ['~', '1'] ['/'] (rest.flatMap fun c =>
            if c = '~' then ['~', '0'] else if c = '/' then ['~', '1'] else [c]) := by
          simp [Chars.replaceAll, Chars.replaceAfter, List.isPrefixOf]
        simpa [ih] using hkeep
      · by_cases hslash : c = '/'
        · subst hslash
          rw [if_neg htilde, if_pos rfl, if_neg htilde, List.cons_append, List.singleton_append,
            replaceAll_cons_cons, ih]
        · rw [if_neg htilde, if_neg hslash, if_neg htilde, List.singleton_append,
            Chars.replaceAll_cons_of_ne htilde, ih, List.singleton_append]

/-- **Reading the escapes undoes writing them.** -/
theorem unescape_escape (step : List Char) : unescape (escape step) = step := by
  rw [unescape, replaceAll_escape]
  induction step with
  | nil => rfl
  | cons c rest ih =>
      rw [List.flatMap_cons]
      by_cases htilde : c = '~'
      · subst htilde
        rw [if_pos rfl, List.cons_append, List.singleton_append, replaceAll_cons_cons, ih]
        rfl
      · rw [if_neg htilde, List.singleton_append, Chars.replaceAll_cons_of_ne htilde, ih]

/-- No slash is left in an escaped step. -/
theorem ne_slash_of_mem_escape {step : List Char} {c : Char} (hc : c ∈ escape step) : c ≠ '/' := by
  rw [escape, List.mem_flatMap] at hc
  obtain ⟨d, -, hc⟩ := hc
  rintro rfl
  split_ifs at hc with htilde hslash
  · simp at hc
  · simp at hc
  · exact hslash (List.mem_singleton.mp hc).symm

/-- **The steps of a pointer are the steps that it is written for.** -/
theorem steps?_ofSteps {steps : List String} (hne : steps ≠ []) : steps? (ofSteps steps) = some steps := by
  have hpieces : Chars.splitWhere (· == '/')
      (Chars.join ['/'] (steps.map fun step => escape step.toList))
      = steps.map fun step => escape step.toList := by
    refine Chars.splitWhere_join (by simpa using hne) ?_ (beq_self_eq_true '/')
    intro piece hpiece c hc
    obtain ⟨step, -, rfl⟩ := List.mem_map.mp hpiece
    exact beq_false_of_ne (ne_slash_of_mem_escape hc)
  have hback : ∀ step : String, String.ofList (unescape (escape step.toList)) = step := by
    intro step
    rw [unescape_escape, String.ofList_toList]
  rw [steps?, ofSteps, String.toList_ofList]
  simp only [hpieces, List.map_map, Function.comp_def, hback, List.map_id']

/-! ## Resolving -/

/-- The steps of a pointer stumble over an index of so many digits. -/
def Stumbles (document : Value) (pointer : String) (count : Nat) : Prop :=
  ∃ steps, steps? pointer = some steps ∧ document.Stumbles steps count

/-- **A pointer fails for an index of too many digits exactly if it stumbles over it.** -/
theorem resolve_eq_tooManyDigits_iff {document : Value} {pointer : String} {count : Nat} :
    resolve document pointer = .error (.tooManyDigits count) ↔ Stumbles document pointer count := by
  rw [resolve, Stumbles]
  cases hsteps : steps? pointer with
  | none => simp
  | some steps =>
      simp only [Option.some.injEq, exists_eq_left', lost, ← Value.overlongStep?_eq_some_iff]
      cases hwalk : document.walk? steps with
      | some v =>
          refine ⟨nofun, fun h => ?_⟩
          exact absurd (Value.overlongStep?_eq_some_iff.mp h) ((Value.walk?_eq_some_iff.mp hwalk).2 count)
      | none => cases document.overlongStep? steps <;> simp

/-- The steps of the pointer that is written for steps. -/
theorem steps?_written {steps : List String} (hne : steps ≠ []) : steps? (written steps) = some steps := by
  rw [written_eq_ofSteps, steps?_ofSteps hne]

/-- Steps that stumble are not followed to their end. -/
theorem resolve_of_stumbles {document : Value} {steps : List String} {count : Nat} (hne : steps ≠ [])
    (h : document.Stumbles steps count) :
    resolve document (written steps) = .error (.tooManyDigits count) :=
  resolve_eq_tooManyDigits_iff.mpr ⟨steps, steps?_written hne, h⟩

/-- Steps that do not stumble are followed to their end or to where they come to a halt. -/
theorem resolve_of_not_stumbles {document : Value} {steps : List String} (hne : steps ≠ [])
    (hsmooth : ∀ count, ¬ document.Stumbles steps count) :
    (∀ w, resolve document (written steps) = .ok w ↔ document.LeadsAlong steps w) ∧
    ∀ e, resolve document (written steps) = .error e ↔
      e = .unresolvable (written steps) ∧ document.Halts steps := by
  have hwalk : ∀ w, document.walk? steps = some w ↔ document.LeadsAlong steps w :=
    fun w => Value.walk?_eq_some_iff.trans (and_iff_left hsmooth)
  have hlong : document.overlongStep? steps = none :=
    Option.eq_none_iff_forall_not_mem.mpr fun count h => hsmooth count (Value.overlongStep?_eq_some_iff.mp h)
  simp only [resolve, lost, steps?_written hne, hlong, Value.halts_iff, ← hwalk]
  cases document.walk? steps with
  | some v => simp
  | none => simp [eq_comm]

/-- **Pointers address every place of a document.** The pointer that is written for steps resolves to exactly
what the steps lead to, and it fails, with an error that names it, exactly where they come to a halt, as long as
they do not stumble over an index of too many digits. Where they do, it fails with another error, whether they
lead somewhere or not. -/
theorem resolve_written (document : Value) {steps : List String} (hne : steps ≠ []) :
    (∀ w, resolve document (written steps) = .ok w ↔
      document.LeadsAlong steps w ∧ ∀ count, ¬ document.Stumbles steps count) ∧
    ∀ e, resolve document (written steps) = .error e ↔
      (e = .unresolvable (written steps) ∧ document.Halts steps ∧
        ∀ count, ¬ document.Stumbles steps count) ∨
      ∃ count, e = .tooManyDigits count ∧ document.Stumbles steps count := by
  by_cases hsmooth : ∀ count, ¬ document.Stumbles steps count
  · obtain ⟨hok, herror⟩ := resolve_of_not_stumbles hne hsmooth
    refine ⟨fun w => by rw [hok, and_iff_left hsmooth], fun e => ?_⟩
    rw [herror, and_iff_left hsmooth, or_iff_left]
    rintro ⟨count, -, h⟩
    exact hsmooth count h
  · obtain ⟨count, hstumbles⟩ := not_forall_not.mp hsmooth
    have hresolve := resolve_of_stumbles hne hstumbles
    simp only [hresolve, hsmooth, and_false, false_or, reduceCtorEq, Except.error.injEq,
      implies_true, true_and]
    refine fun e => ⟨fun h => ⟨count, h.symm, hstumbles⟩, ?_⟩
    rintro ⟨count', rfl, h⟩
    exact Except.error.inj (hresolve.symm.trans (resolve_of_stumbles hne h))

/-- A document with a list under a key that needs both escapes and looks like one. -/
def shelf : Value := .map [(.text "~1/", .list [.text "first", .text "second"])]

/-- The step to the list of this document. -/
theorem stepsTo_shelf : shelf.StepsTo "~1/" (.list [.text "first", .text "second"]) := .entry rfl

/-- Steps into the list do not stumble if the second one is short enough. -/
theorem not_stumbles_shelf {step : String} (h : step.length ≤ digitLimit) (count : Nat) :
    ¬ shelf.Stumbles ["~1/", step] count := by
  intro hstumbles
  cases hstumbles with
  | here hat => exact Bool.false_ne_true hat.1
  | later _ hnext hrest =>
      cases hrest with
      | here hat => exact absurd hat.2.2 (by omega)
      | later _ _ hrest => cases hrest

/-- The items of the list are found at their indexes, leading zeros or not, and behind them there is none. -/
theorem resolve_written_shelf : ["~1/", "01"] ≠ [] ∧ written ["~1/", "01"] = "#/~01~1/01" ∧
    resolve shelf (written ["~1/", "01"]) = .ok (.text "second") ∧
    resolve shelf (written ["~1/", "2"]) = .error (.unresolvable (written ["~1/", "2"])) := by
  have hone : WritesIndex "01" 1 := ⟨by decide, by simp, by decide⟩
  have hbeyond : ∀ w, ¬ (Value.list [.text "first", .text "second"]).StepsTo "2" w := by
    rintro w (_ | ⟨hindex, hitem⟩)
    have hvalue : Nat.ofDigits 10 ("2".toList.reverse.map decimalDigit) = 2 := by decide
    rw [← hindex.value, hvalue] at hitem
    cases hitem
  refine ⟨by decide, by decide, ?_, ?_⟩
  · exact ((resolve_written shelf (by decide)).1 _).mpr
      ⟨.step stepsTo_shelf (.step (.item hone rfl) .here), not_stumbles_shelf (by decide)⟩
  · exact ((resolve_written shelf (by decide)).2 _).mpr
      (Or.inl ⟨rfl, ⟨["~1/"], "2", [], _, rfl, .step stepsTo_shelf .here, hbeyond⟩,
        not_stumbles_shelf (by decide)⟩)

/-- As many zeros as are too many digits. -/
def zeros : String := .ofList (List.replicate (digitLimit + 1) '0')

/-- There is one zero too many. -/
theorem length_zeros : zeros.length = digitLimit + 1 := by
  rw [zeros, String.length_ofList, List.length_replicate]

/-- Zeros stumble in every list. -/
theorem stumblesAt_zeros (items : List Value) : (Value.list items).StumblesAt zeros :=
  ⟨rfl, ⟨0, writesIndex_zeros digitLimit⟩, by rw [length_zeros]; exact Nat.lt_succ_self _⟩

/-- The pointer to zeros in the list of this document does not resolve. -/
theorem resolve_zeros : resolve shelf (written ["~1/", zeros]) = .error (.tooManyDigits 4301) := by
  have hmap : ¬ shelf.StumblesAt "~1/" := fun h => Bool.false_ne_true h.1
  have hstumbles : shelf.Stumbles ["~1/", zeros] zeros.length :=
    .later hmap stepsTo_shelf (.here (stumblesAt_zeros _))
  rw [length_zeros] at hstumbles
  exact resolve_of_stumbles (by decide) hstumbles

/-- **Zeros lead to the first item of the list, but their pointer does not resolve to it**, and fails with an
error that is not reported. -/
theorem resolve_written_zeros : shelf.LeadsAlong ["~1/", zeros] (.text "first") ∧
    resolve shelf (written ["~1/", zeros]) = .error (.tooManyDigits 4301) ∧
    (ReferenceError.tooManyDigits 4301).isReported = false :=
  ⟨.step stepsTo_shelf (.step (.item (writesIndex_zeros digitLimit) rfl) .here), resolve_zeros, rfl⟩

end Pointer

end ServiceBindings
