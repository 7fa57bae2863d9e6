import ServiceBindings.Operation.Building
import ServiceBindings.Proofs.Document.Following
import ServiceBindings.Proofs.Schema.Expansion

/-! # References in place of parts

A part of a value stands at the end of some steps. `Value.at?` takes these steps as they are written, without
following references, and `Value.putAt` puts another part there.

**A reference to a part is as good as the part** for whoever follows references before each step
(`Value.dig_putAt`): the same is found. Only at the very end of the steps, where nothing is followed any more,
the reference itself is found in place of the part. -/

namespace ServiceBindings

/-! ## Parts of a value -/

/-- A value that is set under one text key leaves the values of the others. -/
theorem Value.lookupText_insert_of_ne {key other : String} (h : other ≠ key) (part : Value)
    (entries : List (Scalar × Value)) :
    Value.lookupText other (Entries.insert (.text key) part entries) = Value.lookupText other entries := by
  apply Entries.lookup_insert_of_ne
  simp [h]

/-- A mapping has entries. -/
theorem Value.exists_of_isMap {v : Value} (h : v.isMap) : ∃ entries, v = .map entries := by
  cases v with
  | map entries => exact ⟨entries, rfl⟩
  | scalar => cases h
  | list => cases h
  | set => cases h

namespace Step

/-- A value with a part put where a step leads to. -/
def put : Step → Value → Value → Value
  | key name, part, .map entries => .map (Entries.insert (.text name) part entries)
  | index position, part, .list items => .list (items.set position part)
  | _, _, v => v

variable {step : Step} {v next : Value}

/-- A step to a key is taken in a mapping. -/
theorem exists_of_target?_key {name : String} (h : (Step.key name).target? v = some next) :
    ∃ entries, v = .map entries ∧ Value.lookupText name entries = some next := by
  cases v with
  | map entries => exact ⟨entries, rfl, h⟩
  | scalar => cases h
  | list => cases h
  | set => cases h

/-- A step to an index is taken in a list. -/
theorem exists_of_target?_index {position : Nat} (h : (Step.index position).target? v = some next) :
    ∃ items, v = .list items ∧ items[position]? = some next := by
  cases v with
  | list items => exact ⟨items, rfl, h⟩
  | scalar => cases h
  | map => cases h
  | set => cases h

/-- The part that is put where a step leads to is what the step leads to. -/
theorem target?_put (h : step.target? v = some next) (part : Value) :
    step.target? (step.put part v) = some part := by
  cases step with
  | key name =>
      obtain ⟨entries, rfl, -⟩ := exists_of_target?_key h
      exact Entries.lookup_insert_self (Scalar.text name) part entries
  | index position =>
      obtain ⟨items, rfl, hat⟩ := exists_of_target?_index h
      have hlt : position < items.length := (List.getElem?_eq_some_iff.mp hat).1
      show (items.set position part)[position]? = some part
      simp [hlt]

/-- A part that is put anywhere but under the key of references does not change what a value refers to. -/
theorem reference?_put (hstep : step ≠ .key "$ref") (part v : Value) :
    (step.put part v).reference? = v.reference? := by
  cases step with
  | key name =>
      cases v with
      | map entries =>
          have hname : "$ref" ≠ name := by
            intro h
            exact hstep (congrArg Step.key h.symm)
          show (Value.lookupText "$ref" (Entries.insert (.text name) part entries)).bind Value.text?
            = (Value.lookupText "$ref" entries).bind Value.text?
          rw [Value.lookupText_insert_of_ne hname]
      | scalar => rfl
      | list => rfl
      | set => rfl
  | index position => cases v <;> rfl

/-- A step leads nowhere from null. -/
theorem ne_null_of_target? (h : step.target? v = some next) : v ≠ .null := by
  rintro rfl
  cases step <;> cases h

end Step

namespace Value

/-- The part of a value at the end of some steps; references are parts like any other. -/
def at? : List Step → Value → Option Value
  | [], v => some v
  | step :: rest, v => (step.target? v).bind (at? rest)

/-- A value with a part put at the end of some steps. -/
def putAt (part : Value) : List Step → Value → Value
  | [], _ => part
  | step :: rest, v =>
      match step.target? v with
      | some next => step.put (putAt part rest next) v
      | none => v

section Steps

variable {step : Step} {rest : List Step} {v part : Value}

/-- A part behind a step is a part of what the step leads to. -/
theorem at?_cons_eq_some_iff : at? (step :: rest) v = some part ↔
    ∃ next, step.target? v = some next ∧ at? rest next = some part :=
  Option.bind_eq_some_iff

/-- A part is put behind a step into what the step leads to. -/
theorem putAt_cons {next : Value} (h : step.target? v = some next) (part : Value) :
    putAt part (step :: rest) v = step.put (putAt part rest next) v := by
  rw [putAt, h]

end Steps

/-! ## Following references on the way -/

variable {document v w : Value} {step : Step} {rest : List Step}

/-- Values that are followed to the same end lead to the same by one step or more. -/
theorem dig_cons_of_follow {target : Value} (hv : document.follow v = .ok target)
    (hw : document.follow w = .ok target) : dig document (step :: rest) v = dig document (step :: rest) w := by
  rw [dig, dig, hv, hw]

/-- Following references first makes no difference to one step or more. -/
theorem follow_bind_dig (v : Value) :
    (do
      let target ← document.follow v
      dig document (step :: rest) target) = dig document (step :: rest) v := by
  cases hv : document.follow v with
  | error e =>
      rw [dig, hv]
      rfl
  | ok target =>
      have hend : document.follow target = .ok target :=
        follow_of_reference?_eq_none (reference?_eq_none_of_follow hv)
      exact dig_cons_of_follow hend hv

/-- One step into a value that is no reference. -/
theorem dig_cons_of_target? {next : Value} (hv : v.reference? = none) (h : step.target? v = some next) :
    dig document (step :: rest) v = dig document rest next := by
  rw [dig, follow_of_reference?_eq_none hv]
  dsimp only
  rw [h]

variable {pointer : String} {part : Value} {found : Option Value}

/-- **A reference to a part is as good as the part** on the way along some steps. At their end it is found
instead of the part. -/
theorem dig_putAt (hresolve : Pointer.resolve document pointer = .ok part) {steps : List Step}
    (hsteps : ∀ step ∈ steps, step ≠ .key "$ref") (hat : at? steps v = some part)
    (h : dig document (steps ++ rest) v = .ok found) :
    dig document (steps ++ rest) (putAt (referenceTo pointer) steps v) = .ok found ∨
      rest = [] ∧ found = some part ∧
        dig document (steps ++ rest) (putAt (referenceTo pointer) steps v)
          = .ok (some (referenceTo pointer)) := by
  induction steps generalizing v with
  | nil =>
      cases hat
      rw [List.nil_append] at h ⊢
      cases rest with
      | nil =>
          cases h
          exact .inr ⟨rfl, rfl, rfl⟩
      | cons step rest =>
          -- a step is taken from the part, so it has an end, and the reference has the same one
          obtain ⟨target, htarget, -⟩ := bind_eq_ok_iff.mp ((follow_bind_dig part).trans h)
          have href := follow_referenceTo hresolve htarget
          exact .inl ((dig_cons_of_follow href htarget).trans h)
  | cons step steps ih =>
      obtain ⟨next, hnext, hrest⟩ := at?_cons_eq_some_iff.mp hat
      rw [putAt_cons hnext]
      have hput := Step.reference?_put (hsteps step List.mem_cons_self)
        (putAt (referenceTo pointer) steps next) v
      cases hv : v.reference? with
      | none =>
          rw [hv] at hput
          rw [List.cons_append, dig_cons_of_target? hv hnext] at h
          rw [List.cons_append, dig_cons_of_target? hput (Step.target?_put hnext _)]
          exact ih (fun step hstep => hsteps step (List.mem_cons_of_mem _ hstep)) hrest h
      | some q =>
          -- a reference is followed away from what stands beside it
          rw [hv] at hput
          obtain ⟨target, htarget, -⟩ := bind_eq_ok_iff.mp ((follow_bind_dig v).trans h)
          have hsame := follow_of_reference?_eq hv hput htarget
          exact .inl ((dig_cons_of_follow hsame htarget).trans h)

end Value

end ServiceBindings
