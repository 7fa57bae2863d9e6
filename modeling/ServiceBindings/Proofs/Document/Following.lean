import ServiceBindings.Proofs.Schema.GuardedWalk

/-! # Where references at the root of a value end

`Value.EndsIn` counts the references between a value and the value at their end, without a chain or a bound.

**References are followed to a value exactly if they end there** (`Value.follow_eq_ok_iff`). So a reference to
a value can be followed wherever the value can, to the same end (`Value.follow_referenceTo`). -/

namespace ServiceBindings

namespace Value

/-- The references at the root of a value end, after so many steps, at a value that is none. -/
inductive EndsIn (document : Value) : Nat → Value → Value → Prop where
  /-- The value is no reference. -/
  | here {v : Value} : v.reference? = none → EndsIn document 0 v v
  /-- The value is a reference to be followed. -/
  | there {count : Nat} {v next target : Value} {pointer : String} :
      v.reference? = some pointer → Pointer.resolve document pointer = .ok next →
      EndsIn document count next target → EndsIn document (count + 1) v target

variable {document v w : Value}

namespace EndsIn

variable {count count' : Nat} {target target' : Value}

/-- The number of references and their end are determined. -/
theorem unique (h : EndsIn document count v target) (h' : EndsIn document count' v target') :
    count = count' ∧ target = target' := by
  induction h generalizing count' target' with
  | here hnone =>
      cases h' with
      | here => exact ⟨rfl, rfl⟩
      | there hsome => exact absurd (hnone.symm.trans hsome) nofun
  | there hsome hnext _ ih =>
      cases h' with
      | here hnone => exact absurd (hnone.symm.trans hsome) nofun
      | there hsome' hnext' hrest =>
          cases hsome.symm.trans hsome'
          cases hnext.symm.trans hnext'
          obtain ⟨rfl, rfl⟩ := ih hrest
          exact ⟨rfl, rfl⟩

/-- The end is no reference. -/
theorem reference?_eq_none (h : EndsIn document count v target) : target.reference? = none := by
  induction h with
  | here hnone => exact hnone
  | there _ _ _ ih => exact ih

/-- Values that are the same reference end alike. -/
theorem congr {pointer : String} (hv : v.reference? = some pointer) (hw : w.reference? = some pointer)
    (h : EndsIn document count v target) : EndsIn document count w target := by
  cases h with
  | here hnone => exact absurd (hnone.symm.trans hv) nofun
  | there hsome hnext hrest =>
      cases hsome.symm.trans hv
      exact .there hw hnext hrest

end EndsIn

/-- What is followed ends there. -/
theorem endsIn_of_followFrom {bound : Nat} {chain : List String} {target : Value}
    (h : document.followFrom bound chain v = .ok target) : ∃ count, EndsIn document count v target := by
  induction bound generalizing chain v with
  | zero =>
      unfold followFrom at h
      cases hv : v.reference? with
      | none =>
          rw [hv] at h
          cases h
          exact ⟨0, .here hv⟩
      | some pointer =>
          rw [hv] at h
          dsimp only at h
          split at h <;> cases h
  | succ bound ih =>
      unfold followFrom at h
      cases hv : v.reference? with
      | none =>
          rw [hv] at h
          cases h
          exact ⟨0, .here hv⟩
      | some pointer =>
          rw [hv] at h
          dsimp only at h
          split at h
          · cases h
          · cases hnext : Pointer.resolve document pointer with
            | error e =>
                rw [hnext] at h
                cases h
            | ok next =>
                rw [hnext] at h
                obtain ⟨count, hcount⟩ := ih h
                exact ⟨count + 1, .there hv hnext hcount⟩

/-- **References that end are followed.** On top of a chain of references from which this value is reached, so
that they are as far from the end, the bound does no harm if chain and bound are as long as the list of
references has different ones. -/
theorem followFrom_of_endsIn {texts : List String} (hdocument : document.referenceTexts ⊆ texts)
    {bound count : Nat} {chain : List String} {target : Value} (hnodup : chain.Nodup)
    (hchain : chain ⊆ texts) (hv : v.referenceTexts ⊆ texts)
    (hfar : ∀ c ∈ chain, ∃ next far, Pointer.resolve document c = .ok next ∧ count ≤ far ∧
      EndsIn document far next target)
    (hbound : distinctCount texts ≤ chain.length + bound) (h : EndsIn document count v target) :
    document.followFrom bound chain v = .ok target := by
  induction h generalizing bound chain with
  | here hnone =>
      unfold followFrom
      rw [hnone]
  | @there count v next target pointer hsome hnext hrest ih =>
      -- a reference on the chain would be farther from the end than it is
      have hmem : pointer ∉ chain := by
        intro hmem
        obtain ⟨next', far, hnext', hle, hends⟩ := hfar pointer hmem
        cases hnext.symm.trans hnext'
        obtain ⟨rfl, -⟩ := hrest.unique hends
        omega
      have hpointer : pointer ∈ texts := hv (mem_referenceTexts_of_reference? hsome)
      have hlt := length_lt_distinctCount hnodup hchain hmem hpointer
      have hlength : (chain ++ [pointer]).length = chain.length + 1 := List.length_append
      cases bound with
      | zero => omega
      | succ bound =>
          unfold followFrom
          rw [hsome]
          dsimp only
          rw [if_neg hmem, hnext]
          refine ih (Schema.nodup_append_singleton hnodup hmem) ?_ ?_ ?_ (by omega)
          · exact List.append_subset.mpr ⟨hchain, List.cons_subset.mpr ⟨hpointer, List.nil_subset _⟩⟩
          · exact List.Subset.trans (referenceTexts_subset_of_resolve hnext) hdocument
          · intro c hc
            rcases List.mem_append.mp hc with hc | hc
            · obtain ⟨next', far, hnext', hle, hends⟩ := hfar c hc
              exact ⟨next', far, hnext', Nat.le_of_succ_le hle, hends⟩
            · rw [List.mem_singleton.mp hc]
              exact ⟨next, count, hnext, Nat.le_refl count, hrest⟩

/-- **References are followed to a value exactly if they end there.** -/
theorem follow_eq_ok_iff {target : Value} :
    document.follow v = .ok target ↔ ∃ count, EndsIn document count v target := by
  constructor
  · exact endsIn_of_followFrom
  · rintro ⟨count, h⟩
    exact followFrom_of_endsIn (List.subset_append_left _ _) List.nodup_nil (List.nil_subset _)
      (List.subset_append_right _ _) nofun (Nat.le_of_eq (Nat.zero_add _).symm) h

/-- Following references ends at a value that is none. -/
theorem reference?_eq_none_of_follow {target : Value} (h : document.follow v = .ok target) :
    target.reference? = none := by
  obtain ⟨count, hcount⟩ := follow_eq_ok_iff.mp h
  exact hcount.reference?_eq_none

/-- Values that are the same reference are followed to the same end. -/
theorem follow_of_reference?_eq {pointer : String} {target : Value} (hv : v.reference? = some pointer)
    (hw : w.reference? = some pointer) (h : document.follow v = .ok target) :
    document.follow w = .ok target := by
  obtain ⟨count, hcount⟩ := follow_eq_ok_iff.mp h
  exact follow_eq_ok_iff.mpr ⟨count, hcount.congr hv hw⟩

/-! ## References in place of values -/

/-- A reference to a place. -/
def referenceTo (pointer : String) : Value := .map [(.text "$ref", .text pointer)]

/-- A reference to a place is a reference. -/
theorem reference?_referenceTo (pointer : String) : (referenceTo pointer).reference? = some pointer := rfl

/-- **A reference to a value is followed to where the value is.** -/
theorem follow_referenceTo {pointer : String} {target : Value}
    (hresolve : Pointer.resolve document pointer = .ok v) (h : document.follow v = .ok target) :
    document.follow (referenceTo pointer) = .ok target := by
  obtain ⟨count, hcount⟩ := follow_eq_ok_iff.mp h
  exact follow_eq_ok_iff.mpr ⟨count + 1, .there (reference?_referenceTo pointer) hresolve hcount⟩

/-- A reference that does not resolve is not followed. -/
theorem follow_referenceTo_of_error {pointer : String} {e : ReferenceError}
    (hresolve : Pointer.resolve document pointer = .error e) :
    document.follow (referenceTo pointer) = .error e := by
  have hmem : pointer ∈ document.referenceTexts ++ (referenceTo pointer).referenceTexts :=
    List.mem_append_right _ (mem_referenceTexts_of_reference? (reference?_referenceTo pointer))
  have hcount : 0 < document.referenceCount (referenceTo pointer).referenceTexts :=
    length_lt_distinctCount List.nodup_nil (List.nil_subset _) List.not_mem_nil hmem
  obtain ⟨bound, hbound⟩ := Nat.exists_eq_succ_of_ne_zero hcount.ne'
  rw [follow, hbound]
  unfold followFrom
  rw [reference?_referenceTo]
  simp only [List.not_mem_nil, if_false, hresolve]

end Value

end ServiceBindings
