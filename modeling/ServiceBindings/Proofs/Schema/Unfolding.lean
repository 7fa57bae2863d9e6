import ServiceBindings.Proofs.Schema.GuardedWalk

/-! # Unfolding references to a depth

`Schema.unfoldReference` replaces a reference, and the references in what it leads to, down to a depth. It
keeps no chain: a cycle runs into the depth.

**A schema has an expansion exactly when it can be unfolded to some depth**, with the same result
(`Schema.expand_eq_ok_iff`). So a successful expansion can be followed by induction on the depth alone,
without regard to chains and their length. -/

namespace ServiceBindings

/-! ## Steps that descend -/

section Descends

variable {α : Type} {R : α → α → Prop} {Good : Nat → α → Prop}

/-- Where each step descends to a smaller depth, so do several ones. -/
theorem exists_lt_of_transGen_of_descends
    (hstep : ∀ depth a b, Good depth a → R a b → ∃ below < depth, Good below b) {depth : Nat} {a b : α}
    (h : Good depth a) (hsteps : Relation.TransGen R a b) : ∃ below < depth, Good below b := by
  induction hsteps with
  | single hlast => exact hstep _ _ _ h hlast
  | tail _ hlast ih =>
      obtain ⟨below, hlt, hbelow⟩ := ih
      obtain ⟨below', hlt', hbelow'⟩ := hstep _ _ _ hbelow hlast
      exact ⟨below', hlt'.trans hlt, hbelow'⟩

/-- Where each step descends, what is reached is at some depth too. -/
theorem exists_of_reflTransGen_of_descends
    (hstep : ∀ depth a b, Good depth a → R a b → ∃ below < depth, Good below b) {depth : Nat} {a b : α}
    (h : Good depth a) (hsteps : Relation.ReflTransGen R a b) : ∃ below, Good below b := by
  rcases Relation.reflTransGen_iff_eq_or_transGen.mp hsteps with rfl | hsteps
  · exact ⟨depth, h⟩
  · obtain ⟨below, -, hbelow⟩ := exists_lt_of_transGen_of_descends hstep h hsteps
    exact ⟨below, hbelow⟩

/-- Steps that descend do not lead back. -/
theorem not_transGen_of_descends
    (hstep : ∀ depth a b, Good depth a → R a b → ∃ below < depth, Good below b) {depth : Nat} {a : α}
    (h : Good depth a) : ¬ Relation.TransGen R a a := by
  -- otherwise the same could be had at ever smaller depths
  intro hcycle
  induction depth using Nat.strongRecOn with
  | ind depth ih =>
      obtain ⟨below, hlt, hbelow⟩ := exists_lt_of_transGen_of_descends hstep h hcycle
      exact ih below hlt hbelow

end Descends

namespace Schema

variable {document : Value}

/-- More replacements do no harm where those that there are suffice. -/
theorem expandWith_mono {f g : String → Except ReferenceError Schema} {s r : Schema}
    (hfg : ∀ q t, s.Mentions q → f q = .ok t → g q = .ok t) (h : expandWith f s = .ok r) :
    expandWith g s = .ok r := by
  rw [← h]
  refine expandWith_congr s fun q hq => ?_
  obtain ⟨t, ht⟩ := exists_replace_of_expandWith_eq_ok h (mem_references_iff.mp hq)
  rw [ht, hfg q t (mem_references_iff.mp hq) ht]

/-- The schema that a reference leads to, with its references replaced down to a depth. -/
def unfoldReference (document : Value) : Nat → String → Except ReferenceError Schema
  | 0, pointer => .error (.unlisted [] pointer)
  | depth + 1, pointer => do
      let s ← atPointer document pointer
      expandWith (unfoldReference document depth) s

/-- A reference that is unfolded leads to a schema that is unfolded to the depth below. -/
theorem unfoldReference_eq_ok_iff {depth : Nat} {p : String} {r : Schema} :
    unfoldReference document depth p = .ok r ↔ ∃ below s, depth = below + 1 ∧
      atPointer document p = .ok s ∧ expandWith (unfoldReference document below) s = .ok r := by
  cases depth with
  | zero => exact ⟨nofun, fun ⟨_, _, h, _⟩ => nomatch h⟩
  | succ below =>
      rw [unfoldReference, bind_eq_ok_iff]
      constructor
      · rintro ⟨s, hs, h⟩
        exact ⟨below, s, rfl, hs, h⟩
      · rintro ⟨below', s, hdepth, hs, h⟩
        cases hdepth
        exact ⟨s, hs, h⟩

/-- A greater depth does no harm. -/
theorem unfoldReference_mono {depth depth' : Nat} (hle : depth ≤ depth') {p : String} {r : Schema}
    (h : unfoldReference document depth p = .ok r) : unfoldReference document depth' p = .ok r := by
  induction depth generalizing depth' p r with
  | zero => cases h
  | succ below ih =>
      obtain ⟨_, s, hdepth, hs, h⟩ := unfoldReference_eq_ok_iff.mp h
      cases hdepth
      obtain ⟨below', rfl⟩ : ∃ below', depth' = below' + 1 := ⟨depth' - 1, by omega⟩
      refine unfoldReference_eq_ok_iff.mpr ⟨below', s, rfl, hs, ?_⟩
      exact expandWith_mono (fun q t _ hq => ih (Nat.le_of_succ_le_succ hle) hq) h

/-- An expanded reference is an unfolded one. -/
theorem unfoldReference_of_expandReference {bound : Nat} {chain : List String} {p : String} {r : Schema}
    (h : expandReference document bound chain p = .ok r) : unfoldReference document bound p = .ok r := by
  induction bound generalizing chain p r with
  | zero => exact absurd h expandReference_zero_ne_ok
  | succ bound ih =>
      obtain ⟨s, -, hs, hexp⟩ := expandReference_succ_eq_ok h
      exact unfoldReference_eq_ok_iff.mpr ⟨bound, s, rfl, hs, expandWith_mono (fun q t _ hq => ih hq) hexp⟩

/-! ## What unfolding rules out -/

/-- What an unfolded reference leads to is unfolded to a smaller depth. -/
theorem exists_lt_of_leadsTo (depth : Nat) (p q : String) :
    (∃ r, unfoldReference document depth p = .ok r) → LeadsTo document p q →
      ∃ below < depth, ∃ t, unfoldReference document below q = .ok t := by
  rintro ⟨r, h⟩ ⟨s', hs', hmention⟩
  obtain ⟨below, s, rfl, hs, hexp⟩ := unfoldReference_eq_ok_iff.mp h
  cases hs.symm.trans hs'
  exact ⟨below, Nat.lt_succ_self below, exists_replace_of_expandWith_eq_ok hexp hmention⟩

/-- An unfolded reference does not lead back to itself. -/
theorem not_transGen_of_unfoldReference {depth : Nat} {p : String} {r : Schema}
    (h : unfoldReference document depth p = .ok r) : ¬ Relation.TransGen (LeadsTo document) p p :=
  not_transGen_of_descends exists_lt_of_leadsTo ⟨r, h⟩

/-- What a schema reaches is unfolded where its own references are. -/
theorem exists_unfoldReference_of_reachable {depth : Nat} {s r : Schema}
    (h : expandWith (unfoldReference document depth) s = .ok r) {q : String} (hq : Reachable document s q) :
    ∃ below t, unfoldReference document below q = .ok t := by
  obtain ⟨p, hp, hsteps⟩ := hq
  obtain ⟨t, ht⟩ := exists_replace_of_expandWith_eq_ok h hp
  exact exists_of_reflTransGen_of_descends exists_lt_of_leadsTo ⟨t, ht⟩ hsteps

/-- **A schema has an expansion exactly when it can be unfolded to some depth**, with the same result. -/
theorem expand_eq_ok_iff {s r : Schema} :
    expand document s = .ok r ↔ ∃ depth, expandWith (unfoldReference document depth) s = .ok r := by
  constructor
  · intro h
    exact ⟨_, expandWith_mono (fun q t _ hq => unfoldReference_of_expandReference hq) h⟩
  · rintro ⟨depth, h⟩
    -- neither a cycle nor a lost reference is left for the expansion to fail on
    obtain ⟨r', h'⟩ : ∃ r', expand document s = .ok r' := by
      refine exists_eq_ok_of_forall_ne_error fun e he => ?_
      rcases of_expand_eq_error he with ⟨chain, -, hcyclic⟩ | ⟨q, hq, hlost⟩
      · obtain ⟨q, hq, hcycle⟩ := hcyclic.exists_reachable
        obtain ⟨below, t, ht⟩ := exists_unfoldReference_of_reachable h hq
        exact not_transGen_of_unfoldReference ht hcycle
      · obtain ⟨below, t, ht⟩ := exists_unfoldReference_of_reachable h hq
        obtain ⟨_, s', -, hs', -⟩ := unfoldReference_eq_ok_iff.mp ht
        rw [atPointer_eq_error_iff.mpr hlost] at hs'
        cases hs'
    -- both results are those of the greater depth
    have hdepths : ∀ depth', expandWith (unfoldReference document depth') s = .ok r' → r' = r := by
      intro depth' hdepth'
      have hfirst := expandWith_mono
        (fun q t _ hq => unfoldReference_mono (Nat.le_max_left depth depth') hq) h
      have hsecond := expandWith_mono
        (fun q t _ hq => unfoldReference_mono (Nat.le_max_right depth depth') hq) hdepth'
      exact Except.ok.inj (hsecond.symm.trans hfirst)
    rw [h', hdepths _ (expandWith_mono (fun q t _ hq => unfoldReference_of_expandReference hq) h')]

/-- A reference to a schema has the expansion of the schema. -/
theorem expand_reference {p : String} {s r : Schema} (hs : atPointer document p = .ok s)
    (h : expand document s = .ok r) : expand document (.reference p) = .ok r := by
  obtain ⟨depth, hdepth⟩ := expand_eq_ok_iff.mp h
  exact expand_eq_ok_iff.mpr ⟨depth + 1, unfoldReference_eq_ok_iff.mpr ⟨depth, s, rfl, hs, hdepth⟩⟩

end Schema

end ServiceBindings
