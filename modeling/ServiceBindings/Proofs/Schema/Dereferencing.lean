import Mathlib.Data.List.Chain
import Mathlib.Data.List.Nodup
import ServiceBindings.Proofs.Schema.Expansion
import ServiceBindings.Proofs.Schema.Written

/-! # Exactness of dereferencing

The references of a document form a graph: one pointer **leads to** another if the schema at its place
mentions it (`Schema.LeadsTo`). `Schema.expand` walks this graph with a chain of the pointers that it
is inside of, and what it answers is decided by the graph alone (`Schema.expand_exact`):

* it succeeds exactly when every reachable pointer resolves and none of them leads back to itself;
* what it returns mentions no reference, and expanding it again changes nothing;
* an error is a chain that closes a cycle, or the failure of a reachable pointer to resolve, which it names
  unless an index has too many digits.

The failures of the walk are derivations of `Schema.Failure`; that the walk never runs out of its bound
rests on the chain holding different references of the document. -/

namespace ServiceBindings

namespace Schema

/-! ## The graph of references -/

/-- The schema at the place of the first pointer mentions the second. -/
def LeadsTo (document : Value) (p q : String) : Prop :=
  ∃ s, atPointer document p = .ok s ∧ s.Mentions q

/-- A pointer that a schema mentions, or that such a pointer leads to in some steps. -/
def Reachable (document : Value) (s : Schema) (q : String) : Prop :=
  ∃ p, s.Mentions p ∧ Relation.ReflTransGen (LeadsTo document) p q

/-- A pointer leads to a value of the document. -/
def Resolves (document : Value) (pointer : String) : Prop :=
  ∃ v, Pointer.resolve document pointer = .ok v

/-- A chain of references that begins in a schema and ends where it has been before. -/
structure CyclicChain (document : Value) (s : Schema) (chain : List String) : Prop where
  /-- The last reference occurs earlier. -/
  closes : ∃ last ∈ chain.getLast?, last ∈ chain.dropLast
  /-- The references before the last one are different. -/
  distinct : chain.dropLast.Nodup
  /-- The first reference is mentioned in the schema. -/
  begins : ∃ first ∈ chain.head?, s.Mentions first
  /-- Every reference leads to the next one. -/
  continues : chain.IsChain (LeadsTo document)

variable {document : Value}

/-- What stands at a pointer is read from the value that the pointer leads to. -/
theorem atPointer_eq_ok_iff {pointer : String} {s : Schema} :
    atPointer document pointer = .ok s
      ↔ ∃ v, Pointer.resolve document pointer = .ok v ∧ s = ofValue v := by
  unfold atPointer
  cases Pointer.resolve document pointer with
  | error e => exact ⟨nofun, nofun⟩
  | ok v => simp [Except.map, eq_comm]

/-- Nothing stands at a pointer that does not resolve. -/
theorem atPointer_eq_error_iff {pointer : String} {e : ReferenceError} :
    atPointer document pointer = .error e ↔ Pointer.resolve document pointer = .error e := by
  unfold atPointer
  cases Pointer.resolve document pointer with
  | error e' => simp [Except.map]
  | ok v => exact ⟨nofun, nofun⟩

/-- A pointer fails to resolve with an error that names it, or for an index of too many digits. -/
theorem eq_of_resolve_eq_error {pointer : String} {e : ReferenceError}
    (h : Pointer.resolve document pointer = .error e) :
    e = .notLocal pointer ∨ e = .unresolvable pointer ∨ ∃ count, e = .tooManyDigits count := by
  unfold Pointer.resolve at h
  split at h
  · cases h
    exact Or.inl rfl
  · split at h
    · cases h
    · rw [Pointer.lost] at h
      split at h
      · next count _ =>
          cases h
          exact Or.inr (Or.inr ⟨count, rfl⟩)
      · cases h
        exact Or.inr (Or.inl rfl)

/-- A reference off the chain leads to what stands at its pointer. -/
theorem followOnce_of_not_mem {chain : List String} {pointer : String} (h : pointer ∉ chain) :
    followOnce (some document) chain pointer = atPointer document pointer := by
  rw [followOnce, if_neg h]

/-- A reference on the chain closes a cycle. -/
theorem followOnce_of_mem {document : Option Value} {chain : List String} {pointer : String}
    (h : pointer ∈ chain) :
    followOnce document chain pointer = .error (.cyclic (chain ++ [pointer])) := by
  unfold followOnce
  rw [if_pos h]

/-- A reference is followed off the chain into a document. -/
theorem followOnce_eq_ok {document : Option Value} {chain : List String} {q : String} {s : Schema}
    (h : followOnce document chain q = .ok s) :
    q ∉ chain ∧ ∃ d, document = some d ∧ atPointer d q = .ok s := by
  unfold followOnce at h
  split at h
  · cases h
  · next hq =>
      cases document with
      | none => cases h
      | some d => exact ⟨hq, d, rfl, h⟩

/-! ## Success -/

/-- Without a bound no reference is expanded. -/
theorem expandReference_zero_ne_ok {chain : List String} {p : String} {r : Schema} :
    expandReference document 0 chain p ≠ .ok r := by
  intro h
  unfold expandReference at h
  split at h <;> cases h

/-- One step of a successful expansion: the reference is off the chain, and what stands at its pointer
is expanded on top of the longer chain. -/
theorem expandReference_succ_eq_ok {bound : Nat} {chain : List String} {p : String} {r : Schema}
    (h : expandReference document (bound + 1) chain p = .ok r) :
    ∃ s, p ∉ chain ∧ atPointer document p = .ok s ∧
      expandWith (expandReference document bound (chain ++ [p])) s = .ok r := by
  rw [expandReference] at h
  by_cases hp : p ∈ chain
  · rw [followOnce_of_mem hp] at h
    cases h
  · rw [followOnce_of_not_mem hp] at h
    cases hs : atPointer document p with
    | error e =>
        rw [hs] at h
        cases h
    | ok s =>
        rw [hs] at h
        exact ⟨s, hp, rfl, h⟩

/-- **What a successful expansion rules out.** Every pointer that can be reached from the reference
resolves, is off the chain and does not lead back to itself. -/
theorem of_expandReference_eq_ok {bound : Nat} {chain : List String} {p : String} {r : Schema}
    (h : expandReference document bound chain p = .ok r) {q : String}
    (hq : Relation.ReflTransGen (LeadsTo document) p q) :
    Resolves document q ∧ q ∉ chain ∧ ¬ Relation.TransGen (LeadsTo document) q q := by
  induction bound generalizing chain p r q with
  | zero => exact absurd h expandReference_zero_ne_ok
  | succ bound ih =>
      obtain ⟨s, hp, hs, hexp⟩ := expandReference_succ_eq_ok h
      -- beyond the first step the chain is longer, so nothing there is the reference itself
      have hbeyond : ∀ {q' q}, LeadsTo document p q' → Relation.ReflTransGen (LeadsTo document) q' q →
          Resolves document q ∧ q ∉ chain ++ [p] ∧ ¬ Relation.TransGen (LeadsTo document) q q := by
        rintro q' q ⟨s', hs', hmention⟩ hq
        rw [hs, Except.ok.injEq] at hs'
        subst hs'
        obtain ⟨t, ht⟩ := exists_replace_of_expandWith_eq_ok hexp hmention
        exact ih ht hq
      rcases Relation.ReflTransGen.cases_head hq with rfl | ⟨q', hstep, hrest⟩
      · refine ⟨?_, hp, fun hcycle => ?_⟩
        · obtain ⟨v, hv, -⟩ := atPointer_eq_ok_iff.mp hs
          exact ⟨v, hv⟩
        · obtain ⟨q', hstep, hrest⟩ := Relation.TransGen.head'_iff.mp hcycle
          exact (hbeyond hstep hrest).2.1 (List.mem_append_right _ (List.mem_singleton_self p))
      · obtain ⟨hres, hoff, hacyclic⟩ := hbeyond hstep hrest
        exact ⟨hres, fun hmem => hoff (List.mem_append_left _ hmem), hacyclic⟩

/-- The expansion of a reference mentions nothing. -/
theorem not_mentions_of_expandReference {bound : Nat} {chain : List String} {p : String} {r : Schema}
    (h : expandReference document bound chain p = .ok r) (q : String) : ¬ r.Mentions q := by
  induction bound generalizing chain p r with
  | zero => exact absurd h expandReference_zero_ne_ok
  | succ bound ih =>
      obtain ⟨s, -, -, hexp⟩ := expandReference_succ_eq_ok h
      intro hq
      obtain ⟨p', t, -, ht, hmention⟩ := exists_mentions_of_mentions_expandWith hexp hq
      exact ih ht hmention

/-! ## Failure -/

/-- How following a reference on top of a chain fails: it is on the chain already, it does not resolve,
or a reference that it leads to fails on top of the longer chain. -/
inductive Failure (document : Value) : List String → String → ReferenceError → Prop where
  /-- The reference is on the chain already. -/
  | cyclic {chain : List String} {p : String} :
      p ∈ chain → Failure document chain p (.cyclic (chain ++ [p]))
  /-- The pointer does not resolve. -/
  | lost {chain : List String} {p : String} {e : ReferenceError} :
      p ∉ chain → Pointer.resolve document p = .error e → Failure document chain p e
  /-- A reference fails that this one leads to. -/
  | inside {chain : List String} {p q : String} {e : ReferenceError} :
      p ∉ chain → LeadsTo document p q → Failure document (chain ++ [p]) q e →
      Failure document chain p e

/-- A chain grows by a reference that is not on it. -/
theorem nodup_append_singleton {chain : List String} {p : String} (hnodup : chain.Nodup)
    (hp : p ∉ chain) : (chain ++ [p]).Nodup := by
  rw [List.nodup_append_comm]
  exact List.nodup_cons.mpr ⟨hp, hnodup⟩

/-- **A failed expansion has a reason.** On top of a chain of different references of a list that
includes those of the document, the bound is not the reason if chain and bound are as long as the list
has different references. -/
theorem failure_of_expandReference_eq_error (texts : List String)
    (hdocument : document.referenceTexts ⊆ texts) {bound : Nat} {chain : List String} {p : String}
    {e : ReferenceError} (hnodup : chain.Nodup) (hchain : chain ⊆ texts) (hp : p ∈ texts)
    (hbound : distinctCount texts ≤ chain.length + bound)
    (h : expandReference document bound chain p = .error e) : Failure document chain p e := by
  induction bound generalizing chain p with
  | zero =>
      rw [expandReference] at h
      by_cases hmem : p ∈ chain
      · rw [if_pos hmem] at h
        cases h
        exact .cyclic hmem
      -- the chain holds all references of the list already, so this one must be on it
      · have hlt := length_lt_distinctCount hnodup hchain hmem hp
        omega
  | succ bound ih =>
      rw [expandReference] at h
      by_cases hmem : p ∈ chain
      · rw [followOnce_of_mem hmem] at h
        cases h
        exact .cyclic hmem
      · rw [followOnce_of_not_mem hmem] at h
        cases hs : atPointer document p with
        | error e' =>
            rw [hs] at h
            cases h
            exact .lost hmem (atPointer_eq_error_iff.mp hs)
        | ok s =>
            rw [hs] at h
            -- some reference in `s` fails on top of the chain with `p` behind it
            obtain ⟨q, hq, hfail⟩ := exists_mentions_of_expandWith_eq_error h
            refine .inside hmem ⟨s, hs, hq⟩ (ih ?_ ?_ ?_ ?_ hfail)
            · exact nodup_append_singleton hnodup hmem
            · exact List.append_subset.mpr ⟨hchain, List.cons_subset.mpr ⟨hp, List.nil_subset _⟩⟩
            · exact hdocument (refersWithin_atPointer hs q hq)
            · rw [List.length_append, List.length_singleton]
              omega

/-- **The two kinds of failure.** Either the references followed since the chain lead to one that has
been followed before, or they lead to a pointer that does not resolve. -/
theorem Failure.analysis {chain : List String} {p : String} {e : ReferenceError}
    (h : Failure document chain p e) (hnodup : chain.Nodup) :
    (∃ path last, e = .cyclic (chain ++ path ++ [last]) ∧ (path ++ [last]).head? = some p ∧
      (path ++ [last]).IsChain (LeadsTo document) ∧ (chain ++ path).Nodup ∧ last ∈ chain ++ path) ∨
    ∃ q, Relation.ReflTransGen (LeadsTo document) p q ∧ Pointer.resolve document q = .error e := by
  induction h with
  | @cyclic chain p hmem =>
      refine Or.inl ⟨[], p, ?_, rfl, List.isChain_singleton p, ?_, ?_⟩
      · rw [List.append_nil]
      · rwa [List.append_nil]
      · rwa [List.append_nil]
  | @lost chain p e _ hp => exact Or.inr ⟨p, .refl, hp⟩
  | @inside chain p q e hmem hstep _ ih =>
      rcases ih (nodup_append_singleton hnodup hmem) with
        ⟨path, last, he, hhead, hpath, hnd, hlast⟩ | ⟨r, hreach, hr⟩
      -- the path found behind `p` is the rest of the path that begins with `p`
      · have hassoc : chain ++ [p] ++ path = chain ++ p :: path := by simp
        rw [hassoc] at he hnd hlast
        refine Or.inl ⟨p :: path, last, he, rfl, ?_, hnd, hlast⟩
        rw [List.cons_append]
        refine List.IsChain.cons hpath fun y hy => ?_
        rw [hhead, Option.mem_some_iff] at hy
        exact hy ▸ hstep
      · exact Or.inr ⟨r, .head hstep hreach, hr⟩

/-- A failed expansion of a schema is a failure of a reference that the schema mentions. -/
theorem failure_of_expand_eq_error {s : Schema} {e : ReferenceError}
    (h : expand document s = .error e) : ∃ p, s.Mentions p ∧ Failure document [] p e := by
  obtain ⟨p, hp, hfail⟩ := exists_mentions_of_expandWith_eq_error h
  refine ⟨p, hp, ?_⟩
  refine failure_of_expandReference_eq_error (document.referenceTexts ++ s.references)
    (List.subset_append_left _ _) List.nodup_nil (List.nil_subset _) ?_ ?_ hfail
  · exact List.mem_append_right _ (mem_references_iff.mpr hp)
  · rw [List.length_nil, Nat.zero_add, Value.referenceCount]

/-! ## Exactness -/

/-- Steps that come back to a place they have passed close a cycle there. -/
theorem transGen_of_isChain {α : Type} {R : α → α → Prop} {path : List α} {last : α}
    (h : (path ++ [last]).IsChain R) (hlast : last ∈ path) : Relation.TransGen R last last := by
  obtain ⟨before, between, rfl⟩ := List.append_of_mem hlast
  rw [List.append_assoc, List.cons_append] at h
  -- what is left from the earlier occurrence on is the loop
  have hloop := (List.isChain_append.mp h).2.1
  cases hrest : between ++ [last] with
  | nil => exact absurd hrest (List.append_ne_nil_of_right_ne_nil _ (List.cons_ne_nil _ _))
  | cons next rest =>
      rw [hrest, List.isChain_cons_cons] at hloop
      refine Relation.TransGen.head' hloop.1 ?_
      refine List.relationReflTransGen_of_exists_isChain_cons rest hloop.2 ?_
      simp only [← hrest, List.getLast_append_singleton]

/-- A reachable pointer of a schema that can be expanded resolves and does not lead back to itself. -/
theorem of_reachable_of_expand_eq_ok {s r : Schema} (h : expand document s = .ok r) {q : String}
    (hq : Reachable document s q) :
    Resolves document q ∧ ¬ Relation.TransGen (LeadsTo document) q q := by
  obtain ⟨p, hp, hreach⟩ := hq
  obtain ⟨t, ht⟩ := exists_replace_of_expandWith_eq_ok h hp
  obtain ⟨hres, -, hacyclic⟩ := of_expandReference_eq_ok ht hreach
  exact ⟨hres, hacyclic⟩

/-- An expansion mentions no reference. -/
theorem not_mentions_of_expand_eq_ok {s r : Schema} (h : expand document s = .ok r) (q : String) :
    ¬ r.Mentions q := by
  intro hq
  obtain ⟨p, t, -, ht, hmention⟩ := exists_mentions_of_mentions_expandWith h hq
  exact not_mentions_of_expandReference ht q hmention

/-- An error of an expansion is a chain that closes a cycle, or a reachable pointer is lost. -/
theorem of_expand_eq_error {s : Schema} {e : ReferenceError} (h : expand document s = .error e) :
    (∃ chain, e = .cyclic chain ∧ CyclicChain document s chain) ∨
      ∃ q, Reachable document s q ∧ Pointer.resolve document q = .error e := by
  obtain ⟨p, hp, hfail⟩ := failure_of_expand_eq_error h
  rcases hfail.analysis List.nodup_nil with ⟨path, last, he, hhead, hpath, hnd, hlast⟩ | ⟨q, hq, hlost⟩
  · rw [List.nil_append] at he hnd hlast
    refine Or.inl ⟨path ++ [last], he, ?_, ?_, ⟨p, hhead, hp⟩, hpath⟩
    · exact ⟨last, by simp, by simpa using hlast⟩
    · simpa using hnd
  · exact Or.inr ⟨q, ⟨p, hp, hq⟩, hlost⟩

/-- Where a chain closes a cycle, a reachable pointer leads back to itself. -/
theorem CyclicChain.exists_reachable {s : Schema} {chain : List String}
    (h : CyclicChain document s chain) :
    ∃ q, Reachable document s q ∧ Relation.TransGen (LeadsTo document) q q := by
  obtain ⟨last, hlast, hmem⟩ := h.closes
  obtain ⟨first, hfirst, hbegins⟩ := h.begins
  obtain ⟨path, rfl⟩ : ∃ path, chain = path ++ [last] :=
    ⟨chain.dropLast, (List.dropLast_append_getLast? last hlast).symm⟩
  rw [List.dropLast_concat] at hmem
  refine ⟨last, ⟨first, hbegins, ?_⟩, transGen_of_isChain h.continues hmem⟩
  -- every place of the chain is reached from its beginning, so the last one is
  refine h.continues.induction (fun q => Relation.ReflTransGen (LeadsTo document) first q) _
    (fun _ _ hstep hreach => hreach.tail hstep) (fun hne => ?_) last (by simp)
  rw [List.head?_eq_some_head hne, Option.mem_some_iff] at hfirst
  exact hfirst ▸ Relation.ReflTransGen.refl

/-- **Exactness of dereferencing.** A schema can be expanded exactly when every reachable pointer
resolves and none leads back to itself. The expansion mentions no reference, and expanding it once
more, in whatever document, gives it back. A failure is either a chain that closes a cycle or that of a
reachable pointer which does not resolve, and an error that is reported names this pointer. -/
theorem expand_exact (document : Value) (s : Schema) :
    ((∃ r, expand document s = .ok r) ↔ ∀ q, Reachable document s q →
      Resolves document q ∧ ¬ Relation.TransGen (LeadsTo document) q q) ∧
    (∀ r, expand document s = .ok r →
      (∀ q, ¬ r.Mentions q) ∧ ∀ other, expand other r = .ok r) ∧
    (∀ e, expand document s = .error e →
      (∃ chain, e = .cyclic chain ∧ CyclicChain document s chain) ∨
      ∃ q, Pointer.resolve document q = .error e ∧
        (e.isReported = true → e = .notLocal q ∨ e = .unresolvable q) ∧ Reachable document s q ∧
        ¬ Resolves document q) := by
  refine ⟨⟨?_, fun hclear => ?_⟩, fun r h => ⟨not_mentions_of_expand_eq_ok h, fun other => ?_⟩,
    fun e h => ?_⟩
  · rintro ⟨r, h⟩ q hq
    exact of_reachable_of_expand_eq_ok h hq
  -- an error would show a cycle or a pointer that is lost, and both are excluded
  · refine exists_eq_ok_of_forall_ne_error fun e he => ?_
    rcases of_expand_eq_error he with ⟨chain, -, hcyclic⟩ | ⟨q, hq, hlost⟩
    · obtain ⟨q, hq, hcycle⟩ := hcyclic.exists_reachable
      exact (hclear q hq).2 hcycle
    · obtain ⟨v, hv⟩ := (hclear q hq).1
      rw [hv] at hlost
      cases hlost
  -- nothing is left to replace, so the document does not matter
  · exact expandWith_of_references_eq_nil _ r
      (references_eq_nil_iff.mpr (not_mentions_of_expand_eq_ok h))
  · rcases of_expand_eq_error h with hcyclic | ⟨q, hq, hlost⟩
    · exact Or.inl hcyclic
    · refine Or.inr ⟨q, hlost, fun hreported => ?_, hq, ?_⟩
      · rcases eq_of_resolve_eq_error hlost with heq | heq | ⟨count, rfl⟩
        · exact Or.inl heq
        · exact Or.inr heq
        · cases hreported
      rintro ⟨v, hv⟩
      rw [hv] at hlost
      cases hlost

end Schema

end ServiceBindings
