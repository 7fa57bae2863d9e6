import ServiceBindings.Proofs.Schema.Dereferencing

/-! # Walks that follow references

A `GuardedWalk` visits a subject, follows the references that it mentions, and visits what these lead to,
with a **chain** of the references that it is inside of: a reference on the chain closes a cycle and is not
followed.

* `GuardedWalk.Run` is such a walk without any bound: a finite tree of visits, one inside the other, in which
  no chain holds a reference twice or is longer than a given number. What it answers is decided by the
  subject alone (`GuardedWalk.Run.unique`).
* `GuardedWalk.outcome` is the walk with a bound on the references that may still be followed.

**The bound does no harm** (`GuardedWalk.terminates`): with as many different references as the document and
the subject have, the bounded walk is an unbounded one, its answer is never that the bound was reached, and a
failure is a cycle or that of one of these references.
`Value.following` and `Schema.expanding` are the walks behind `Value.follow` and `Schema.expand`. -/

namespace ServiceBindings

/-- A walk over subjects `σ` that follows references. It answers one or several questions `ι` about a
subject. -/
structure GuardedWalk (σ ι τ : Type) where
  /-- What a reference leads to. -/
  locate : String → Except ReferenceError σ
  /-- The references that are followed from a subject. -/
  Mentions : σ → String → Prop
  /-- The answer for a subject, given the answers for what its references lead to. -/
  visit : (String → ι → Except ReferenceError τ) → σ → ι → Except ReferenceError τ
  /-- No other reference matters. -/
  visit_congr : ∀ {f g : String → ι → Except ReferenceError τ} {s : σ},
    (∀ q, Mentions s q → f q = g q) → visit f s = visit g s
  /-- A visit fails only where a reference fails. -/
  exists_of_visit_eq_error : ∀ {f : String → ι → Except ReferenceError τ} {s : σ} {i : ι}
    {e : ReferenceError}, visit f s i = .error e → ∃ q j, Mentions s q ∧ f q j = .error e

namespace GuardedWalk

variable {σ ι τ : Type} {w : GuardedWalk σ ι τ}

/-- **A walk without bound** on top of a chain: the subject is visited with the outcome of each of its
references. On the chain that is a cycle; a reference that leads nowhere fails; otherwise the walk goes on
in what the reference leads to, on top of the longer chain. No chain has repetitions or is longer than
`count`. -/
inductive Run (w : GuardedWalk σ ι τ) (count : Nat) :
    List String → σ → (ι → Except ReferenceError τ) → Prop where
  /-- One visit. -/
  | visit {chain : List String} {s : σ} (outcome : String → ι → Except ReferenceError τ) :
      chain.Nodup → chain.length ≤ count →
      (∀ q, w.Mentions s q → q ∈ chain → outcome q = fun _ => .error (.cyclic (chain ++ [q]))) →
      (∀ q e, w.Mentions s q → q ∉ chain → w.locate q = .error e → outcome q = fun _ => .error e) →
      (∀ q t, w.Mentions s q → q ∉ chain → w.locate q = .ok t →
        Run w count (chain ++ [q]) t (outcome q)) →
      Run w count chain s (w.visit outcome s)

/-- A walk has one answer. -/
theorem Run.unique {count count' : Nat} {chain : List String} {s : σ}
    {r r' : ι → Except ReferenceError τ} (h : w.Run count chain s r) (h' : w.Run count' chain s r') :
    r = r' := by
  induction h generalizing r' with
  | @visit chain s outcome _ _ hcyclic hlost hinside ih =>
      cases h' with
      | visit outcome' _ _ hcyclic' hlost' hinside' =>
          refine w.visit_congr fun q hq => ?_
          by_cases hmem : q ∈ chain
          · rw [hcyclic q hq hmem, hcyclic' q hq hmem]
          · cases hlocate : w.locate q with
            | error e => rw [hlost q e hq hmem hlocate, hlost' q e hq hmem hlocate]
            | ok t => exact ih q t hq hmem hlocate (hinside' q t hq hmem hlocate)

/-- A walk never answers that a bound was reached. -/
theorem Run.ne_unlisted (hlocate : ∀ q chain r, w.locate q ≠ .error (.unlisted chain r)) {count : Nat}
    {chain : List String} {s : σ} {r : ι → Except ReferenceError τ} (h : w.Run count chain s r) (i : ι)
    (chain' : List String) (q : String) : r i ≠ .error (.unlisted chain' q) := by
  induction h generalizing i with
  | @visit chain s outcome _ _ hcyclic hlost _ ih =>
      intro hfail
      obtain ⟨q', j, hq', hfail⟩ := w.exists_of_visit_eq_error hfail
      by_cases hmem : q' ∈ chain
      · rw [hcyclic q' hq' hmem] at hfail
        cases hfail
      · cases hat : w.locate q' with
        | error e =>
            rw [hlost q' e hq' hmem hat, Except.error.injEq] at hfail
            exact hlocate q' chain' q (hfail ▸ hat)
        | ok t => exact ih q' t hq' hmem hat j hfail

/-- A walk on listed references fails with a cycle, or with the failure of a reference on the list. -/
theorem Run.isCyclic_or_locate_eq_error {texts : List String}
    (hlisted : ∀ q t, w.locate q = .ok t → ∀ r, w.Mentions t r → r ∈ texts) {count : Nat}
    {chain : List String} {s : σ} {r : ι → Except ReferenceError τ} (h : w.Run count chain s r)
    (hs : ∀ q, w.Mentions s q → q ∈ texts) {i : ι} {e : ReferenceError} (hfail : r i = .error e) :
    (∃ cycle, e = .cyclic cycle) ∨ ∃ q ∈ texts, w.locate q = .error e := by
  induction h generalizing i with
  | @visit chain s outcome _ _ hcyclic hlost _ ih =>
      obtain ⟨q, j, hq, hfail⟩ := w.exists_of_visit_eq_error hfail
      by_cases hmem : q ∈ chain
      · rw [hcyclic q hq hmem] at hfail
        exact Or.inl ⟨_, (Except.error.inj hfail).symm⟩
      · cases hat : w.locate q with
        | error e' =>
            rw [hlost q e' hq hmem hat] at hfail
            exact Or.inr ⟨q, hs q hq, hat.trans (congrArg Except.error (Except.error.inj hfail))⟩
        | ok t => exact ih q t hq hmem hat (hlisted q t hat) hfail

/-- The walk ends with an answer, on chains of different references of a list. The answer is a result, a cycle,
or the failure of one of these references. -/
structure Terminates (w : GuardedWalk σ ι τ) (texts : List String) (s : σ)
    (answer : ι → Except ReferenceError τ) : Prop where
  /-- The answer is that of a walk without bound, on chains no longer than the list has different references. -/
  run : w.Run (distinctCount texts) [] s answer
  /-- The answer is not that a bound was reached. -/
  ne_unlisted : ∀ i chain q, answer i ≠ .error (.unlisted chain q)
  /-- A failure is a cycle or that of a reference. -/
  failure : ∀ i e, answer i = .error e → (∃ cycle, e = .cyclic cycle) ∨ ∃ q ∈ texts, w.locate q = .error e

/-! ## The walk with a bound -/

/-- The outcome of a reference on top of a chain of at most `bound` more. -/
def outcome (w : GuardedWalk σ ι τ) :
    Nat → List String → String → ι → Except ReferenceError τ
  | 0, chain, q =>
      if q ∈ chain then fun _ => .error (.cyclic (chain ++ [q])) else fun _ => .error (.unlisted chain q)
  | bound + 1, chain, q =>
      if q ∈ chain then fun _ => .error (.cyclic (chain ++ [q]))
      else
        match w.locate q with
        | .ok t => w.visit (w.outcome bound (chain ++ [q])) t
        | .error e => fun _ => .error e

/-- A reference on the chain closes a cycle, whatever the bound. -/
theorem outcome_of_mem {chain : List String} {q : String} (h : q ∈ chain) (bound : Nat) :
    w.outcome bound chain q = fun _ => .error (.cyclic (chain ++ [q])) := by
  cases bound with
  | zero => rw [outcome, if_pos h]
  | succ bound => rw [outcome, if_pos h]

section Outcome

variable {chain : List String} {q : String}

/-- Off the chain and without a bound nothing more is followed. -/
theorem outcome_zero_of_notMem (h : q ∉ chain) :
    w.outcome 0 chain q = fun _ => .error (.unlisted chain q) := by
  rw [outcome, if_neg h]

/-- Off the chain the walk goes on in what the reference leads to. -/
theorem outcome_succ_of_locate_eq_ok (h : q ∉ chain) {t : σ} (ht : w.locate q = .ok t) (bound : Nat) :
    w.outcome (bound + 1) chain q = w.visit (w.outcome bound (chain ++ [q])) t := by
  rw [outcome, if_neg h, ht]

/-- Off the chain a reference that leads nowhere fails. -/
theorem outcome_succ_of_locate_eq_error (h : q ∉ chain) {e : ReferenceError}
    (he : w.locate q = .error e) (bound : Nat) :
    w.outcome (bound + 1) chain q = fun _ => .error e := by
  rw [outcome, if_neg h, he]

end Outcome

variable {texts : List String}

/-- **The bounded walk is an unbounded one** on top of a chain of different references from a list, if
chain and bound are together as long as the list has different references. -/
theorem run_outcome (hlisted : ∀ q t, w.locate q = .ok t → ∀ r, w.Mentions t r → r ∈ texts)
    {bound : Nat} {chain : List String} {s : σ} (hnodup : chain.Nodup) (hchain : chain ⊆ texts)
    (hs : ∀ q, w.Mentions s q → q ∈ texts) (hbound : distinctCount texts ≤ chain.length + bound) :
    w.Run (distinctCount texts) chain s (w.visit (w.outcome bound chain) s) := by
  have hlength : chain.length ≤ distinctCount texts :=
    hnodup.length_le_of_subset fun q hq => List.mem_eraseDups.mpr (hchain hq)
  induction bound generalizing chain s with
  | zero =>
      -- the chain holds all references of the list, so none is off the chain
      have hfull : ∀ q, w.Mentions s q → q ∈ chain := by
        intro q hq
        by_contra hmem
        have hlt := length_lt_distinctCount hnodup hchain hmem (hs q hq)
        omega
      refine .visit _ hnodup hlength (fun q _ hmem => outcome_of_mem hmem 0) ?_ ?_
      · exact fun q e hq hmem _ => absurd (hfull q hq) hmem
      · exact fun q t hq hmem _ => absurd (hfull q hq) hmem
  | succ bound ih =>
      refine .visit _ hnodup hlength (fun q _ hmem => outcome_of_mem hmem _) ?_ ?_
      · exact fun q e _ hmem hat => outcome_succ_of_locate_eq_error hmem hat bound
      · intro q t hq hmem hat
        have hlt := length_lt_distinctCount hnodup hchain hmem (hs q hq)
        have hlonger : (chain ++ [q]) ⊆ texts :=
          List.append_subset.mpr ⟨hchain, List.cons_subset.mpr ⟨hs q hq, List.nil_subset _⟩⟩
        have hcount : (chain ++ [q]).length = chain.length + 1 := List.length_append
        rw [outcome_succ_of_locate_eq_ok hmem hat]
        exact ih (Schema.nodup_append_singleton hnodup hmem) hlonger (hlisted q t hat) (by omega) (by omega)

/-- **A guarded walk terminates** if all references that it can meet are on a list: its answer is that of
the walk which may follow as many references as the list has different ones. -/
theorem terminates (hlocate : ∀ q chain r, w.locate q ≠ .error (.unlisted chain r))
    (hlisted : ∀ q t, w.locate q = .ok t → ∀ r, w.Mentions t r → r ∈ texts) {s : σ}
    (hs : ∀ q, w.Mentions s q → q ∈ texts) :
    w.Terminates texts s (w.visit (w.outcome (distinctCount texts) []) s) := by
  have hrun := run_outcome hlisted List.nodup_nil (List.nil_subset texts) hs
    (Nat.le_add_left (distinctCount texts) _)
  exact ⟨hrun, hrun.ne_unlisted hlocate, fun _ _ => hrun.isCyclic_or_locate_eq_error hlisted hs⟩

end GuardedWalk

/-! ## Following the references at the root of a value -/

/-- Resolving a pointer does not reach a bound. -/
theorem Pointer.resolve_ne_unlisted {document : Value} (q : String) (chain : List String) (r : String) :
    Pointer.resolve document q ≠ .error (.unlisted chain r) := by
  intro h
  rcases Schema.eq_of_resolve_eq_error h with heq | heq | ⟨_, heq⟩ <;> cases heq

namespace Value

/-- A reference at the root of a value is written in the value. -/
theorem mem_referenceTexts_of_reference? {v : Value} {q : String} (h : v.reference? = some q) :
    q ∈ v.referenceTexts := by
  cases v with
  | map entries =>
      obtain ⟨w, hw, hq⟩ := Option.bind_eq_some_iff.mp h
      obtain ⟨before, after, rfl, -⟩ := List.lookup_eq_some_iff.mp hw
      rw [referenceTexts]
      clear h hw
      induction before with
      | nil =>
          rw [List.nil_append, referenceTextsOfEntries, entryReference, if_pos rfl]
          exact List.mem_append_left _ (List.mem_append_left _ (Option.mem_toList.mpr hq))
      | cons entry before ih =>
          obtain ⟨key, other⟩ := entry
          rw [List.cons_append, referenceTextsOfEntries]
          exact List.mem_append_right _ ih
  | scalar => cases h
  | list => cases h
  | set => cases h

/-- The walk along the references at the root of a value. -/
def following (document : Value) : GuardedWalk Value Unit Value where
  locate := Pointer.resolve document
  Mentions v q := v.reference? = some q
  visit outcome v i :=
    match v.reference? with
    | none => .ok v
    | some q => outcome q i
  visit_congr {f g v} h := by
    funext i
    cases hv : v.reference? with
    | none => rfl
    | some q => exact congrFun (h q hv) i
  exists_of_visit_eq_error {f v i e} h := by
    cases hv : v.reference? with
    | none =>
        rw [hv] at h
        cases h
    | some q =>
        rw [hv] at h
        exact ⟨q, i, rfl, h⟩

variable {document v : Value} {outcome : String → Unit → Except ReferenceError Value}

/-- A value that is no reference is the answer. -/
theorem visit_following_of_none (h : v.reference? = none) (i : Unit) :
    document.following.visit outcome v i = .ok v := by
  simp only [following, h]

/-- A reference has the answer for what it leads to. -/
theorem visit_following_of_some {q : String} (h : v.reference? = some q) (i : Unit) :
    document.following.visit outcome v i = outcome q i := by
  simp only [following, h]

/-- References are followed as the walk does. -/
theorem followFrom_eq (bound : Nat) (chain : List String) (v : Value) :
    document.followFrom bound chain v
      = document.following.visit (document.following.outcome bound chain) v () := by
  induction bound generalizing chain v with
  | zero =>
      unfold followFrom
      cases hv : v.reference? with
      | none => rw [visit_following_of_none hv]
      | some q =>
          rw [visit_following_of_some hv]
          by_cases hmem : q ∈ chain
          · simp only [if_pos hmem, GuardedWalk.outcome_of_mem hmem]
          · simp only [if_neg hmem, GuardedWalk.outcome_zero_of_notMem hmem]
  | succ bound ih =>
      unfold followFrom
      cases hv : v.reference? with
      | none => rw [visit_following_of_none hv]
      | some q =>
          rw [visit_following_of_some hv]
          by_cases hmem : q ∈ chain
          · simp only [if_pos hmem, GuardedWalk.outcome_of_mem hmem]
          · simp only [if_neg hmem]
            cases hat : Pointer.resolve document q with
            | error e => rw [GuardedWalk.outcome_succ_of_locate_eq_error hmem hat]
            | ok t =>
                rw [GuardedWalk.outcome_succ_of_locate_eq_ok hmem hat]
                exact ih (chain ++ [q]) t

/-- **Following the references of a value terminates**, on chains of at most as many references as the
document and the value have. -/
theorem terminates_following (document v : Value) :
    document.following.Terminates (document.referenceTexts ++ v.referenceTexts) v
      fun _ => document.follow v := by
  have hanswer : (fun _ => document.follow v) = document.following.visit
      (document.following.outcome (document.referenceCount v.referenceTexts) []) v :=
    funext fun _ => followFrom_eq _ [] v
  rw [hanswer]
  refine GuardedWalk.terminates (fun q => Pointer.resolve_ne_unlisted q) (fun q t ht r hr => ?_)
    fun q hq => List.mem_append_right _ (mem_referenceTexts_of_reference? hq)
  exact List.mem_append_left _
    (referenceTexts_subset_of_resolve ht (mem_referenceTexts_of_reference? hr))

end Value

/-! ## Expanding a schema -/

namespace Schema

mutual

/-- Only the replacements of the references in a schema matter. -/
theorem expandWith_congr {f g : String → Except ReferenceError Schema} :
    ∀ s : Schema, (∀ q ∈ s.references, f q = g q) → expandWith f s = expandWith g s
  | .reference q, h => h q (by rw [references]; exact List.mem_singleton_self q)
  | .primitive _ _, _ => rfl
  | .object properties _ additional _, h => by
      rw [references] at h
      rw [expandWith, expandWith,
        expandAdditional_congr additional fun q hq => h q (List.mem_append_left _ hq),
        expandProperties_congr properties fun q hq => h q (List.mem_append_right _ hq)]
  | .array none _, _ => rfl
  | .array (some items) _, h => by
      rw [references] at h
      rw [expandWith, expandWith, expandWith_congr items h]
  | .allOf members _, h => by
      rw [references] at h
      rw [expandWith, expandWith, expandMembers_congr members h]
  | .union _ members _, h => by
      rw [references] at h
      rw [expandWith, expandWith, expandMembers_congr members h]

/-- Only the replacements of the references in what is said about undeclared properties matter. -/
theorem expandAdditional_congr {f g : String → Except ReferenceError Schema} :
    ∀ a : Additional Schema, (∀ q ∈ referencesOfAdditional a, f q = g q) →
      expandAdditional f a = expandAdditional g a
  | .unspecified, _ => rfl
  | .allowed _, _ => rfl
  | .typed s, h => by
      rw [referencesOfAdditional] at h
      rw [expandAdditional, expandAdditional, expandWith_congr s h]

/-- Only the replacements of the references in properties matter. -/
theorem expandProperties_congr {f g : String → Except ReferenceError Schema} :
    ∀ ps : List (String × Schema), (∀ q ∈ referencesOfProperties ps, f q = g q) →
      expandProperties f ps = expandProperties g ps
  | [], _ => rfl
  | (_, s) :: rest, h => by
      rw [referencesOfProperties] at h
      rw [expandProperties, expandProperties,
        expandWith_congr s fun q hq => h q (List.mem_append_left _ hq),
        expandProperties_congr rest fun q hq => h q (List.mem_append_right _ hq)]

/-- Only the replacements of the references in members matter. -/
theorem expandMembers_congr {f g : String → Except ReferenceError Schema} :
    ∀ ms : List Schema, (∀ q ∈ referencesOfMembers ms, f q = g q) →
      expandMembers f ms = expandMembers g ms
  | [], _ => rfl
  | s :: rest, h => by
      rw [referencesOfMembers] at h
      rw [expandMembers, expandMembers,
        expandWith_congr s fun q hq => h q (List.mem_append_left _ hq),
        expandMembers_congr rest fun q hq => h q (List.mem_append_right _ hq)]

end

/-- The walk over a schema that replaces its references. -/
def expanding (document : Value) : GuardedWalk Schema Unit Schema where
  locate := atPointer document
  Mentions := Mentions
  visit outcome s i := expandWith (fun q => outcome q i) s
  visit_congr {f g s} h := by
    funext i
    exact expandWith_congr s fun q hq => congrFun (h q (mem_references_iff.mp hq)) i
  exists_of_visit_eq_error {f s i e} h := by
    obtain ⟨q, hq, hfail⟩ := exists_mentions_of_expandWith_eq_error h
    exact ⟨q, i, hq, hfail⟩

variable {document : Value}

/-- A reference is expanded as the walk does. -/
theorem expandReference_eq (bound : Nat) (chain : List String) (q : String) :
    expandReference document bound chain q = (expanding document).outcome bound chain q () := by
  induction bound generalizing chain q with
  | zero =>
      rw [expandReference]
      by_cases hmem : q ∈ chain
      · simp only [if_pos hmem, GuardedWalk.outcome_of_mem hmem]
      · simp only [if_neg hmem, GuardedWalk.outcome_zero_of_notMem hmem]
  | succ bound ih =>
      rw [expandReference]
      by_cases hmem : q ∈ chain
      · rw [followOnce_of_mem hmem, GuardedWalk.outcome_of_mem hmem]
      · rw [followOnce_of_not_mem hmem]
        cases hat : atPointer document q with
        | error e => rw [GuardedWalk.outcome_succ_of_locate_eq_error hmem hat]
        | ok t =>
            rw [GuardedWalk.outcome_succ_of_locate_eq_ok hmem hat]
            exact expandWith_congr t fun r _ => ih (chain ++ [q]) r

/-- What stands at a pointer is read without reaching a bound. -/
theorem atPointer_ne_unlisted (q : String) (chain : List String) (r : String) :
    atPointer document q ≠ .error (.unlisted chain r) :=
  fun h => Pointer.resolve_ne_unlisted q chain r (atPointer_eq_error_iff.mp h)

/-- **Expanding a schema terminates**, on chains of at most as many references as the document and the
schema have. -/
theorem terminates_expanding (document : Value) (s : Schema) :
    (expanding document).Terminates (document.referenceTexts ++ s.references) s
      fun _ => expand document s := by
  have hanswer : (fun _ => expand document s) = (expanding document).visit
      ((expanding document).outcome (document.referenceCount s.references) []) s :=
    funext fun _ => expandWith_congr s fun q _ => expandReference_eq _ [] q
  rw [hanswer]
  refine GuardedWalk.terminates atPointer_ne_unlisted (fun q t ht r hr => ?_)
    fun q hq => List.mem_append_right _ (mem_references_iff.mpr hq)
  exact List.mem_append_left _ (refersWithin_atPointer ht r hr)

end Schema

end ServiceBindings
