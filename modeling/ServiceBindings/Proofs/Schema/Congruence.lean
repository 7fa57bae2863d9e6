import ServiceBindings.Proofs.Schema.GuardedWalk

/-! # Comparing two walks

A **congruence** is a relation between two outcomes that whatever is computed from them keeps (`Congruence`).
Two matter here. `SameUnless`: two outcomes are the same, or both are cycles, or the second is a failure of a
given kind. `SameEnding`: two outcomes both succeed, with whatever results, or fail alike.

A walk inside of more references can differ from the walk inside of fewer only where it meets one of the
additional ones: there it has closed a cycle, while the other goes on.
**What relates the two there relates them at the start** (`GuardedWalk.Run.related_of_front`). Two consequences
need nothing else: inside of more references the outcome is the same or a cycle
(`GuardedWalk.Run.sameUnless_isCyclic_of_front`), and one reference more makes no difference at all if what it
leads to is a cycle inside of it (`GuardedWalk.Run.sameKind_of_lap`): the walk without it closes the same
cycle one lap later. -/

namespace ServiceBindings

/-! ## Relations between outcomes -/

/-- A relation between two outcomes of the same type. -/
abbrev OutcomeRelation := ∀ α : Type, Except ReferenceError α → Except ReferenceError α → Prop

/-- The relation does not tell two values apart: they are equal, or it tells no values apart at all. -/
def OutcomeRelation.Alike (R : OutcomeRelation) {α : Type} (a b : α) : Prop :=
  a = b ∨ ∀ (β : Type) (c d : β), R β (.ok c) (.ok d)

/-- What is computed from values that are not told apart is not told apart. -/
theorem OutcomeRelation.Alike.map {R : OutcomeRelation} {α β : Type} {a b : α} (h : R.Alike a b)
    (f : α → β) : R.Alike (f a) (f b) := h.imp (congrArg f) id

/-- What is computed from two values each is not told apart if they are not. -/
theorem OutcomeRelation.Alike.map₂ {R : OutcomeRelation} {α β γ : Type} {a b : α} {c d : β}
    (h : R.Alike a b) (h' : R.Alike c d) (f : α → β → γ) : R.Alike (f a c) (f b d) := by
  rcases h with rfl | hblind
  · exact h'.map (f a)
  · exact .inr hblind

/-- A relation between outcomes that computations keep, and that does not tell cycles apart. -/
structure Congruence (R : OutcomeRelation) : Prop where
  /-- An outcome is related to itself. -/
  refl {α : Type} (x : Except ReferenceError α) : R α x x
  /-- Related outcomes are continued in related ways. -/
  bind {α β : Type} {x y : Except ReferenceError α} {f g : α → Except ReferenceError β} :
    R α x y → (∀ a b, R.Alike a b → R β (f a) (g b)) → R β (x >>= f) (y >>= g)
  /-- A cycle is related to any other. -/
  cyclic {α : Type} (chain chain' : List String) : R α (.error (.cyclic chain)) (.error (.cyclic chain'))

namespace Congruence

variable {R : OutcomeRelation} {α β : Type}

/-- Results are related if they are not told apart. -/
theorem ok (hR : Congruence R) {a b : α} (h : R.Alike a b) : R α (.ok a) (.ok b) := by
  rcases h with rfl | hblind
  · exact hR.refl _
  · exact hblind α a b

/-- Results that are computed from related outcomes in ways that are not told apart. -/
theorem bind_ok (hR : Congruence R) {x y : Except ReferenceError α} (h : R α x y) {f g : α → β}
    (hfg : ∀ a b, R.Alike a b → R.Alike (f a) (g b)) :
    R β (do let a ← x; return f a) (do let b ← y; return g b) :=
  hR.bind h fun a b hab => hR.ok (hfg a b hab)

end Congruence

/-- A failure is a cycle. -/
def ReferenceError.IsCyclic (e : ReferenceError) : Prop := ∃ chain, e = .cyclic chain

section SameUnless

variable {α β : Type} {Bad : ReferenceError → Prop} {x y : Except ReferenceError α}

/-- An outcome is the failure of a cycle. -/
def IsCycle (x : Except ReferenceError α) : Prop := ∃ chain, x = .error (.cyclic chain)

/-- Two outcomes are the same, or both are cycles. -/
def SameKind (x y : Except ReferenceError α) : Prop := x = y ∨ IsCycle x ∧ IsCycle y

/-- Two outcomes are the same or both cycles, unless the second is a failure of a kind. -/
def SameUnless (Bad : ReferenceError → Prop) (x y : Except ReferenceError α) : Prop :=
  SameKind x y ∨ ∃ e, Bad e ∧ y = .error e

/-- An outcome that is computed from a cycle is a cycle. -/
theorem IsCycle.bind (h : IsCycle x) (f : α → Except ReferenceError β) : IsCycle (x >>= f) := by
  obtain ⟨chain, rfl⟩ := h
  exact ⟨chain, rfl⟩

/-- The outcomes are of one kind if no kind of failure is left out. -/
theorem sameKind_of_sameUnless (Bad : ReferenceError → Prop) (hBad : ∀ e, ¬ Bad e)
    (h : SameUnless Bad x y) : SameKind x y := by
  rcases h with h | ⟨e, he, -⟩
  · exact h
  · exact absurd he (hBad e)

/-- Being of the same kind goes both ways. -/
theorem SameKind.symm (h : SameKind x y) : SameKind y x := h.imp Eq.symm And.symm

/-- An outcome of the same kind as a cycle is a cycle. -/
theorem SameKind.isCycle (h : SameKind x y) (hx : IsCycle x) : IsCycle y := by
  rcases h with rfl | ⟨-, hy⟩
  · exact hx
  · exact hy

/-- A result has nothing else of its kind. -/
theorem SameKind.eq_ok {a : α} (h : SameKind x y) (hx : x = .ok a) : y = .ok a := by
  rcases h with rfl | ⟨⟨chain, hchain⟩, -⟩
  · exact hx
  · cases hx.symm.trans hchain

/-- **Computations keep what is the same unless it is a failure of a kind.** -/
theorem congruence_sameUnless (Bad : ReferenceError → Prop) : Congruence fun _ => SameUnless Bad where
  refl x := .inl (.inl rfl)
  cyclic chain chain' := .inl (.inr ⟨⟨chain, rfl⟩, chain', rfl⟩)
  bind {α β x y f g} h hfg := by
    rcases h with (rfl | ⟨hx, hy⟩) | ⟨e, he, rfl⟩
    · cases x with
      | error e => exact .inl (.inl rfl)
      | ok a => exact hfg a a (.inl rfl)
    · exact .inl (.inr ⟨hx.bind f, hy.bind g⟩)
    · exact .inr ⟨e, he, rfl⟩

/-- Two outcomes end in the same way, whatever the results are: both succeed, or they fail alike. -/
def SameEnding (x y : Except ReferenceError α) : Prop :=
  SameKind (x.map fun _ => ()) (y.map fun _ => ())

/-- Of two outcomes that end in the same way both are cycles or none is. -/
theorem SameEnding.isCycle (h : SameEnding x y) (hx : IsCycle x) : IsCycle y := by
  obtain ⟨chain, rfl⟩ := hx
  obtain ⟨chain', hy⟩ := h.isCycle ⟨chain, rfl⟩
  cases y with
  | error e => exact ⟨chain', congrArg Except.error (Except.error.inj hy)⟩
  | ok b => cases hy

/-- **Computations keep the way in which outcomes end.** -/
theorem congruence_sameEnding : Congruence fun _ => SameEnding where
  refl x := .inl rfl
  cyclic chain chain' := .inr ⟨⟨chain, rfl⟩, chain', rfl⟩
  bind {α β x y f g} h hfg := by
    -- results are not told apart, so it is enough to look at how the outcomes end
    have hblind : ∀ a b : α, SameEnding (f a) (g b) := fun a b => hfg a b (.inr fun _ _ _ => .inl rfl)
    cases x with
    | ok a =>
        cases y with
        | ok b => exact hblind a b
        | error e => rcases h with h | ⟨⟨_, h⟩, -⟩ <;> cases h
    | error e =>
        cases y with
        | ok b => rcases h with h | ⟨-, _, h⟩ <;> cases h
        | error e' =>
            rcases h with h | ⟨⟨chain, hx⟩, chain', hy⟩
            · cases h
              exact .inl rfl
            · exact .inr ⟨⟨chain, by cases hx; rfl⟩, chain', by cases hy; rfl⟩

end SameUnless

/-! ## Walks inside of more references -/

namespace GuardedWalk

variable {σ ι τ : Type} {w : GuardedWalk σ ι τ}

/-- Visits keep every congruence: where the outcomes of the references are related, so are the answers. -/
def Keeps (w : GuardedWalk σ ι τ) : Prop :=
  ∀ {R : OutcomeRelation}, Congruence R → ∀ {f g : String → ι → Except ReferenceError τ} {s : σ},
    (∀ q i, w.Mentions s q → R τ (f q i) (g q i)) → ∀ i, R τ (w.visit f s i) (w.visit g s i)

/-- **Two walks are related if they are where they part**: the second is inside of more references, those in
front, and it parts from the first where that goes on in one of these. `Inv` is what is known of the chain and
the subject on the way there. -/
theorem Run.related_of_front {R : OutcomeRelation} (hR : Congruence R) (hkeeps : w.Keeps)
    {front : List String} (Inv : List String → σ → Prop)
    (hstep : ∀ {chain s q t}, Inv chain s → w.Mentions s q → w.locate q = .ok t → Inv (chain ++ [q]) t)
    (hpart : ∀ {chain s q} {r : ι → Except ReferenceError τ}, Inv chain s → w.Mentions s q → q ∈ front →
      (∀ t, w.locate q = .ok t → ∃ count, w.Run count (chain ++ [q]) t r) →
      ∀ i, R τ (r i) (.error (.cyclic (front ++ chain ++ [q]))))
    {count count' : Nat} {chain : List String} {s : σ} {r r' : ι → Except ReferenceError τ}
    (hinv : Inv chain s) (h : w.Run count chain s r) (h' : w.Run count' (front ++ chain) s r') (i : ι) :
    R τ (r i) (r' i) := by
  induction h generalizing r' i with
  | @visit chain s outcome _ _ hcyclic hlost hinside ih =>
      cases h' with
      | visit outcome' _ _ hcyclic' hlost' hinside' =>
          refine hkeeps hR (fun q j hq => ?_) i
          by_cases hmem : q ∈ chain
          · rw [hcyclic q hq hmem, hcyclic' q hq (List.mem_append_right front hmem)]
            exact hR.cyclic _ _
          by_cases hfront : q ∈ front
          · rw [hcyclic' q hq (List.mem_append_left chain hfront)]
            exact hpart hinv hq hfront (fun t hat => ⟨_, hinside q t hq hmem hat⟩) j
          · have hnew : q ∉ front ++ chain := by simp [hmem, hfront]
            cases hat : w.locate q with
            | error e =>
                rw [hlost q e hq hmem hat, hlost' q e hq hnew hat]
                exact hR.refl _
            | ok t =>
                have hrest := hinside' q t hq hnew hat
                rw [List.append_assoc] at hrest
                exact ih q t hq hmem hat (hstep hinv hq hat) hrest j

/-- **Inside of more references the outcome is the same or a cycle.** -/
theorem Run.sameUnless_isCyclic_of_front (hkeeps : w.Keeps) {front chain : List String} {count count' : Nat}
    {s : σ} {r r' : ι → Except ReferenceError τ} (h : w.Run count chain s r)
    (h' : w.Run count' (front ++ chain) s r') (i : ι) : SameUnless ReferenceError.IsCyclic (r i) (r' i) := by
  refine related_of_front (congruence_sameUnless _) hkeeps (fun _ _ => True) (fun _ _ _ => trivial) ?_
    trivial h h' i
  intro chain s q _ _ _ _ _ _
  exact .inr ⟨_, ⟨front ++ chain ++ [q], rfl⟩, rfl⟩

/-- What is a cycle inside of some references is a cycle inside of more. -/
theorem Run.isCycle_of_front (hkeeps : w.Keeps) {front chain : List String} {count count' : Nat}
    {s : σ} {r r' : ι → Except ReferenceError τ} (h : w.Run count chain s r)
    (h' : w.Run count' (front ++ chain) s r') {i : ι} (hcycle : IsCycle (r i)) : IsCycle (r' i) := by
  rcases h.sameUnless_isCyclic_of_front hkeeps h' i with hsame | ⟨e, ⟨chain, rfl⟩, he⟩
  · exact hsame.isCycle hcycle
  · exact ⟨chain, he⟩

/-- **One lap later.** If what a reference leads to is a cycle inside of the reference, whatever is asked, then
it makes no difference to the kind of an outcome whether the walk begins inside of the reference or not. -/
theorem Run.sameKind_of_lap (hkeeps : w.Keeps) {q : String} {start : σ} (hat : w.locate q = .ok start)
    {count count' : Nat} {r r' : ι → Except ReferenceError τ} (h : w.Run count [] start r)
    (h' : w.Run count' [q] start r') (hcycle : ∀ i, IsCycle (r' i)) (i : ι) : SameKind (r i) (r' i) := by
  refine sameKind_of_sameUnless (fun _ => False) (fun _ => id) ?_
  have hfront : w.Run count' ([q] ++ []) start r' := h'
  refine related_of_front (congruence_sameUnless _) hkeeps (fun _ _ => True) (fun _ _ _ => trivial) ?_
    trivial h hfront i
  intro chain s p x _ _ hp hinside j
  -- the walk meets the reference and goes on where it began, inside of more references than before
  obtain rfl := List.mem_singleton.mp hp
  obtain ⟨_, hlap⟩ := hinside start hat
  exact .inl (.inr ⟨h'.isCycle_of_front hkeeps hlap (hcycle j), _, rfl⟩)

end GuardedWalk

/-! ## The walk that expands a schema -/

namespace Schema

section Related

variable {R : OutcomeRelation} {f g : String → Except ReferenceError Schema}

mutual

/-- The expansions of a schema are related if the replacements of its references are. -/
theorem related_expandWith (hR : Congruence R) :
    ∀ s : Schema, (∀ q ∈ s.references, R _ (f q) (g q)) → R _ (expandWith f s) (expandWith g s)
  | .reference q, h => h q (by rw [references]; exact List.mem_singleton_self q)
  | .primitive _ _, _ => hR.refl _
  | .object properties required additional annotations, h => by
      rw [references] at h
      rw [expandWith, expandWith]
      have hadditional := related_expandAdditional hR additional fun q hq =>
        h q (List.mem_append_left _ hq)
      have hproperties := related_expandProperties hR properties fun q hq =>
        h q (List.mem_append_right _ hq)
      refine hR.bind hadditional fun a b hab => hR.bind_ok hproperties fun ps qs hps => ?_
      exact hps.map₂ hab fun ps a => Schema.object ps required a annotations
  | .array none _, _ => hR.refl _
  | .array (some items) annotations, h => by
      rw [references] at h
      rw [expandWith, expandWith]
      exact hR.bind_ok (related_expandWith hR items h) fun _ _ hst =>
        hst.map fun s => Schema.array (some s) annotations
  | .allOf members annotations, h => by
      rw [references] at h
      rw [expandWith, expandWith]
      exact hR.bind_ok (related_expandMembers hR members h) fun _ _ hst =>
        hst.map fun ms => Schema.allOf ms annotations
  | .union keyword members annotations, h => by
      rw [references] at h
      rw [expandWith, expandWith]
      exact hR.bind_ok (related_expandMembers hR members h) fun _ _ hst =>
        hst.map fun ms => Schema.union keyword ms annotations

/-- The expansions of what is said about undeclared properties are related. -/
theorem related_expandAdditional (hR : Congruence R) :
    ∀ a : Additional Schema, (∀ q ∈ referencesOfAdditional a, R _ (f q) (g q)) →
      R _ (expandAdditional f a) (expandAdditional g a)
  | .unspecified, _ => hR.refl _
  | .allowed _, _ => hR.refl _
  | .typed s, h => by
      rw [referencesOfAdditional] at h
      rw [expandAdditional, expandAdditional]
      exact hR.bind_ok (related_expandWith hR s h) fun _ _ hst => hst.map Additional.typed

/-- The expansions of properties are related. -/
theorem related_expandProperties (hR : Congruence R) :
    ∀ ps : List (String × Schema), (∀ q ∈ referencesOfProperties ps, R _ (f q) (g q)) →
      R _ (expandProperties f ps) (expandProperties g ps)
  | [], _ => hR.refl _
  | (name, s) :: rest, h => by
      rw [referencesOfProperties] at h
      rw [expandProperties, expandProperties]
      have hfirst := related_expandWith hR s fun q hq => h q (List.mem_append_left _ hq)
      have hrest := related_expandProperties hR rest fun q hq => h q (List.mem_append_right _ hq)
      refine hR.bind hfirst fun s t hst => hR.bind_ok hrest fun ps qs hps => ?_
      exact hst.map₂ hps fun s ps => (name, s) :: ps

/-- The expansions of members are related. -/
theorem related_expandMembers (hR : Congruence R) :
    ∀ ms : List Schema, (∀ q ∈ referencesOfMembers ms, R _ (f q) (g q)) →
      R _ (expandMembers f ms) (expandMembers g ms)
  | [], _ => hR.refl _
  | s :: rest, h => by
      rw [referencesOfMembers] at h
      rw [expandMembers, expandMembers]
      have hfirst := related_expandWith hR s fun q hq => h q (List.mem_append_left _ hq)
      have hrest := related_expandMembers hR rest fun q hq => h q (List.mem_append_right _ hq)
      exact hR.bind hfirst fun _ _ hst => hR.bind_ok hrest fun _ _ hms => hst.map₂ hms List.cons

end

end Related

variable {document : Value}

/-- The walk that expands a schema keeps every congruence. -/
theorem keeps_expanding (document : Value) : (expanding document).Keeps := by
  intro R hR f g s h i
  exact related_expandWith hR s fun q hq => h q i (mem_references_iff.mp hq)

/-- **A reference has an expansion of the same kind as what it leads to**: the same schema or the same failure,
or a cycle where that is a cycle. -/
theorem sameKind_expand_reference {q : String} {s : Schema} (hat : atPointer document q = .ok s) :
    SameKind (expand document s) (expand document (.reference q)) := by
  have hrun := (terminates_expanding document s).run
  have hrun' := (terminates_expanding document (.reference q)).run
  generalize hanswer : (fun _ : Unit => expand document (.reference q)) = answer at hrun'
  cases hrun' with
  | visit outcome _ _ _ _ hinside =>
      -- the walk from the reference goes on in the schema, inside of the reference
      have hinside := hinside q s (mentions_reference q) List.not_mem_nil hat
      have hsame : SameKind (expand document s) (outcome q ()) := by
        have hfront : (expanding document).Run _ ([q] ++ []) s (outcome q) := hinside
        rcases hrun.sameUnless_isCyclic_of_front (keeps_expanding document) hfront ()
          with hsame | ⟨e, ⟨chain, rfl⟩, he⟩
        · exact hsame
        · have hcycle : ∀ i, IsCycle (outcome q i) := fun _ => ⟨chain, he⟩
          exact hrun.sameKind_of_lap (keeps_expanding document) hat hinside hcycle ()
      exact congrFun hanswer () ▸ hsame

end Schema

end ServiceBindings
