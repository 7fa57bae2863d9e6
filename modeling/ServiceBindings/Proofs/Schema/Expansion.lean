import Mathlib.Data.List.Forall2
import ServiceBindings.Proofs.Schema.Position
import ServiceBindings.Schema.Expansion

/-! # Replacing references, part by part

`Schema.expandWith` leaves the shape of a schema alone: a schema that is no reference and its expansion
are **alike** (`Schema.Alike`), their parts being related by expansion again
(`Schema.expandWith_eq_ok_iff`), and it fails only where a part fails
(`Schema.exists_child_of_expandWith_eq_error`).

From this, by induction over the parts: the expansion succeeds exactly when every mentioned reference
can be replaced, fails with the failure of one of them, and mentions what the replacements mention. -/

namespace ServiceBindings

/-! ## Computations that can fail -/

/-- A computation of two steps succeeds when both do. -/
theorem bind_eq_ok_iff {ε α β : Type} {x : Except ε α} {f : α → Except ε β} {b : β} :
    (x >>= f) = .ok b ↔ ∃ a, x = .ok a ∧ f a = .ok b := by
  cases x with
  | error e => exact ⟨nofun, nofun⟩
  | ok a =>
      constructor
      · intro h
        exact ⟨a, rfl, h⟩
      · rintro ⟨a', heq, h⟩
        cases heq
        exact h

/-- A computation of two steps fails when the first does, or the second after it. -/
theorem bind_eq_error_iff {ε α β : Type} {x : Except ε α} {f : α → Except ε β} {e : ε} :
    (x >>= f) = .error e ↔ x = .error e ∨ ∃ a, x = .ok a ∧ f a = .error e := by
  cases x with
  | error e' =>
      constructor
      · intro h
        cases h
        exact Or.inl rfl
      · rintro (h | ⟨a, heq, -⟩)
        · cases h
          rfl
        · cases heq
  | ok a =>
      constructor
      · intro h
        exact Or.inr ⟨a, rfl, h⟩
      · rintro (heq | ⟨a', heq, h⟩)
        · cases heq
        · cases heq
          exact h

/-- A computation that does not fail succeeds. -/
theorem exists_eq_ok_of_forall_ne_error {ε α : Type} {x : Except ε α} (h : ∀ e, x ≠ .error e) :
    ∃ a, x = .ok a := by
  cases x with
  | error e => exact absurd rfl (h e)
  | ok a => exact ⟨a, rfl⟩

/-! ## Lists related item by item -/

/-- An item on the left has a related one on the right. -/
theorem exists_mem_right_of_forall₂ {α β : Type} {R : α → β → Prop} {l : List α} {m : List β}
    (h : List.Forall₂ R l m) {a : α} (ha : a ∈ l) : ∃ b ∈ m, R a b := by
  induction h with
  | nil => exact absurd ha List.not_mem_nil
  | cons hR _ ih =>
      rcases List.mem_cons.mp ha with rfl | ha
      · exact ⟨_, List.mem_cons_self, hR⟩
      · obtain ⟨b, hb, hR⟩ := ih ha
        exact ⟨b, List.mem_cons_of_mem _ hb, hR⟩

/-- An item on the right has a related one on the left. -/
theorem exists_mem_left_of_forall₂ {α β : Type} {R : α → β → Prop} {l : List α} {m : List β}
    (h : List.Forall₂ R l m) {b : β} (hb : b ∈ m) : ∃ a ∈ l, R a b :=
  exists_mem_right_of_forall₂ (R := flip R) h.flip hb

/-! ## Schemas of one shape -/

/-- The same is said about undeclared properties, up to a relation of their schemas. -/
inductive Additional.Alike {α β : Type} (R : α → β → Prop) : Additional α → Additional β → Prop where
  /-- Nothing is said. -/
  | unspecified : Alike R .unspecified .unspecified
  /-- They are allowed or forbidden on both sides. -/
  | allowed (flag : Bool) : Alike R (.allowed flag) (.allowed flag)
  /-- They have related schemas. -/
  | typed {a : α} {b : β} : R a b → Alike R (.typed a) (.typed b)

namespace Schema

/-- Two schemas, no references, that differ at most in their direct parts, which are related. -/
inductive Alike (R : Schema → Schema → Prop) : Schema → Schema → Prop where
  /-- A leaf is like itself alone. -/
  | primitive {types : List String} {annotations : Annotations} :
      Alike R (.primitive types annotations) (.primitive types annotations)
  /-- Objects with properties of the same names. -/
  | object {properties properties' : List (String × Schema)} {required : Option (List String)}
      {additional additional' : Additional Schema} {annotations : Annotations} :
      List.Forall₂ (fun p q => p.1 = q.1 ∧ R p.2 q.2) properties properties' →
      Additional.Alike R additional additional' →
      Alike R (.object properties required additional annotations)
        (.object properties' required additional' annotations)
  /-- Arrays of anything. -/
  | untyped {annotations : Annotations} : Alike R (.array none annotations) (.array none annotations)
  /-- Arrays with related items. -/
  | array {items items' : Schema} {annotations : Annotations} :
      R items items' → Alike R (.array (some items) annotations) (.array (some items') annotations)
  /-- Members that must hold. -/
  | allOf {members members' : List Schema} {annotations : Annotations} :
      List.Forall₂ R members members' →
      Alike R (.allOf members annotations) (.allOf members' annotations)
  /-- Alternatives. -/
  | union {keyword : Alternation} {members members' : List Schema} {annotations : Annotations} :
      List.Forall₂ R members members' →
      Alike R (.union keyword members annotations) (.union keyword members' annotations)

/-- A schema is a reference to some place. -/
def IsReference (s : Schema) : Prop := ∃ pointer, s = .reference pointer

namespace Alike

variable {R : Schema → Schema → Prop} {s t : Schema}

/-- A schema that is no reference is like itself. -/
theorem refl (h : ¬ s.IsReference) : Alike Eq s s := by
  cases s with
  | reference pointer => exact absurd ⟨pointer, rfl⟩ h
  | primitive => exact .primitive
  | object properties required additional annotations =>
      refine .object (List.forall₂_same.mpr fun _ _ => ⟨rfl, rfl⟩) ?_
      cases additional with
      | unspecified => exact .unspecified
      | allowed flag => exact .allowed flag
      | typed => exact .typed rfl
  | array items =>
      cases items with
      | none => exact .untyped
      | some => exact .array rfl
  | allOf => exact .allOf (List.forall₂_same.mpr fun _ _ => rfl)
  | union => exact .union (List.forall₂_same.mpr fun _ _ => rfl)

/-- What is like another schema is no reference. -/
theorem not_isReference_right (h : Alike R s t) : ¬ t.IsReference := by
  rintro ⟨pointer, rfl⟩
  cases h

/-- Schemas that are alike have the same annotations. -/
theorem annotations_eq (h : Alike R s t) : s.annotations = t.annotations := by
  cases h <;> rfl

/-- Every part of the first schema is related to a part of the second. -/
theorem exists_child_right (h : Alike R s t) {c : Schema} (hc : Child c s) :
    ∃ d, Child d t ∧ R c d := by
  cases h with
  | primitive => exact absurd hc not_child_primitive
  | object hprops hadd =>
      rcases child_object_iff.mp hc with ⟨name, hmem⟩ | rfl
      · obtain ⟨⟨name', d⟩, hd, -, hR⟩ := exists_mem_right_of_forall₂ hprops hmem
        exact ⟨d, .property hd, hR⟩
      · cases hadd with
        | typed hR => exact ⟨_, .additional, hR⟩
  | untyped => cases hc
  | array hR =>
      cases hc
      exact ⟨_, .items, hR⟩
  | allOf hmems =>
      obtain ⟨d, hd, hR⟩ := exists_mem_right_of_forall₂ hmems (child_allOf_iff.mp hc)
      exact ⟨d, .allOf hd, hR⟩
  | union hmems =>
      obtain ⟨d, hd, hR⟩ := exists_mem_right_of_forall₂ hmems (child_union_iff.mp hc)
      exact ⟨d, .union hd, hR⟩

/-- Every part of the second schema is related to a part of the first. -/
theorem exists_child_left (h : Alike R s t) {d : Schema} (hd : Child d t) :
    ∃ c, Child c s ∧ R c d := by
  cases h with
  | primitive => exact absurd hd not_child_primitive
  | object hprops hadd =>
      rcases child_object_iff.mp hd with ⟨name, hmem⟩ | rfl
      · obtain ⟨⟨name', c⟩, hc, -, hR⟩ := exists_mem_left_of_forall₂ hprops hmem
        exact ⟨c, .property hc, hR⟩
      · cases hadd with
        | typed hR => exact ⟨_, .additional, hR⟩
  | untyped => cases hd
  | array hR =>
      cases hd
      exact ⟨_, .items, hR⟩
  | allOf hmems =>
      obtain ⟨c, hc, hR⟩ := exists_mem_left_of_forall₂ hmems (child_allOf_iff.mp hd)
      exact ⟨c, .allOf hc, hR⟩
  | union hmems =>
      obtain ⟨c, hc, hR⟩ := exists_mem_left_of_forall₂ hmems (child_union_iff.mp hd)
      exact ⟨c, .union hc, hR⟩

end Alike

/-! ## The walk that replaces references -/

variable {replace : String → Except ReferenceError Schema}

/-- The expansion of undeclared properties, if it succeeds. -/
theorem alike_of_expandAdditional_eq_ok {additional additional' : Additional Schema}
    (h : expandAdditional replace additional = .ok additional') :
    Additional.Alike (fun c d => expandWith replace c = .ok d) additional additional' := by
  cases additional with
  | unspecified =>
      cases h
      exact .unspecified
  | allowed flag =>
      cases h
      exact .allowed flag
  | typed c =>
      rw [expandAdditional, bind_eq_ok_iff] at h
      obtain ⟨d, hd, h⟩ := h
      cases h
      exact .typed hd

/-- The expansion of properties, if it succeeds. -/
theorem forall₂_of_expandProperties_eq_ok {properties properties' : List (String × Schema)}
    (h : expandProperties replace properties = .ok properties') :
    List.Forall₂ (fun p q => p.1 = q.1 ∧ expandWith replace p.2 = .ok q.2)
      properties properties' := by
  induction properties generalizing properties' with
  | nil =>
      cases h
      exact .nil
  | cons property rest ih =>
      obtain ⟨name, c⟩ := property
      rw [expandProperties, bind_eq_ok_iff] at h
      obtain ⟨d, hd, h⟩ := h
      rw [bind_eq_ok_iff] at h
      obtain ⟨rest', hrest, h⟩ := h
      cases h
      exact .cons ⟨rfl, hd⟩ (ih hrest)

/-- The expansion of members, if it succeeds. -/
theorem forall₂_of_expandMembers_eq_ok {members members' : List Schema}
    (h : expandMembers replace members = .ok members') :
    List.Forall₂ (fun c d => expandWith replace c = .ok d) members members' := by
  induction members generalizing members' with
  | nil =>
      cases h
      exact .nil
  | cons c rest ih =>
      rw [expandMembers, bind_eq_ok_iff] at h
      obtain ⟨d, hd, h⟩ := h
      rw [bind_eq_ok_iff] at h
      obtain ⟨rest', hrest, h⟩ := h
      cases h
      exact .cons hd (ih hrest)

/-- **The shape stays**: a schema that is no reference is like its expansion. -/
theorem alike_of_expandWith_eq_ok {s r : Schema} (hs : ¬ s.IsReference)
    (h : expandWith replace s = .ok r) :
    Alike (fun c d => expandWith replace c = .ok d) s r := by
  cases s with
  | reference pointer => exact absurd ⟨pointer, rfl⟩ hs
  | primitive =>
      cases h
      exact .primitive
  | object properties required additional annotations =>
      rw [expandWith, bind_eq_ok_iff] at h
      obtain ⟨additional', hadd, h⟩ := h
      rw [bind_eq_ok_iff] at h
      obtain ⟨properties', hprops, h⟩ := h
      cases h
      exact .object (forall₂_of_expandProperties_eq_ok hprops) (alike_of_expandAdditional_eq_ok hadd)
  | array items annotations =>
      cases items with
      | none =>
          cases h
          exact .untyped
      | some c =>
          rw [expandWith, bind_eq_ok_iff] at h
          obtain ⟨d, hd, h⟩ := h
          cases h
          exact .array hd
  | allOf members annotations =>
      rw [expandWith, bind_eq_ok_iff] at h
      obtain ⟨members', hmems, h⟩ := h
      cases h
      exact .allOf (forall₂_of_expandMembers_eq_ok hmems)
  | union keyword members annotations =>
      rw [expandWith, bind_eq_ok_iff] at h
      obtain ⟨members', hmems, h⟩ := h
      cases h
      exact .union (forall₂_of_expandMembers_eq_ok hmems)

/-- The expansion of properties fails with the failure of one of them. -/
theorem exists_mem_of_expandProperties_eq_error {properties : List (String × Schema)}
    {e : ReferenceError} (h : expandProperties replace properties = .error e) :
    ∃ name c, (name, c) ∈ properties ∧ expandWith replace c = .error e := by
  induction properties with
  | nil => cases h
  | cons property rest ih =>
      obtain ⟨name, c⟩ := property
      rw [expandProperties, bind_eq_error_iff] at h
      rcases h with h | ⟨d, -, h⟩
      · exact ⟨name, c, List.mem_cons_self, h⟩
      · rw [bind_eq_error_iff] at h
        rcases h with h | ⟨rest', -, h⟩
        · obtain ⟨name', c', hmem, h⟩ := ih h
          exact ⟨name', c', List.mem_cons_of_mem _ hmem, h⟩
        · cases h

/-- The expansion of members fails with the failure of one of them. -/
theorem exists_mem_of_expandMembers_eq_error {members : List Schema} {e : ReferenceError}
    (h : expandMembers replace members = .error e) :
    ∃ c ∈ members, expandWith replace c = .error e := by
  induction members with
  | nil => cases h
  | cons c rest ih =>
      rw [expandMembers, bind_eq_error_iff] at h
      rcases h with h | ⟨d, -, h⟩
      · exact ⟨c, List.mem_cons_self, h⟩
      · rw [bind_eq_error_iff] at h
        rcases h with h | ⟨rest', -, h⟩
        · obtain ⟨c', hmem, h⟩ := ih h
          exact ⟨c', List.mem_cons_of_mem _ hmem, h⟩
        · cases h

/-- The expansion of a schema that is no reference fails with the failure of a part. -/
theorem exists_child_of_expandWith_eq_error {s : Schema} (hs : ¬ s.IsReference)
    {e : ReferenceError} (h : expandWith replace s = .error e) :
    ∃ c, Child c s ∧ expandWith replace c = .error e := by
  cases s with
  | reference pointer => exact absurd ⟨pointer, rfl⟩ hs
  | primitive => cases h
  | object properties required additional annotations =>
      rw [expandWith, bind_eq_error_iff] at h
      rcases h with h | ⟨additional', -, h⟩
      · cases additional with
        | unspecified => cases h
        | allowed => cases h
        | typed c =>
            rw [expandAdditional, bind_eq_error_iff] at h
            rcases h with h | ⟨d, -, h⟩
            · exact ⟨c, .additional, h⟩
            · cases h
      · rw [bind_eq_error_iff] at h
        rcases h with h | ⟨properties', -, h⟩
        · obtain ⟨name, c, hmem, h⟩ := exists_mem_of_expandProperties_eq_error h
          exact ⟨c, .property hmem, h⟩
        · cases h
  | array items annotations =>
      cases items with
      | none => cases h
      | some c =>
          rw [expandWith, bind_eq_error_iff] at h
          rcases h with h | ⟨d, -, h⟩
          · exact ⟨c, .items, h⟩
          · cases h
  | allOf members annotations =>
      rw [expandWith, bind_eq_error_iff] at h
      rcases h with h | ⟨members', -, h⟩
      · obtain ⟨c, hmem, h⟩ := exists_mem_of_expandMembers_eq_error h
        exact ⟨c, .allOf hmem, h⟩
      · cases h
  | union keyword members annotations =>
      rw [expandWith, bind_eq_error_iff] at h
      rcases h with h | ⟨members', -, h⟩
      · obtain ⟨c, hmem, h⟩ := exists_mem_of_expandMembers_eq_error h
        exact ⟨c, .union hmem, h⟩
      · cases h

/-! ## Replacing every mentioned reference -/

/-- A failed expansion fails as the replacement of a mentioned reference does. -/
theorem exists_mentions_of_expandWith_eq_error {s : Schema} {e : ReferenceError}
    (h : expandWith replace s = .error e) : ∃ p, s.Mentions p ∧ replace p = .error e := by
  induction s using childInduction with
  | step s ih =>
      by_cases hs : s.IsReference
      · obtain ⟨p, rfl⟩ := hs
        exact ⟨p, mentions_reference p, h⟩
      · obtain ⟨c, hc, h⟩ := exists_child_of_expandWith_eq_error hs h
        obtain ⟨p, hp, hrep⟩ := ih c hc h
        exact ⟨p, hc.mentions hp, hrep⟩

/-- Under a successful expansion every mentioned reference was replaced. -/
theorem exists_replace_of_expandWith_eq_ok {s r : Schema} (h : expandWith replace s = .ok r)
    {p : String} (hp : s.Mentions p) : ∃ t, replace p = .ok t := by
  induction s using childInduction generalizing r with
  | step s ih =>
      by_cases hs : s.IsReference
      · obtain ⟨q, rfl⟩ := hs
        rw [mentions_reference_iff] at hp
        subst hp
        exact ⟨r, h⟩
      · rcases mentions_iff_child.mp hp with heq | ⟨c, hc, hp⟩
        · exact absurd ⟨p, heq⟩ hs
        · obtain ⟨d, -, hd⟩ := (alike_of_expandWith_eq_ok hs h).exists_child_right hc
          exact ih c hc hd hp

/-- What an expansion mentions, the replacement of a mentioned reference mentions. -/
theorem exists_mentions_of_mentions_expandWith {s r : Schema} (h : expandWith replace s = .ok r)
    {q : String} (hq : r.Mentions q) : ∃ p t, s.Mentions p ∧ replace p = .ok t ∧ t.Mentions q := by
  induction s using childInduction generalizing r with
  | step s ih =>
      by_cases hs : s.IsReference
      · obtain ⟨p, rfl⟩ := hs
        exact ⟨p, r, mentions_reference p, h, hq⟩
      · have halike := alike_of_expandWith_eq_ok hs h
        rcases mentions_iff_child.mp hq with heq | ⟨d, hd, hq⟩
        · exact absurd ⟨q, heq⟩ halike.not_isReference_right
        · obtain ⟨c, hc, hexp⟩ := halike.exists_child_left hd
          obtain ⟨p, t, hp, hrep, ht⟩ := ih c hc hexp hq
          exact ⟨p, t, hc.mentions hp, hrep, ht⟩

end Schema

end ServiceBindings
