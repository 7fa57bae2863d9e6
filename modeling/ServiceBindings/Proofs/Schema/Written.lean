import ServiceBindings.Proofs.Schema.Position
import ServiceBindings.Schema.Expansion

/-! # Where the references of a schema are written

Reading a schema invents no reference: every pointer that `Schema.ofValue v` mentions is written under
a key `$ref` in `v` (`Schema.refersWithin_ofValue`), the members that are read once more for the
keywords beside a composition included. A pointer leads from a document only to parts of it, so what
stands there mentions nothing but references of the document (`Schema.refersWithin_atPointer`).

A chain of different references that are all on a list is no longer than `distinctCount` of that list
(`length_lt_distinctCount`). -/

namespace ServiceBindings

/-! ## Entries -/

namespace Entries

variable {κ ν : Type} [BEq κ] [LawfulBEq κ]

/-- Setting the value of a key adds at most that one pair. -/
theorem mem_of_mem_insert {key : κ} {value : ν} {entry : κ × ν} {entries : List (κ × ν)}
    (h : entry ∈ insert key value entries) : entry = (key, value) ∨ entry ∈ entries := by
  induction entries with
  | nil =>
      rw [insert_nil, List.mem_singleton] at h
      exact Or.inl h
  | cons head rest ih =>
      obtain ⟨k, v⟩ := head
      rw [insert_cons] at h
      by_cases hk : (k == key) = true
      · rw [if_pos hk, eq_of_beq hk] at h
        rcases List.mem_cons.mp h with rfl | h
        · exact Or.inl rfl
        · exact Or.inr (List.mem_cons_of_mem _ h)
      · rw [if_neg hk] at h
        rcases List.mem_cons.mp h with rfl | h
        · exact Or.inr List.mem_cons_self
        · exact (ih h).imp_right (List.mem_cons_of_mem _)

/-- The entries that pairs make are among the pairs. -/
theorem mem_of_mem_ofList {entry : κ × ν} {pairs : List (κ × ν)} (h : entry ∈ ofList pairs) :
    entry ∈ pairs := by
  -- the pairs come from the left, so the statement is about any entries that are there already
  suffices hall : ∀ (pairs done : List (κ × ν)),
      entry ∈ insertAllBy (· == ·) done pairs → entry ∈ done ∨ entry ∈ pairs from
    (hall pairs [] h).resolve_left List.not_mem_nil
  intro pairs
  induction pairs with
  | nil => exact fun done h => Or.inl h
  | cons pair rest ih =>
      intro done h
      rcases ih _ h with h | h
      · rcases mem_of_mem_insert h with rfl | h
        · exact Or.inr List.mem_cons_self
        · exact Or.inl h
      · exact Or.inr (List.mem_cons_of_mem _ h)

end Entries

/-! ## References of values -/

namespace Value

/-- The references of a list are those of its items. -/
theorem mem_referenceTextsOfList {pointer : String} {items : List Value} :
    pointer ∈ referenceTextsOfList items ↔ ∃ v ∈ items, pointer ∈ v.referenceTexts := by
  induction items with
  | nil => simp [referenceTextsOfList]
  | cons v rest ih =>
      rw [referenceTextsOfList, List.mem_append, ih]
      simp only [List.mem_cons, exists_eq_or_imp]

/-- The references in an entry's value are references of the mapping. -/
theorem referenceTexts_subset_of_mem {key : Scalar} {v : Value} {entries : List (Scalar × Value)}
    (h : (key, v) ∈ entries) : v.referenceTexts ⊆ referenceTextsOfEntries entries := by
  induction entries with
  | nil => exact absurd h List.not_mem_nil
  | cons entry rest ih =>
      obtain ⟨k, w⟩ := entry
      rw [referenceTextsOfEntries]
      rcases List.mem_cons.mp h with heq | h
      · cases heq
        exact fun p hp => List.mem_append_left _ (List.mem_append_right _ hp)
      · exact fun p hp => List.mem_append_right _ (ih h hp)

/-- The references in the value of a key are references of the mapping. -/
theorem referenceTexts_subset_of_lookupText {key : String} {v : Value}
    {entries : List (Scalar × Value)} (h : lookupText key entries = some v) :
    v.referenceTexts ⊆ referenceTextsOfEntries entries := by
  obtain ⟨before, after, rfl, -⟩ := List.lookup_eq_some_iff.mp h
  exact referenceTexts_subset_of_mem (List.mem_append_right _ List.mem_cons_self)

/-- One step leads to a part of a value. -/
theorem referenceTexts_subset_of_step? {v w : Value} {step : String} (h : v.step? step = some w) :
    w.referenceTexts ⊆ v.referenceTexts := by
  cases v with
  | scalar => simp [step?] at h
  | set => simp [step?] at h
  | map entries => exact referenceTexts_subset_of_lookupText h
  | list items =>
      -- a step into a list is the number of an item
      obtain ⟨index, -, hw⟩ := Option.bind_eq_some_iff.mp h
      exact fun p hp => mem_referenceTextsOfList.mpr ⟨w, List.mem_of_getElem? hw, hp⟩

/-- Steps lead to a part of a value. -/
theorem referenceTexts_subset_of_walk? {v w : Value} {steps : List String}
    (h : v.walk? steps = some w) : w.referenceTexts ⊆ v.referenceTexts := by
  induction steps generalizing v with
  | nil =>
      rw [walk?_nil, Option.some.injEq] at h
      exact h ▸ List.Subset.refl _
  | cons step rest ih =>
      rw [walk?_cons] at h
      obtain ⟨next, hnext, hw⟩ := Option.bind_eq_some_iff.mp h
      exact List.Subset.trans (ih hw) (referenceTexts_subset_of_step? hnext)

/-- A pointer leads to a part of the document. -/
theorem referenceTexts_subset_of_resolve {document v : Value} {pointer : String}
    (h : Pointer.resolve document pointer = .ok v) :
    v.referenceTexts ⊆ document.referenceTexts := by
  unfold Pointer.resolve at h
  cases hsteps : Pointer.steps? pointer with
  | none => simp [hsteps] at h
  | some steps =>
      cases hwalk : document.walk? steps with
      | none => simp [hsteps, hwalk] at h
      | some w =>
          simp only [hsteps, hwalk, Except.ok.injEq] at h
          exact h ▸ referenceTexts_subset_of_walk? hwalk

end Value

/-! ## References of schemas that are read -/

/-- Every reference that a schema mentions is on a list. -/
def Schema.RefersWithin (s : Schema) (texts : List String) : Prop :=
  ∀ pointer, s.Mentions pointer → pointer ∈ texts

namespace Schema

variable {texts further : List String}

/-- A longer list will do as well. -/
theorem RefersWithin.mono {s : Schema} (h : s.RefersWithin texts) (hsub : texts ⊆ further) :
    s.RefersWithin further := fun pointer hp => hsub (h pointer hp)

/-- A schema refers within a list if it is on the list itself, should it be a reference, and its
direct parts refer within the list. -/
theorem refersWithin_of_child {s : Schema} (href : ∀ pointer, s = .reference pointer → pointer ∈ texts)
    (hchild : ∀ c, Child c s → c.RefersWithin texts) : s.RefersWithin texts := by
  intro pointer h
  rcases mentions_iff_child.mp h with h | ⟨c, hc, h⟩
  · exact href pointer h
  · exact hchild c hc pointer h

/-- The schema that accepts everything mentions nothing. -/
theorem refersWithin_anything : anything.RefersWithin texts :=
  refersWithin_of_child (fun _ h => by cases h) (fun _ h => by cases h)

end Schema

/-- Every reference that shape keywords hold is on a list. -/
structure Keywords.RefersWithin (k : Keywords) (texts : List String) : Prop where
  /-- The reference that the mapping is. -/
  reference : ∀ pointer, k.reference = some pointer → pointer ∈ texts
  /-- The members under `allOf`. -/
  allOf : ∀ members, k.allOf = some members → ∀ c ∈ members, c.RefersWithin texts
  /-- The alternatives under `oneOf`. -/
  oneOf : ∀ members, k.oneOf = some members → ∀ c ∈ members, c.RefersWithin texts
  /-- The alternatives under `anyOf`. -/
  anyOf : ∀ members, k.anyOf = some members → ∀ c ∈ members, c.RefersWithin texts
  /-- The items. -/
  items : ∀ c, k.items = some (some c) → c.RefersWithin texts
  /-- The declared properties. -/
  properties : ∀ properties, k.properties = some (some properties) →
    ∀ name c, (name, c) ∈ properties → c.RefersWithin texts
  /-- The schema of undeclared properties. -/
  additional : ∀ c, k.additional = some (.typed c) → c.RefersWithin texts

namespace Keywords

variable {k : Keywords} {texts further : List String}

/-- A longer list will do as well. -/
theorem RefersWithin.mono (h : k.RefersWithin texts) (hsub : texts ⊆ further) :
    k.RefersWithin further where
  reference pointer hp := hsub (h.reference pointer hp)
  allOf members hm c hc := (h.allOf members hm c hc).mono hsub
  oneOf members hm c hc := (h.oneOf members hm c hc).mono hsub
  anyOf members hm c hc := (h.anyOf members hm c hc).mono hsub
  items c hc := (h.items c hc).mono hsub
  properties properties hp name c hc := (h.properties properties hp name c hc).mono hsub
  additional c hc := (h.additional c hc).mono hsub

/-- Without keywords there is no reference. -/
theorem refersWithin_empty : RefersWithin {} texts := by
  constructor <;> intros <;> contradiction

/-- The plain shape of a mapping mentions what its keywords hold. -/
theorem RefersWithin.plain (h : k.RefersWithin texts) (annotations : Annotations) :
    (k.plain annotations).RefersWithin texts := by
  unfold Keywords.plain
  dsimp only
  split
  · refine Schema.refersWithin_of_child (fun _ heq => by cases heq) fun c hc => ?_
    exact h.items c (Option.join_eq_some_iff.mp (Schema.child_array_iff.mp hc))
  · split
    · refine Schema.refersWithin_of_child (fun _ heq => by cases heq) fun c hc => ?_
      rcases Schema.child_object_iff.mp hc with ⟨name, hmem⟩ | hadd
      · rcases hprops : k.properties with _ | _ | properties
        · simp [hprops] at hmem
        · simp [hprops] at hmem
        · rw [hprops] at hmem
          exact h.properties properties hprops name c hmem
      · rcases hopt : k.additional with _ | additional
        · simp [hopt] at hadd
        · rw [hopt, Option.getD_some] at hadd
          exact h.additional c (hadd ▸ hopt)
    · exact Schema.refersWithin_of_child (fun _ heq => by cases heq) (fun _ hc => by cases hc)

/-- The member that the keywords beside a composition form mentions what they hold. -/
theorem RefersWithin.siblings (h : k.RefersWithin texts) {s : Schema} (hs : s ∈ k.siblings) :
    s.RefersWithin texts := by
  unfold Keywords.siblings at hs
  split at hs
  · rw [List.mem_singleton.mp hs]
    exact h.plain []
  · exact absurd hs List.not_mem_nil

/-- The alternatives of a mapping mention what its keywords hold. -/
theorem RefersWithin.alternatives (h : k.RefersWithin texts) {keyword : Alternation}
    {members : List Schema} (halt : k.alternatives? = some (keyword, members)) :
    ∀ c ∈ members, c.RefersWithin texts := by
  unfold Keywords.alternatives? at halt
  cases hone : k.oneOf with
  | some found =>
      rw [hone] at halt
      cases halt
      exact h.oneOf _ hone
  | none =>
      rw [hone] at halt
      obtain ⟨found, hany, heq⟩ := Option.map_eq_some_iff.mp halt
      cases heq
      exact h.anyOf _ hany

/-- **The schema of a mapping mentions what its keywords hold.** -/
theorem RefersWithin.schema (h : k.RefersWithin texts) (annotations : Annotations) :
    (k.schema annotations).RefersWithin texts := by
  unfold Keywords.schema
  rcases href : k.reference with _ | pointer
  · rcases hall : k.allOf with _ | members
    · rcases halt : k.alternatives? with _ | ⟨keyword, members⟩
      · exact h.plain annotations
      · have hunion : ∀ annotations,
            (Schema.union keyword members annotations).RefersWithin texts := fun annotations =>
          Schema.refersWithin_of_child (fun _ heq => by cases heq) fun c hc =>
            h.alternatives halt c (Schema.child_union_iff.mp hc)
        -- with other keywords beside them, the alternatives become the first member of a composition
        dsimp only
        split
        · exact hunion annotations
        · refine Schema.refersWithin_of_child (fun _ heq => by cases heq) fun c hc => ?_
          rcases List.mem_cons.mp (Schema.child_allOf_iff.mp hc) with rfl | hmem
          · exact hunion []
          · exact h.siblings hmem
    · refine Schema.refersWithin_of_child (fun _ heq => by cases heq) fun c hc => ?_
      rcases List.mem_append.mp (Schema.child_allOf_iff.mp hc) with hmem | hmem
      · exact h.allOf members hall c hmem
      · exact h.siblings hmem
  · refine Schema.refersWithin_of_child (fun q heq => ?_) (fun _ hc => by cases hc)
    cases heq
    exact h.reference pointer href

end Keywords

namespace Schema

open Value (referenceTextsOfList referenceTextsOfEntries)

mutual

/-- **Reading invents no reference**: what the schema of a value mentions is written in the value. -/
theorem refersWithin_ofValue : ∀ v : Value, (ofValue v).RefersWithin v.referenceTexts
  | .map entries => (refersWithin_keywords entries).schema (annotationsOf entries)
  | .scalar _ => refersWithin_anything
  | .list _ => refersWithin_anything
  | .set _ => refersWithin_anything

/-- What the shape keywords of a mapping hold is written in the mapping. -/
theorem refersWithin_keywords :
    ∀ entries, (keywords entries).RefersWithin (referenceTextsOfEntries entries)
  | [] => Keywords.refersWithin_empty
  | (key, v) :: rest => by
      have hrest : (keywords rest).RefersWithin (referenceTextsOfEntries ((key, v) :: rest)) :=
        (refersWithin_keywords rest).mono (List.subset_append_right _ _)
      have hsub : v.referenceTexts ⊆ referenceTextsOfEntries ((key, v) :: rest) :=
        Value.referenceTexts_subset_of_mem List.mem_cons_self
      have hv := (refersWithin_ofValue v).mono hsub
      have hmembers := fun members hm c hc => (refersWithin_membersOf? v members hm c hc).mono hsub
      rw [keywords]
      -- one keyword is set by this entry, the others are those of the rest
      cases hkey : Keyword.ofKey? key with
      | none => exact hrest
      | some word =>
          cases word with
          | reference =>
              refine { hrest with reference := fun pointer hp => ?_ }
              rw [referenceTextsOfEntries, Keyword.eq_key_of_ofKey? hkey]
              refine List.mem_append_left _ (List.mem_append_left _ ?_)
              exact Option.mem_toList.mpr hp
          | allOf => exact { hrest with allOf := hmembers }
          | oneOf => exact { hrest with oneOf := hmembers }
          | anyOf => exact { hrest with anyOf := hmembers }
          | items =>
              refine { hrest with items := fun c hc => ?_ }
              dsimp only at hc
              split at hc
              · cases hc
                exact hv
              · cases hc
          | properties =>
              refine { hrest with properties := fun properties hp name c hc => ?_ }
              exact (refersWithin_propertiesOf? v properties (Option.some.inj hp) name c hc).mono hsub
          | required => exact { hrest with }
          | additional =>
              refine { hrest with additional := fun c hc => ?_ }
              rw [Option.some.injEq] at hc
              unfold additionalOf at hc
              split at hc
              · cases hc
              · cases hc
                exact hv
              · cases hc

/-- The members that a list writes mention what is written in it. -/
theorem refersWithin_membersOf? : ∀ (v : Value) members, membersOf? v = some members →
    ∀ c ∈ members, c.RefersWithin v.referenceTexts
  | .list items, members, h, c, hc => by
      rw [membersOf?, Option.some.injEq] at h
      subst h
      exact refersWithin_ofValues items c hc
  | .scalar _, _, h, _, _ => by simp [membersOf?] at h
  | .map _, _, h, _, _ => by simp [membersOf?] at h
  | .set _, _, h, _, _ => by simp [membersOf?] at h

/-- The properties that a mapping writes mention what is written in it. -/
theorem refersWithin_propertiesOf? : ∀ (v : Value) properties, propertiesOf? v = some properties →
    ∀ name c, (name, c) ∈ properties → c.RefersWithin v.referenceTexts
  | .map entries, properties, h, name, c, hc => by
      rw [propertiesOf?, Option.some.injEq] at h
      subst h
      exact refersWithin_namedSchemas entries name c (Entries.mem_of_mem_ofList hc)
  | .scalar _, _, h, _, _, _ => by simp [propertiesOf?] at h
  | .list _, _, h, _, _, _ => by simp [propertiesOf?] at h
  | .set _, _, h, _, _, _ => by simp [propertiesOf?] at h

/-- The schemas of the values of a list mention what is written in the list. -/
theorem refersWithin_ofValues :
    ∀ items, ∀ c ∈ ofValues items, c.RefersWithin (referenceTextsOfList items)
  | [], c, hc => absurd hc List.not_mem_nil
  | v :: rest, c, hc => by
      rw [ofValues] at hc
      rcases List.mem_cons.mp hc with rfl | hc
      · exact (refersWithin_ofValue v).mono (List.subset_append_left _ _)
      · exact (refersWithin_ofValues rest c hc).mono (List.subset_append_right _ _)

/-- The schemas of the values of a mapping mention what is written in the mapping. -/
theorem refersWithin_namedSchemas : ∀ entries, ∀ name c, (name, c) ∈ namedSchemas entries →
    c.RefersWithin (referenceTextsOfEntries entries)
  | [], _, _, hc => absurd hc List.not_mem_nil
  | (key, v) :: rest, name, c, hc => by
      rw [namedSchemas] at hc
      rcases List.mem_cons.mp hc with heq | hc
      · cases heq
        exact (refersWithin_ofValue v).mono (Value.referenceTexts_subset_of_mem List.mem_cons_self)
      · exact (refersWithin_namedSchemas rest name c hc).mono (List.subset_append_right _ _)

end

/-- What stands where a pointer leads mentions references of the document only. -/
theorem refersWithin_atPointer {document : Value} {pointer : String} {s : Schema}
    (h : atPointer document pointer = .ok s) : s.RefersWithin document.referenceTexts := by
  unfold atPointer at h
  cases hv : Pointer.resolve document pointer with
  | error e =>
      rw [hv] at h
      cases h
  | ok v =>
      rw [hv] at h
      cases h
      exact (refersWithin_ofValue v).mono (Value.referenceTexts_subset_of_resolve hv)

end Schema

/-! ## The length of a chain -/

/-- A chain of different references on a list that can still grow by one on that list is shorter than
the number of different references on the list. -/
theorem length_lt_distinctCount {chain texts : List String} {pointer : String} (hnodup : chain.Nodup)
    (hsub : chain ⊆ texts) (hnot : pointer ∉ chain) (hmem : pointer ∈ texts) :
    chain.length < distinctCount texts := by
  -- with the new reference in front there is one different reference more
  have hlonger : (pointer :: chain).Nodup := List.nodup_cons.mpr ⟨hnot, hnodup⟩
  refine hlonger.length_le_of_subset fun q hq => List.mem_eraseDups.mpr ?_
  rcases List.mem_cons.mp hq with rfl | hq
  · exact hmem
  · exact hsub hq

end ServiceBindings
