import ServiceBindings.Proofs.Schema.Unfolding

/-! # Inlining references in a document

A value can be freed of references before it is read as a schema: at every **schema position** a mapping
that is a reference is replaced by what it leads to, itself inlined (`Value.inline`). The schema positions of
a mapping are the members of compositions, the values of properties, the items and what is said about
undeclared properties (`Value.Position`). References elsewhere, such as in an example, are left alone.

**Inlining succeeds exactly when every reference that it meets leads to a mapping and none leads back to
itself** (`Value.exists_inline_eq_some_iff`). -/

namespace ServiceBindings

/-- Where the value of a key holds schemas. -/
inductive SchemaPlace where
  /-- Nowhere. -/
  | nowhere
  /-- In each item, if it is a list. -/
  | items
  /-- In each value, if it is a mapping. -/
  | values
  /-- The value itself is one. -/
  | here
  deriving DecidableEq

/-- Where the value of a keyword holds schemas. -/
def Keyword.place : Keyword → SchemaPlace
  | allOf => .items
  | oneOf => .items
  | anyOf => .items
  | properties => .values
  | items => .here
  | additional => .here
  | reference => .nowhere
  | required => .nowhere

/-- Where the value of a key holds schemas. -/
def SchemaPlace.ofKey (key : Scalar) : SchemaPlace := (Keyword.ofKey? key).elim .nowhere Keyword.place

namespace Value

/-! ## Inlining -/

mutual

/-- Replace the references at the schema positions of a value, given what a reference is replaced by. -/
def inlineWith (replace : String → Option Value) : Value → Option Value
  | .map entries =>
      match (Value.map entries).reference? with
      | some pointer => replace pointer
      | none => (inlineEntries replace entries).map .map
  | .scalar s => some (.scalar s)
  | .list items => some (.list items)
  | .set members => some (.set members)

/-- Replace the references at the schema positions of a mapping. -/
def inlineEntries (replace : String → Option Value) :
    List (Scalar × Value) → Option (List (Scalar × Value))
  | [] => some []
  | (key, v) :: rest =>
      let inlined :=
        match SchemaPlace.ofKey key with
        | .nowhere => some v
        | .items => inlineItems replace v
        | .values => inlineValues replace v
        | .here => inlineWith replace v
      inlined.bind fun w => (inlineEntries replace rest).map ((key, w) :: ·)

/-- Replace the references in the items of a list. -/
def inlineItems (replace : String → Option Value) : Value → Option Value
  | .list items => (inlineEachItem replace items).map .list
  | .scalar s => some (.scalar s)
  | .map entries => some (.map entries)
  | .set members => some (.set members)

/-- Replace the references in the values of a mapping. -/
def inlineValues (replace : String → Option Value) : Value → Option Value
  | .map entries => (inlineEachValue replace entries).map .map
  | .scalar s => some (.scalar s)
  | .list items => some (.list items)
  | .set members => some (.set members)

/-- Replace the references in each item. -/
def inlineEachItem (replace : String → Option Value) : List Value → Option (List Value)
  | [] => some []
  | v :: rest => (inlineWith replace v).bind fun w => (inlineEachItem replace rest).map (w :: ·)

/-- Replace the references in the value of each entry. -/
def inlineEachValue (replace : String → Option Value) :
    List (Scalar × Value) → Option (List (Scalar × Value))
  | [] => some []
  | (name, v) :: rest =>
      (inlineWith replace v).bind fun w => (inlineEachValue replace rest).map ((name, w) :: ·)

end

/-- Replace the references in a value that holds schemas in a given place. -/
def inlineAt (replace : String → Option Value) : SchemaPlace → Value → Option Value
  | .nowhere, v => some v
  | .items, v => inlineItems replace v
  | .values, v => inlineValues replace v
  | .here, v => inlineWith replace v

/-- A mapping is inlined entry by entry. -/
theorem inlineEntries_cons (replace : String → Option Value) (key : Scalar) (v : Value)
    (rest : List (Scalar × Value)) :
    inlineEntries replace ((key, v) :: rest) = (inlineAt replace (.ofKey key) v).bind fun w =>
      (inlineEntries replace rest).map ((key, w) :: ·) := by
  rw [inlineEntries]
  cases SchemaPlace.ofKey key <;> rfl

/-- The mapping that a reference leads to, inlined on a path of at most `bound` references. -/
def inlineReference (document : Value) : Nat → String → Option Value
  | 0, _ => none
  | bound + 1, pointer =>
      match Pointer.resolve document pointer with
      | .ok (.map entries) => inlineWith (inlineReference document bound) (.map entries)
      | _ => none

/-- A value with its references inlined. No path without repetition has more references than the document
and the value. -/
def inline (document v : Value) : Option Value :=
  inlineWith (inlineReference document (document.referenceCount v.referenceTexts)) v

/-! ## Schema positions -/

/-- A value holds a schema in a given place. -/
inductive HoldsAt : SchemaPlace → Value → Value → Prop where
  /-- An item of a list. -/
  | item {items : List Value} {v : Value} : v ∈ items → HoldsAt .items (.list items) v
  /-- The value of an entry. -/
  | value {entries : List (Scalar × Value)} {name : Scalar} {v : Value} :
      (name, v) ∈ entries → HoldsAt .values (.map entries) v
  /-- The value itself. -/
  | here (v : Value) : HoldsAt .here v v

/-- A value stands at a schema position of a mapping. -/
def Position (entries : List (Scalar × Value)) (v : Value) : Prop :=
  ∃ entry ∈ entries, HoldsAt (.ofKey entry.1) entry.2 v

/-- A value refers to a place: it is a reference to it, or no reference and a value at one of its schema
positions refers to the place. -/
inductive RefersAt : Value → String → Prop where
  /-- The value is a reference. -/
  | here {v : Value} {pointer : String} : v.reference? = some pointer → RefersAt v pointer
  /-- A value inside refers to the place. -/
  | inside {entries : List (Scalar × Value)} {v : Value} {pointer : String} :
      (Value.map entries).reference? = none → Position entries v → RefersAt v pointer →
      RefersAt (.map entries) pointer

/-- The mapping at the first place refers to the second. -/
def RefersTo (document : Value) (p q : String) : Prop :=
  ∃ entries, Pointer.resolve document p = .ok (.map entries) ∧ RefersAt (.map entries) q

/-- A pointer leads to a mapping. -/
def ResolvesToMap (document : Value) (pointer : String) : Prop :=
  ∃ entries, Pointer.resolve document pointer = .ok (.map entries)

/-- A place that a value refers to, or that such a place refers to in some steps. -/
def Reaches (document v : Value) (q : String) : Prop :=
  ∃ p, RefersAt v p ∧ Relation.ReflTransGen (RefersTo document) p q

/-! ## What is replaced -/

section Replaced

variable {replace : String → Option Value}

mutual

/-- Inlining a value fails only where a reference of it has no replacement. -/
theorem exists_refersAt_of_inlineWith_eq_none : ∀ v : Value, inlineWith replace v = none →
    ∃ q, RefersAt v q ∧ replace q = none
  | .map entries, h => by
      rw [inlineWith] at h
      split at h
      · next pointer href => exact ⟨pointer, .here href, h⟩
      · next href =>
          obtain ⟨v, q, hv, hq, hnone⟩ :=
            exists_position_of_inlineEntries_eq_none entries (Option.map_eq_none_iff.mp h)
          exact ⟨q, .inside href hv hq, hnone⟩
  | .scalar _, h => nomatch h
  | .list _, h => nomatch h
  | .set _, h => nomatch h

/-- Inlining a mapping fails only at a schema position. -/
theorem exists_position_of_inlineEntries_eq_none : ∀ entries : List (Scalar × Value),
    inlineEntries replace entries = none →
      ∃ v q, Position entries v ∧ RefersAt v q ∧ replace q = none
  | [], h => nomatch h
  | (key, v) :: rest, h => by
      rw [inlineEntries_cons, Option.bind_eq_none_iff] at h
      -- the failure is in this entry or in one of the rest
      by_cases hrest : inlineEntries replace rest = none
      · obtain ⟨u, q, ⟨entry, hentry, hu⟩, hq⟩ := exists_position_of_inlineEntries_eq_none rest hrest
        exact ⟨u, q, ⟨entry, List.mem_cons_of_mem _ hentry, hu⟩, hq⟩
      · have hnone : inlineAt replace (.ofKey key) v = none := by
          rw [Option.eq_none_iff_forall_ne_some]
          exact fun w hw => hrest (Option.map_eq_none_iff.mp (h w hw))
        obtain ⟨u, q, hu, hq⟩ : ∃ u q, HoldsAt (.ofKey key) v u ∧ RefersAt u q ∧ replace q = none := by
          cases hplace : SchemaPlace.ofKey key <;> rw [hplace] at hnone
          case nowhere => cases hnone
          case items => exact exists_holdsAt_of_inlineItems_eq_none v hnone
          case values => exact exists_holdsAt_of_inlineValues_eq_none v hnone
          case here =>
            obtain ⟨q, hq⟩ := exists_refersAt_of_inlineWith_eq_none v hnone
            exact ⟨v, q, .here v, hq⟩
        exact ⟨u, q, ⟨(key, v), List.mem_cons_self, hu⟩, hq⟩

/-- Inlining the items of a list fails only at one of them. -/
theorem exists_holdsAt_of_inlineItems_eq_none : ∀ v : Value, inlineItems replace v = none →
    ∃ u q, HoldsAt .items v u ∧ RefersAt u q ∧ replace q = none
  | .list items, h => by
      rw [inlineItems, Option.map_eq_none_iff] at h
      obtain ⟨u, hu, q, hq⟩ := exists_mem_of_inlineEachItem_eq_none items h
      exact ⟨u, q, .item hu, hq⟩
  | .scalar _, h => nomatch h
  | .map _, h => nomatch h
  | .set _, h => nomatch h

/-- Inlining the values of a mapping fails only at one of them. -/
theorem exists_holdsAt_of_inlineValues_eq_none : ∀ v : Value, inlineValues replace v = none →
    ∃ u q, HoldsAt .values v u ∧ RefersAt u q ∧ replace q = none
  | .map entries, h => by
      rw [inlineValues, Option.map_eq_none_iff] at h
      obtain ⟨⟨name, u⟩, hu, q, hq⟩ := exists_mem_of_inlineEachValue_eq_none entries h
      exact ⟨u, q, .value hu, hq⟩
  | .scalar _, h => nomatch h
  | .list _, h => nomatch h
  | .set _, h => nomatch h

/-- Inlining each item fails only at one of them. -/
theorem exists_mem_of_inlineEachItem_eq_none : ∀ items : List Value,
    inlineEachItem replace items = none → ∃ v ∈ items, ∃ q, RefersAt v q ∧ replace q = none
  | [], h => nomatch h
  | v :: rest, h => by
      rw [inlineEachItem, Option.bind_eq_none_iff] at h
      cases hv : inlineWith replace v with
      | none => exact ⟨v, List.mem_cons_self, exists_refersAt_of_inlineWith_eq_none v hv⟩
      | some w =>
          obtain ⟨u, hu, hq⟩ :=
            exists_mem_of_inlineEachItem_eq_none rest (Option.map_eq_none_iff.mp (h w hv))
          exact ⟨u, List.mem_cons_of_mem _ hu, hq⟩

/-- Inlining the value of each entry fails only at one of them. -/
theorem exists_mem_of_inlineEachValue_eq_none : ∀ entries : List (Scalar × Value),
    inlineEachValue replace entries = none →
      ∃ entry ∈ entries, ∃ q, RefersAt entry.2 q ∧ replace q = none
  | [], h => nomatch h
  | (name, v) :: rest, h => by
      rw [inlineEachValue, Option.bind_eq_none_iff] at h
      cases hv : inlineWith replace v with
      | none => exact ⟨(name, v), List.mem_cons_self, exists_refersAt_of_inlineWith_eq_none v hv⟩
      | some w =>
          obtain ⟨u, hu, hq⟩ :=
            exists_mem_of_inlineEachValue_eq_none rest (Option.map_eq_none_iff.mp (h w hv))
          exact ⟨u, List.mem_cons_of_mem _ hu, hq⟩

end

/-- Where all items are inlined, each of them is. -/
theorem exists_of_mem_of_inlineEachItem_eq_some {items items' : List Value}
    (h : inlineEachItem replace items = some items') {v : Value} (hv : v ∈ items) :
    ∃ w, inlineWith replace v = some w := by
  induction items generalizing items' with
  | nil => cases hv
  | cons u rest ih =>
      rw [inlineEachItem, Option.bind_eq_some_iff] at h
      obtain ⟨w, hw, h⟩ := h
      obtain ⟨rest', hrest, -⟩ := Option.map_eq_some_iff.mp h
      rcases List.mem_cons.mp hv with rfl | hv
      · exact ⟨w, hw⟩
      · exact ih hrest hv

/-- Where the values of all entries are inlined, each of them is. -/
theorem exists_of_mem_of_inlineEachValue_eq_some {entries entries' : List (Scalar × Value)}
    (h : inlineEachValue replace entries = some entries') {name : Scalar} {v : Value}
    (hv : (name, v) ∈ entries) : ∃ w, inlineWith replace v = some w := by
  induction entries generalizing entries' with
  | nil => cases hv
  | cons entry rest ih =>
      rw [inlineEachValue, Option.bind_eq_some_iff] at h
      obtain ⟨w, hw, h⟩ := h
      obtain ⟨rest', hrest, -⟩ := Option.map_eq_some_iff.mp h
      rcases List.mem_cons.mp hv with rfl | hv
      · exact ⟨w, hw⟩
      · exact ih hrest hv

/-- Where a mapping is inlined, the values at its schema positions are. -/
theorem exists_of_position_of_inlineEntries_eq_some {entries entries' : List (Scalar × Value)}
    (h : inlineEntries replace entries = some entries') {v : Value} (hv : Position entries v) :
    ∃ w, inlineWith replace v = some w := by
  induction entries generalizing entries' with
  | nil =>
      obtain ⟨entry, hentry, -⟩ := hv
      cases hentry
  | cons entry rest ih =>
      rw [inlineEntries_cons, Option.bind_eq_some_iff] at h
      obtain ⟨w, hw, h⟩ := h
      obtain ⟨rest', hrest, -⟩ := Option.map_eq_some_iff.mp h
      obtain ⟨entry', hentry, hv⟩ := hv
      rcases List.mem_cons.mp hentry with rfl | hentry
      · generalize SchemaPlace.ofKey entry'.1 = place at hw hv
        generalize entry'.2 = u at hw hv
        cases hv with
        | item hmem =>
            obtain ⟨items', hitems, -⟩ := Option.map_eq_some_iff.mp hw
            exact exists_of_mem_of_inlineEachItem_eq_some hitems hmem
        | value hmem =>
            obtain ⟨values', hvalues, -⟩ := Option.map_eq_some_iff.mp hw
            exact exists_of_mem_of_inlineEachValue_eq_some hvalues hmem
        | here => exact ⟨w, hw⟩
      · exact ih hrest ⟨entry', hentry, hv⟩

/-- Where a value is inlined, every reference of it has a replacement. -/
theorem exists_replace_of_inlineWith_eq_some {v w : Value} (h : inlineWith replace v = some w) {q : String}
    (hq : RefersAt v q) : ∃ t, replace q = some t := by
  induction hq generalizing w with
  | @here v pointer href =>
      cases v with
      | map entries =>
          rw [inlineWith, href] at h
          exact ⟨w, h⟩
      | _ => cases href
  | inside href hposition _ ih =>
      rw [inlineWith, href] at h
      obtain ⟨entries', hentries, -⟩ := Option.map_eq_some_iff.mp h
      obtain ⟨w', hw'⟩ := exists_of_position_of_inlineEntries_eq_some hentries hposition
      exact ih hw'

end Replaced

/-! ## When inlining succeeds -/

/-- What stands at a schema position is written in the mapping. -/
theorem referenceTexts_subset_of_position {entries : List (Scalar × Value)} {v : Value}
    (h : Position entries v) : v.referenceTexts ⊆ referenceTextsOfEntries entries := by
  obtain ⟨⟨key, u⟩, hentry, hv⟩ := h
  refine List.Subset.trans ?_ (referenceTexts_subset_of_mem hentry)
  dsimp only at hv
  generalize SchemaPlace.ofKey key = place at hv
  cases hv with
  | item hmem => exact fun q hq => mem_referenceTextsOfList.mpr ⟨v, hmem, hq⟩
  | value hmem => exact referenceTexts_subset_of_mem hmem
  | here => exact List.Subset.refl _

/-- The places that a value refers to are written in it. -/
theorem RefersAt.mem_referenceTexts {v : Value} {q : String} (h : RefersAt v q) : q ∈ v.referenceTexts := by
  induction h with
  | here href => exact mem_referenceTexts_of_reference? href
  | inside _ hposition _ ih => exact referenceTexts_subset_of_position hposition ih

variable {document : Value}

/-- A reference that is inlined leads to a mapping, which is inlined on shorter paths. -/
theorem inlineReference_eq_some_iff {bound : Nat} {p : String} {w : Value} :
    inlineReference document bound p = some w ↔ ∃ below entries, bound = below + 1 ∧
      Pointer.resolve document p = .ok (.map entries) ∧
      inlineWith (inlineReference document below) (.map entries) = some w := by
  cases bound with
  | zero => exact ⟨nofun, fun ⟨_, _, h, _⟩ => nomatch h⟩
  | succ below =>
      rw [inlineReference]
      constructor
      · intro h
        split at h
        · next entries hentries => exact ⟨below, entries, rfl, hentries, h⟩
        · cases h
      · rintro ⟨below', entries, hbound, hentries, h⟩
        cases hbound
        rw [hentries]
        exact h

/-- What an inlined reference refers to is inlined on shorter paths. -/
theorem exists_lt_of_refersTo (bound : Nat) (p q : String) :
    (∃ w, inlineReference document bound p = some w) → RefersTo document p q →
      ∃ below < bound, ∃ w, inlineReference document below q = some w := by
  rintro ⟨w, h⟩ ⟨entries', hentries', hq⟩
  obtain ⟨below, entries, rfl, hentries, hinline⟩ := inlineReference_eq_some_iff.mp h
  cases hentries.symm.trans hentries'
  exact ⟨below, Nat.lt_succ_self below, exists_replace_of_inlineWith_eq_some hinline hq⟩

/-- **What inlining a reference rules out**: the reference, and every place that it reaches, leads to a
mapping and not back to itself. -/
theorem of_inlineReference_eq_some {bound : Nat} {p : String} {w : Value}
    (h : inlineReference document bound p = some w) {q : String}
    (hq : Relation.ReflTransGen (RefersTo document) p q) :
    ResolvesToMap document q ∧ ¬ Relation.TransGen (RefersTo document) q q := by
  obtain ⟨below, hbelow⟩ := exists_of_reflTransGen_of_descends exists_lt_of_refersTo ⟨w, h⟩ hq
  refine ⟨?_, not_transGen_of_descends exists_lt_of_refersTo hbelow⟩
  obtain ⟨t, ht⟩ := hbelow
  obtain ⟨_, entries, -, hentries, -⟩ := inlineReference_eq_some_iff.mp ht
  exact ⟨entries, hentries⟩

/-- **A reference can be inlined** if the places that it reaches lead to mappings and none to itself. On top
of a chain of different references that lead to this one, the bound does no harm if chain and bound are as
long as the document has different references. -/
theorem exists_inlineReference_eq_some {texts : List String} (hdocument : document.referenceTexts ⊆ texts)
    {bound : Nat} {chain : List String} {p : String} (hnodup : chain.Nodup) (hchain : chain ⊆ texts)
    (hp : p ∈ texts) (hsteps : ∀ c ∈ chain, Relation.TransGen (RefersTo document) c p)
    (hbound : distinctCount texts ≤ chain.length + bound)
    (hclear : ∀ q, Relation.ReflTransGen (RefersTo document) p q →
      ResolvesToMap document q ∧ ¬ Relation.TransGen (RefersTo document) q q) :
    ∃ w, inlineReference document bound p = some w := by
  induction bound generalizing chain p with
  | zero =>
      -- the chain holds all references of the document, but not this one
      have hmem : p ∉ chain := fun hmem => (hclear p .refl).2 (hsteps p hmem)
      have hlt := length_lt_distinctCount hnodup hchain hmem hp
      omega
  | succ bound ih =>
      have hmem : p ∉ chain := fun hmem => (hclear p .refl).2 (hsteps p hmem)
      obtain ⟨entries, hentries⟩ := (hclear p .refl).1
      cases hinline : inlineWith (inlineReference document bound) (.map entries) with
      | some w => exact ⟨w, inlineReference_eq_some_iff.mpr ⟨bound, entries, rfl, hentries, hinline⟩⟩
      | none =>
          -- a reference without replacement would be one further step
          obtain ⟨q, hq, hnone⟩ := exists_refersAt_of_inlineWith_eq_none _ hinline
          have hstep : RefersTo document p q := ⟨entries, hentries, hq⟩
          have hwritten : q ∈ texts :=
            hdocument (referenceTexts_subset_of_resolve hentries hq.mem_referenceTexts)
          have hlonger : (chain ++ [p]) ⊆ texts :=
            List.append_subset.mpr ⟨hchain, List.cons_subset.mpr ⟨hp, List.nil_subset _⟩⟩
          have hsteps' : ∀ c ∈ chain ++ [p], Relation.TransGen (RefersTo document) c q := by
            intro c hc
            rcases List.mem_append.mp hc with hc | hc
            · exact (hsteps c hc).tail hstep
            · rw [List.mem_singleton.mp hc]
              exact .single hstep
          have hlength : (chain ++ [p]).length = chain.length + 1 := List.length_append
          obtain ⟨w, hw⟩ := ih (Schema.nodup_append_singleton hnodup hmem) hlonger hwritten hsteps'
            (by omega) fun q' hq' => hclear q' (.head hstep hq')
          rw [hnone] at hw
          cases hw

/-- **Inlining succeeds exactly when every reference that it meets leads to a mapping and none leads back to
itself.** -/
theorem exists_inline_eq_some_iff (document v : Value) : (∃ w, document.inline v = some w) ↔
    ∀ q, Reaches document v q →
      ResolvesToMap document q ∧ ¬ Relation.TransGen (RefersTo document) q q := by
  constructor
  · rintro ⟨w, h⟩ q ⟨p, hp, hsteps⟩
    obtain ⟨t, ht⟩ := exists_replace_of_inlineWith_eq_some h hp
    exact of_inlineReference_eq_some ht hsteps
  · intro hclear
    cases hinline : document.inline v with
    | some w => exact ⟨w, rfl⟩
    | none =>
        obtain ⟨q, hq, hnone⟩ := exists_refersAt_of_inlineWith_eq_none _ hinline
        obtain ⟨w, hw⟩ := exists_inlineReference_eq_some (List.subset_append_left _ _) List.nodup_nil
          (List.nil_subset _) (List.mem_append_right _ hq.mem_referenceTexts) nofun
          (Nat.le_of_eq (Nat.zero_add _).symm) fun q' hq' => hclear q' ⟨q, hq, hq'⟩
        rw [Value.referenceCount, hw] at hnone
        cases hnone

/-- The items of an array, inlined; the reference in the example stays. -/
example : inline (.map [(.text "label", .map [(.text "type", .text "string")])])
      (.map [(.text "items", .map [(.text "$ref", .text "#/label")]),
        (.text "example", .map [(.text "$ref", .text "#/label")])])
    = some (.map [(.text "items", .map [(.text "type", .text "string")]),
        (.text "example", .map [(.text "$ref", .text "#/label")])]) := by decide

end Value

end ServiceBindings
