import Mathlib.Data.List.Induction
import ServiceBindings.Proofs.Schema.Position
import ServiceBindings.Schema.Required

/-! # What completing the required properties changes

A direct part of a schema stands in a `Slot`, and a part anywhere at the end of a path of slots
(`Schema.at?`). What a schema says by itself is its `Head`; heads and paths together determine a schema
(`Schema.eq_of_heads`).

A position is **exposed** (`Schema.Exposed`) if completion gets there: through items and members, and through
the properties of objects that require none. Completion writes the names of all properties into the heads of
exposed objects that require none, and **changes nothing else** (`Schema.CompletedTo`). This determines the
completed schema, and completing it again changes nothing (`Schema.completeRequired_exact`). -/

namespace ServiceBindings

/-- Where a direct part stands in a schema. -/
inductive Slot where
  /-- The declared property with the given number. -/
  | property (index : Nat)
  /-- The undeclared properties. -/
  | undeclared
  /-- The items. -/
  | items
  /-- The member with the given number. -/
  | member (index : Nat)
  deriving DecidableEq, Repr

/-- **What a schema says by itself**, without the schemas inside it. -/
inductive Head where
  /-- A reference. -/
  | reference (pointer : String)
  /-- A leaf. -/
  | primitive (types : List String) (annotations : Annotations)
  /-- An object with the names of its properties in order. -/
  | object (names : List String) (required : Option (List String)) (additional : Additional Unit)
      (annotations : Annotations)
  /-- An array, perhaps with a schema of its items. -/
  | array (hasItems : Bool) (annotations : Annotations)
  /-- A number of members that must hold. -/
  | allOf (count : Nat) (annotations : Annotations)
  /-- A number of alternatives. -/
  | union (keyword : Alternation) (count : Nat) (annotations : Annotations)

/-- A head with the names of all properties required, if it has properties and requires none. -/
def Head.completed : Head → Head
  | .object names required additional annotations =>
      .object names (if required.getD [] = [] ∧ names ≠ [] then some names else required) additional
        annotations
  | head => head

namespace Additional

/-- What is said about undeclared properties, without their schema. -/
def outline {α : Type} : Additional α → Additional Unit
  | .unspecified => .unspecified
  | .allowed flag => .allowed flag
  | .typed _ => .typed ()

end Additional

namespace Schema

/-! ## Positions -/

/-- What stands in a slot of a schema. -/
def part? : Schema → Slot → Option Schema
  | .object properties _ _ _, .property index => properties[index]?.map Prod.snd
  | .object _ _ (.typed s) _, .undeclared => some s
  | .array items _, .items => items
  | .allOf members _, .member index => members[index]?
  | .union _ members _, .member index => members[index]?
  | _, _ => none

/-- What stands at the end of a path of slots. -/
def at? (s : Schema) : List Slot → Option Schema
  | [] => some s
  | slot :: rest => (s.part? slot).bind fun part => part.at? rest

/-- What a schema says by itself. -/
def head : Schema → Head
  | .reference pointer => .reference pointer
  | .primitive types annotations => .primitive types annotations
  | .object properties required additional annotations =>
      .object (properties.map Prod.fst) required additional.outline annotations
  | .array items annotations => .array items.isSome annotations
  | .allOf members annotations => .allOf members.length annotations
  | .union keyword members annotations => .union keyword members.length annotations

variable {s t r c : Schema} {slot : Slot} {path : List Slot}

@[simp] theorem at?_nil (s : Schema) : s.at? [] = some s := rfl

theorem at?_cons (s : Schema) (slot : Slot) (rest : List Slot) :
    s.at? (slot :: rest) = (s.part? slot).bind fun part => part.at? rest := rfl

/-- One path after the other leads where the second leads from the end of the first. -/
theorem at?_append (s : Schema) (path rest : List Slot) :
    s.at? (path ++ rest) = (s.at? path).bind fun part => part.at? rest := by
  induction path generalizing s with
  | nil => rfl
  | cons slot path ih =>
      rw [List.cons_append, at?_cons, at?_cons]
      cases s.part? slot with
      | none => rfl
      | some part => exact ih part

/-- The last slot of a path is one of the schema that stands in front of it. -/
theorem at?_append_singleton (h : s.at? path = some c) (slot : Slot) :
    s.at? (path ++ [slot]) = c.part? slot := by
  rw [at?_append, h, Option.bind_some, at?_cons]
  exact Option.bind_fun_some _

/-- What stands in a slot is a direct part. -/
theorem child_of_part? (h : s.part? slot = some c) : Child c s := by
  unfold part? at h
  split at h
  · obtain ⟨property, hproperty, rfl⟩ := Option.map_eq_some_iff.mp h
    exact .property (List.mem_of_getElem? hproperty)
  · cases h
    exact .additional
  · exact child_array_iff.mpr h
  · exact .allOf (List.mem_of_getElem? h)
  · exact .union (List.mem_of_getElem? h)
  · cases h

/-! ## Heads determine a schema -/

/-- Properties are determined by their names and their schemas. -/
theorem properties_eq {properties properties' : List (String × Schema)}
    (hnames : properties.map Prod.fst = properties'.map Prod.fst)
    (hparts : ∀ index : Nat, properties[index]?.map Prod.snd = properties'[index]?.map Prod.snd) :
    properties = properties' := by
  have hschemas : properties.map Prod.snd = properties'.map Prod.snd := by
    refine List.ext_getElem? fun index => ?_
    rw [List.getElem?_map, List.getElem?_map, hparts index]
  rw [List.zip_of_prod hnames hschemas, ← List.zip_of_prod rfl rfl]

/-- What is said about undeclared properties is determined by its outline and by what stands in their slot. -/
theorem additional_eq {properties properties' : List (String × Schema)}
    {required required' : Option (List String)} {additional additional' : Additional Schema}
    {annotations annotations' : Annotations} (houtline : additional.outline = additional'.outline)
    (hpart : (object properties required additional annotations).part? .undeclared =
      (object properties' required' additional' annotations').part? .undeclared) :
    additional = additional' := by
  cases additional with
  | unspecified =>
      cases additional' with
      | unspecified => rfl
      | _ => cases houtline
  | allowed flag =>
      cases additional' with
      | allowed => cases houtline; rfl
      | _ => cases houtline
  | typed c =>
      cases additional' with
      | typed => cases hpart; rfl
      | _ => cases houtline

/-- A schema is what it says by itself and what stands in its slots. -/
theorem eq_of_head_of_parts (hhead : s.head = t.head) (hparts : ∀ slot, s.part? slot = t.part? slot) :
    s = t := by
  cases s with
  | reference pointer =>
      cases t with
      | reference => cases hhead; rfl
      | _ => cases hhead
  | primitive types annotations =>
      cases t with
      | primitive => cases hhead; rfl
      | _ => cases hhead
  | object properties required additional annotations =>
      cases t with
      | object properties' required' additional' annotations' =>
          injection hhead with hnames hrequired houtline hannotations
          have hproperties : properties = properties' :=
            properties_eq hnames fun index => hparts (.property index)
          have hadditional : additional = additional' := additional_eq houtline (hparts .undeclared)
          rw [hproperties, hrequired, hadditional, hannotations]
      | _ => cases hhead
  | array items annotations =>
      cases t with
      | array items' annotations' =>
          injection hhead with _ hannotations
          have hitems : items = items' := hparts .items
          rw [hitems, hannotations]
      | _ => cases hhead
  | allOf members annotations =>
      cases t with
      | allOf members' annotations' =>
          injection hhead with _ hannotations
          have hmembers : members = members' := List.ext_getElem? fun index => hparts (.member index)
          rw [hmembers, hannotations]
      | _ => cases hhead
  | union keyword members annotations =>
      cases t with
      | union keyword' members' annotations' =>
          injection hhead with hkeyword _ hannotations
          have hmembers : members = members' := List.ext_getElem? fun index => hparts (.member index)
          rw [hkeyword, hmembers, hannotations]
      | _ => cases hhead

/-- **A schema is determined by the heads at its positions.** -/
theorem eq_of_heads (h : ∀ path, (s.at? path).map head = (t.at? path).map head) : s = t := by
  induction s using childInduction generalizing t with
  | step s ih =>
      have hhead : s.head = t.head := Option.some.inj (h [])
      refine eq_of_head_of_parts hhead fun slot => ?_
      -- the heads behind the slot agree, so that nothing stands there on either side or the same does
      have hbehind : ∀ rest, ((s.part? slot).bind fun part => part.at? rest).map head
          = ((t.part? slot).bind fun part => part.at? rest).map head := fun rest => h (slot :: rest)
      cases hs : s.part? slot with
      | none =>
          cases ht : t.part? slot with
          | none => rfl
          | some d => simpa [hs, ht] using hbehind []
      | some c =>
          cases ht : t.part? slot with
          | none => simpa [hs, ht] using hbehind []
          | some d =>
              have hheads : ∀ rest, (c.at? rest).map head = (d.at? rest).map head := by
                intro rest
                simpa only [hs, ht, Option.bind_some] using hbehind rest
              rw [ih c (child_of_part? hs) hheads]

/-! ## Exposed positions -/

/-- **The positions that completion gets to**, each with the schema that stands there. -/
inductive Exposed (t : Schema) : List Slot → Schema → Prop where
  /-- The root. -/
  | root : Exposed t [] t
  /-- The items of an exposed array. -/
  | items {path : List Slot} {items : Schema} {annotations : Annotations} :
      Exposed t path (.array (some items) annotations) → Exposed t (path ++ [.items]) items
  /-- A member of exposed schemas that must all hold. -/
  | allOf {path : List Slot} {members : List Schema} {annotations : Annotations} {index : Nat}
      {member : Schema} :
      Exposed t path (.allOf members annotations) → members[index]? = some member →
      Exposed t (path ++ [.member index]) member
  /-- An exposed alternative. -/
  | union {path : List Slot} {keyword : Alternation} {members : List Schema} {annotations : Annotations}
      {index : Nat} {member : Schema} :
      Exposed t path (.union keyword members annotations) → members[index]? = some member →
      Exposed t (path ++ [.member index]) member
  /-- A property of an exposed object that requires none. -/
  | property {path : List Slot} {properties : List (String × Schema)} {required : Option (List String)}
      {additional : Additional Schema} {annotations : Annotations} {index : Nat} {name : String}
      {value : Schema} :
      Exposed t path (.object properties required additional annotations) → required.getD [] = [] →
      properties[index]? = some (name, value) → Exposed t (path ++ [.property index]) value

/-- **The completed form of a schema**: what a second schema has to be like. -/
structure CompletedTo (t r : Schema) : Prop where
  /-- What stands at an exposed position has its head completed. -/
  exposed : ∀ path s, t.Exposed path s → ∃ u, r.at? path = some u ∧ u.head = s.head.completed
  /-- What stands at any other position is the same, with everything inside it. -/
  shielded : ∀ path, (∀ s, ¬ t.Exposed path s) → r.at? path = t.at? path
  /-- An object that does require properties is the same, with everything inside it. -/
  declared : ∀ path properties required additional annotations,
    t.at? path = some (.object properties required additional annotations) → required.getD [] ≠ [] →
    r.at? path = some (.object properties required additional annotations)
  /-- The schema of undeclared properties is the same, with everything inside it. -/
  undeclared : ∀ path s, t.at? (path ++ [.undeclared]) = some s →
    r.at? (path ++ [.undeclared]) = some s

/-- A list of required names declares none exactly if it is absent or empty. -/
theorem declaresNone_iff {required : Option (List String)} :
    declaresNone required = true ↔ required.getD [] = [] := by
  unfold declaresNone
  split
  · simp
  · next h =>
      cases required with
      | none => simp
      | some names =>
          cases names with
          | nil => simp
          | cons name rest => exact absurd rfl (h name rest)

/-- What stands at an exposed position stands there in the schema. -/
theorem Exposed.at?_eq (h : t.Exposed path s) : t.at? path = some s := by
  induction h with
  | root => rfl
  | items _ ih => exact at?_append_singleton ih _
  | allOf _ hmember ih => rw [at?_append_singleton ih, part?, hmember]
  | union _ hmember ih => rw [at?_append_singleton ih, part?, hmember]
  | property _ _ hproperty ih => rw [at?_append_singleton ih, part?, hproperty, Option.map_some]

/-- Completion never gets to the schema of undeclared properties. -/
theorem not_exposed_undeclared : ¬ t.Exposed (path ++ [.undeclared]) s := by
  intro h
  have hlast : (path ++ [Slot.undeclared]).getLast? = some .undeclared := List.getLast?_concat
  generalize path ++ [Slot.undeclared] = position at h hlast
  cases h with
  | root => cases hlast
  | items => simp at hlast
  | allOf => simp at hlast
  | union => simp at hlast
  | property => simp at hlast

/-! ## The completed schema -/

section Completing

variable {properties : List (String × Schema)} {required : Option (List String)}
  {additional : Additional Schema} {annotations : Annotations}

/-- An object that requires properties is left alone. -/
theorem completeRequired_of_declares (h : required.getD [] ≠ []) :
    (object properties required additional annotations).completeRequired
      = .object properties required additional annotations := by
  have hnone : declaresNone required = false := by
    rw [Bool.eq_false_iff]
    exact fun hnone => h (declaresNone_iff.mp hnone)
  rw [completeRequired, hnone, Bool.false_and, if_neg Bool.false_ne_true]

/-- An object that requires none gets the names of its properties if it has any, and its properties are
completed. -/
theorem completeRequired_of_declaresNone (h : required.getD [] = []) :
    (object properties required additional annotations).completeRequired
      = .object (properties.map fun property => (property.1, property.2.completeRequired))
          (if properties.map Prod.fst ≠ [] then some (properties.map Prod.fst) else required)
          additional annotations := by
  rw [completeRequired, declaresNone_iff.mpr h, Bool.true_and, completeProperties_eq_map]
  cases properties with
  | nil => rfl
  | cons property rest => rfl

end Completing

/-- **Completion completes the head of a schema.** -/
theorem head_completeRequired (s : Schema) : s.completeRequired.head = s.head.completed := by
  cases s with
  | reference => rfl
  | primitive => rfl
  | object properties required additional annotations =>
      by_cases h : required.getD [] = []
      · rw [completeRequired_of_declaresNone h, head, head, Head.completed]
        simp [h, Function.comp_def]
      · rw [completeRequired_of_declares h, head, Head.completed, if_neg fun hnone => h hnone.1]
  | array items => cases items <;> rfl
  | allOf members => simp [completeRequired, head, Head.completed]
  | union keyword members => simp [completeRequired, head, Head.completed]

/-- **At an exposed position stands the completed schema.** -/
theorem at?_completeRequired_of_exposed (h : t.Exposed path s) :
    t.completeRequired.at? path = some s.completeRequired := by
  induction h with
  | root => rfl
  | items _ ih => exact at?_append_singleton ih _
  | @allOf path members annotations index member _ hmember ih =>
      rw [at?_append_singleton ih, completeRequired, part?, completeMembers_eq_map, List.getElem?_map,
        hmember, Option.map_some]
  | @union path keyword members annotations index member _ hmember ih =>
      rw [at?_append_singleton ih, completeRequired, part?, completeMembers_eq_map, List.getElem?_map,
        hmember, Option.map_some]
  | property _ hnone hproperty ih =>
      rw [at?_append_singleton ih, completeRequired_of_declaresNone hnone, part?, List.getElem?_map,
        hproperty, Option.map_some, Option.map_some]

/-- Completion changes the part in a slot of an exposed schema only if it gets there. -/
theorem part?_completeRequired (h : t.Exposed path s) (hslot : ∀ c, ¬ t.Exposed (path ++ [slot]) c) :
    s.completeRequired.part? slot = s.part? slot := by
  cases s with
  | reference => rfl
  | primitive => rfl
  | object properties required additional annotations =>
      by_cases hnone : required.getD [] = []
      · rw [completeRequired_of_declaresNone hnone]
        cases slot with
        | property index =>
            have hout : properties[index]? = none :=
              Option.eq_none_iff_forall_ne_some.mpr fun property hproperty =>
                hslot property.2 (h.property hnone hproperty)
            rw [part?, part?, List.getElem?_map, hout, Option.map_none, Option.map_none]
        | undeclared => cases additional <;> rfl
        | items => rfl
        | member => rfl
      · rw [completeRequired_of_declares hnone]
  | array items annotations =>
      cases items with
      | none => rfl
      | some items =>
          cases slot with
          | items => exact absurd h.items (hslot items)
          | property => rfl
          | undeclared => rfl
          | member => rfl
  | allOf members annotations =>
      rw [completeRequired, completeMembers_eq_map]
      cases slot with
      | member index =>
          have hout : members[index]? = none :=
            Option.eq_none_iff_forall_ne_some.mpr fun c hmember => hslot c (h.allOf hmember)
          rw [part?, part?, List.getElem?_map, hout, Option.map_none]
      | property => rfl
      | undeclared => rfl
      | items => rfl
  | union keyword members annotations =>
      rw [completeRequired, completeMembers_eq_map]
      cases slot with
      | member index =>
          have hout : members[index]? = none :=
            Option.eq_none_iff_forall_ne_some.mpr fun c hmember => hslot c (h.union hmember)
          rw [part?, part?, List.getElem?_map, hout, Option.map_none]
      | property => rfl
      | undeclared => rfl
      | items => rfl

/-- **At a position that is not exposed nothing changes.** -/
theorem at?_completeRequired_of_not_exposed (h : ∀ s, ¬ t.Exposed path s) :
    t.completeRequired.at? path = t.at? path := by
  induction path using List.reverseRecOn with
  | nil => exact absurd .root (h t)
  | append_singleton path slot ih =>
      by_cases hpath : ∃ s, t.Exposed path s
      -- the path leaves the exposed positions with its last slot
      · obtain ⟨s, hs⟩ := hpath
        rw [at?_append_singleton (at?_completeRequired_of_exposed hs), at?_append_singleton hs.at?_eq]
        exact part?_completeRequired hs h
      · rw [at?_append, at?_append, ih fun s hs => hpath ⟨s, hs⟩]

/-- The completed schema is a completed form. -/
theorem completedTo_completeRequired (t : Schema) : t.CompletedTo t.completeRequired where
  exposed path s h := ⟨s.completeRequired, at?_completeRequired_of_exposed h, head_completeRequired s⟩
  shielded path h := at?_completeRequired_of_not_exposed h
  declared path properties required additional annotations hat hdeclared := by
    by_cases hpath : ∃ s, t.Exposed path s
    · obtain ⟨s, hs⟩ := hpath
      have hobject : s = .object properties required additional annotations :=
        Option.some.inj (hs.at?_eq.symm.trans hat)
      rw [at?_completeRequired_of_exposed hs, hobject, completeRequired_of_declares hdeclared]
    · rw [at?_completeRequired_of_not_exposed fun s hs => hpath ⟨s, hs⟩, hat]
  undeclared path s hat := by
    rw [at?_completeRequired_of_not_exposed fun _ => not_exposed_undeclared, hat]

/-- A schema has only one completed form. -/
theorem CompletedTo.unique {u : Schema} (h : t.CompletedTo r) (h' : t.CompletedTo u) : r = u := by
  refine eq_of_heads fun path => ?_
  by_cases hpath : ∃ s, t.Exposed path s
  · obtain ⟨s, hs⟩ := hpath
    obtain ⟨a, ha, hhead⟩ := h.exposed path s hs
    obtain ⟨b, hb, hhead'⟩ := h'.exposed path s hs
    rw [ha, hb, Option.map_some, Option.map_some, hhead, hhead']
  · have hnot : ∀ s, ¬ t.Exposed path s := fun s hs => hpath ⟨s, hs⟩
    rw [h.shielded path hnot, h'.shielded path hnot]

/-- **Completing twice is completing once.** An object that was completed requires properties, and is left
alone from then on. -/
theorem completeRequired_idem (s : Schema) : s.completeRequired.completeRequired = s.completeRequired := by
  induction s using childInduction with
  | step s ih =>
      cases s with
      | reference => rfl
      | primitive => rfl
      | object properties required additional annotations =>
          by_cases hnone : required.getD [] = []
          · rw [completeRequired_of_declaresNone hnone]
            by_cases hnames : properties.map Prod.fst = []
            · rw [List.map_eq_nil_iff.mp hnames]
              simp [completeRequired]
            · rw [if_pos hnames]
              exact completeRequired_of_declares hnames
          · rw [completeRequired_of_declares hnone, completeRequired_of_declares hnone]
      | array items annotations =>
          cases items with
          | none => rfl
          | some items => rw [completeRequired, completeRequired, ih items .items]
      | allOf members annotations =>
          have hmembers : ∀ c ∈ members, c.completeRequired.completeRequired = c.completeRequired :=
            fun c hc => ih c (.allOf hc)
          simpa [completeRequired] using hmembers
      | union keyword members annotations =>
          have hmembers : ∀ c ∈ members, c.completeRequired.completeRequired = c.completeRequired :=
            fun c hc => ih c (.union hc)
          simpa [completeRequired] using hmembers

/-! ## References -/

/-- Properties have the references that they had if each of their schemas has. -/
theorem referencesOfProperties_map {f : Schema → Schema} {properties : List (String × Schema)}
    (h : ∀ name c, (name, c) ∈ properties → (f c).references = c.references) :
    referencesOfProperties (properties.map fun property => (property.1, f property.2))
      = referencesOfProperties properties := by
  induction properties with
  | nil => rfl
  | cons property rest ih =>
      obtain ⟨name, c⟩ := property
      have hrest := ih fun name' c' hc => h name' c' (List.mem_cons_of_mem _ hc)
      rw [List.map_cons, referencesOfProperties, referencesOfProperties, h name c List.mem_cons_self, hrest]

/-- Members have the references that they had if each of them has. -/
theorem referencesOfMembers_map {f : Schema → Schema} {members : List Schema}
    (h : ∀ c ∈ members, (f c).references = c.references) :
    referencesOfMembers (members.map f) = referencesOfMembers members := by
  induction members with
  | nil => rfl
  | cons c rest ih =>
      have hrest := ih fun c' hc => h c' (List.mem_cons_of_mem _ hc)
      rw [List.map_cons, referencesOfMembers, referencesOfMembers, h c List.mem_cons_self, hrest]

/-- **Completion keeps the references of a schema.** -/
theorem references_completeRequired (s : Schema) : s.completeRequired.references = s.references := by
  induction s using childInduction with
  | step s ih =>
      cases s with
      | reference => rfl
      | primitive => rfl
      | object properties required additional annotations =>
          by_cases hnone : required.getD [] = []
          · rw [completeRequired_of_declaresNone hnone, references, references,
              referencesOfProperties_map fun name c hc => ih c (.property hc)]
          · rw [completeRequired_of_declares hnone]
      | array items annotations =>
          cases items with
          | none => rfl
          | some items => rw [completeRequired, references, references, ih items .items]
      | allOf members annotations =>
          rw [completeRequired, completeMembers_eq_map, references, references,
            referencesOfMembers_map fun c hc => ih c (.allOf hc)]
      | union keyword members annotations =>
          rw [completeRequired, completeMembers_eq_map, references, references,
            referencesOfMembers_map fun c hc => ih c (.union hc)]

/-- **Completion is exact**: it gives the one completed form of a schema. It changes nothing where it has been
before, and keeps the references, so that a schema without references stays one. -/
theorem completeRequired_exact (t : Schema) :
    (∀ r, t.CompletedTo r ↔ r = t.completeRequired) ∧
      t.completeRequired.completeRequired = t.completeRequired ∧
      t.completeRequired.references = t.references := by
  refine ⟨fun r => ⟨fun h => h.unique (completedTo_completeRequired t), ?_⟩, completeRequired_idem t,
    references_completeRequired t⟩
  rintro rfl
  exact completedTo_completeRequired t

end Schema

end ServiceBindings
