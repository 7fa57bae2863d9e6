import ServiceBindings.Proofs.Schema.Written

/-! # What reading a schema keeps

A mapping can hold subschemas under several shape keywords at once, and `Schema.ofValue` chooses one
shape for it. **Which subschemas it keeps** follows mostly from what goes before what:

* of several compositions the first one counts, `allOf` before `oneOf` before `anyOf`;
* items make an array, which has no properties; so does the type of an array, unless a composition
  stands beside it, where the type is an annotation;
* the shape keywords beside a composition form one more member, and required names count only there.

That member is there so that nothing beside a composition is lost. If it has items, it loses the properties
beside them all the same. **This is a slip and not a rule**: it is left open here, by counting these properties
among what may be lost (`Keyword.Displaced`).

Every subschema that is not displaced stands in the result, directly or directly in one of its members
(`Schema.keeps_of_subschema`). -/

namespace ServiceBindings

/-! ## Entries with different keys -/

namespace Entries

variable {κ ν : Type} [BEq κ] [LawfulBEq κ]

/-- A new key goes to the end. -/
theorem insert_of_notMem {key : κ} {value : ν} {entries : List (κ × ν)}
    (h : key ∉ entries.map Prod.fst) : insert key value entries = entries ++ [(key, value)] := by
  induction entries with
  | nil => rfl
  | cons head rest ih =>
      obtain ⟨k, v⟩ := head
      rw [List.map_cons, List.mem_cons, not_or] at h
      have hk : ¬ (k == key) = true := fun heq => h.1 (eq_of_beq heq).symm
      rw [insert_cons, if_neg hk, ih h.2, List.cons_append]

/-- Pairs with different keys are the entries that they make. -/
theorem ofList_of_nodup {pairs : List (κ × ν)} (h : (pairs.map Prod.fst).Nodup) :
    ofList pairs = pairs := by
  -- the pairs come from the left, so the statement is about entries that are there already
  suffices hall : ∀ (pairs done : List (κ × ν)), ((done ++ pairs).map Prod.fst).Nodup →
      insertAllBy (· == ·) done pairs = done ++ pairs from hall pairs [] h
  intro pairs
  induction pairs with
  | nil =>
      intro done _
      exact (List.append_nil done).symm
  | cons pair rest ih =>
      intro done hnodup
      obtain ⟨key, value⟩ := pair
      have hnew : key ∉ done.map Prod.fst := by
        rw [List.map_append, List.map_cons] at hnodup
        intro hmem
        exact (List.nodup_append.mp hnodup).2.2 key hmem key List.mem_cons_self rfl
      have hstep : insertAllBy (· == ·) done ((key, value) :: rest)
          = insertAllBy (· == ·) (insert key value done) rest := rfl
      rw [hstep, insert_of_notMem hnew, ih _ (by simpa using hnodup), List.append_assoc,
        List.singleton_append]

end Entries

/-! ## The keywords of a mapping -/

namespace Keyword

/-- A keyword is determined by its key. -/
theorem key_injective : Function.Injective key := by
  intro word other h
  have hfound : ofKey? (.text word.key) = ofKey? (.text other.key) := by rw [h]
  rw [ofKey?_key, ofKey?_key] at hfound
  exact Option.some.inj hfound

/-- What the entries of a mapping hold under a keyword. -/
def held (word : Keyword) (entries : List (Scalar × Value)) : Option Value :=
  Value.lookupText word.key entries

variable {word other : Keyword} {key : Scalar} {v : Value} {rest : List (Scalar × Value)}

/-- An entry under another key is passed. -/
theorem held_cons_of_ne (h : key ≠ .text word.key) :
    word.held ((key, v) :: rest) = word.held rest := by
  have hkey : (Scalar.text word.key == key) = false := by simpa using h.symm
  rw [held, Value.lookupText, List.lookup_cons, hkey, held, Value.lookupText]

/-- An entry under a key that is no keyword is passed. -/
theorem held_cons_of_ofKey?_eq_none (h : ofKey? key = none) :
    word.held ((key, v) :: rest) = word.held rest := by
  refine held_cons_of_ne ?_
  rintro rfl
  rw [ofKey?_key] at h
  cases h

/-- An entry under a keyword is the one that is looked for, or is passed. -/
theorem held_cons_key : word.held ((.text other.key, v) :: rest)
    = if other = word then some v else word.held rest := by
  by_cases h : other = word
  · subst h
    rw [if_pos rfl, held, Value.lookupText, List.lookup_cons, BEq.rfl]
  · rw [if_neg h]
    refine held_cons_of_ne fun heq => h (key_injective ?_)
    exact Scalar.text.inj heq

end Keyword

namespace Schema

/-- **The shape keywords of a mapping** are what it holds under each of them, read. -/
theorem keywords_eq (entries : List (Scalar × Value)) : keywords entries =
    { reference := (Keyword.reference.held entries).bind Value.text?
      allOf := (Keyword.allOf.held entries).bind membersOf?
      oneOf := (Keyword.oneOf.held entries).bind membersOf?
      anyOf := (Keyword.anyOf.held entries).bind membersOf?
      items := (Keyword.items.held entries).map fun v => if v.isMap then some (ofValue v) else none
      properties := (Keyword.properties.held entries).map propertiesOf?
      required := (Keyword.required.held entries).bind requiredOf
      additional := (Keyword.additional.held entries).map fun v => additionalOf v (ofValue v) } := by
  induction entries with
  | nil => rfl
  | cons entry rest ih =>
      obtain ⟨key, v⟩ := entry
      rw [keywords, ih]
      cases hkey : Keyword.ofKey? key with
      | none => simp only [Keyword.held_cons_of_ofKey?_eq_none hkey]
      | some word =>
          rw [Keyword.eq_key_of_ofKey? hkey]
          cases word <;> simp [Keyword.held_cons_key]

end Schema

/-! ## Where the parts go -/

namespace Schema

/-- The members of a composition. -/
def members : Schema → List Schema
  | .allOf members _ => members
  | .union _ members _ => members
  | _ => []

/-- A schema keeps another one directly, or directly in one of its members. -/
def Keeps (s c : Schema) : Prop := Child c s ∨ ∃ m ∈ s.members, Child c m

end Schema

namespace Keywords

open Schema (Child)

variable {k : Keywords} {c : Schema} {annotations : Annotations}

/-- There are members or alternatives. -/
def IsComposed (k : Keywords) : Prop := k.allOf.isSome ∨ k.oneOf.isSome ∨ k.anyOf.isSome

/-- There is a keyword of the plain shapes other than the required names. -/
def HasShape (k : Keywords) : Prop :=
  k.properties.isSome ∨ k.additional.isSome ∨ k.items.isSome

/-- The members under `allOf` are kept. -/
theorem keeps_of_allOf (href : k.reference = none) {members : List Schema}
    (hall : k.allOf = some members) (hc : c ∈ members) : (k.schema annotations).Keeps c := by
  rw [Keywords.schema, href, hall]
  exact Or.inl (Schema.child_allOf_iff.mpr (List.mem_append_left _ hc))

/-- Without `allOf`, the alternatives of the mapping are kept. -/
theorem keeps_of_alternatives? (href : k.reference = none) (hall : k.allOf = none)
    {keyword : Alternation} {members : List Schema}
    (halt : k.alternatives? = some (keyword, members)) (hc : c ∈ members) :
    (k.schema annotations).Keeps c := by
  rw [Keywords.schema, href, hall, halt]
  dsimp only
  split
  · exact Or.inl (Schema.child_union_iff.mpr hc)
  · -- the alternatives are the first member
    exact Or.inr ⟨_, List.mem_cons_self, Schema.child_union_iff.mpr hc⟩

/-- Keywords of the plain shapes form one member beside a composition. -/
theorem siblings_of_hasShape (h : k.HasShape) : k.siblings = [k.plain []] := if_pos h

/-- The plain shape beside a composition is one of the members. -/
theorem plain_mem_members (href : k.reference = none) (hcomp : k.IsComposed) (hshape : k.HasShape) :
    k.plain [] ∈ (k.schema annotations).members := by
  have hsib := siblings_of_hasShape hshape
  rw [Keywords.schema, href, hsib]
  rcases hall : k.allOf with _ | members
  · have halt : ∃ keyword members, k.alternatives? = some (keyword, members) := by
      rcases hone : k.oneOf with _ | members
      · rcases hany : k.anyOf with _ | members
        · simp [IsComposed, hall, hone, hany] at hcomp
        · exact ⟨.anyOf, members, by rw [alternatives?, hone, hany]; rfl⟩
      · exact ⟨.oneOf, members, by rw [alternatives?, hone]⟩
    obtain ⟨keyword, members, halt⟩ := halt
    rw [halt]
    exact List.mem_cons_of_mem _ List.mem_cons_self
  · exact List.mem_append_right _ List.mem_cons_self

/-- Without a composition a mapping has a plain shape. -/
theorem schema_of_not_isComposed (href : k.reference = none) (hcomp : ¬ k.IsComposed) :
    k.schema annotations = k.plain annotations := by
  simp only [IsComposed, not_or, Option.not_isSome_iff_eq_none] at hcomp
  obtain ⟨hall, hone, hany⟩ := hcomp
  simp [Keywords.schema, alternatives?, href, hall, hone, hany]

/-- What the plain shape holds is kept, be it the whole schema or a member beside a composition. -/
theorem keeps_of_child_plain (href : k.reference = none) (hshape : k.HasShape)
    (hmember : k.IsComposed → Child c (k.plain []))
    (hwhole : ¬ k.IsComposed → Child c (k.plain annotations)) :
    (k.schema annotations).Keeps c := by
  by_cases hcomp : k.IsComposed
  · exact Or.inr ⟨_, plain_mem_members href hcomp hshape, hmember hcomp⟩
  · rw [schema_of_not_isComposed href hcomp]
    exact Or.inl (hwhole hcomp)

/-- Items make an array. -/
theorem plain_of_items {items : Option Schema} (hitems : k.items = some items) :
    k.plain annotations = .array items annotations := by
  rw [Keywords.plain, if_pos (Or.inr (by rw [hitems]; rfl)), hitems, Option.join_some]

/-- Without items and the type of an array, properties make an object. -/
theorem plain_of_properties (hitems : k.items = none)
    (htype : Value.lookupText "type" annotations ≠ some (.text "array"))
    (hobject : k.properties.join.isSome ∨ k.additional.isSome) :
    k.plain annotations = .object (k.properties.join.getD []) k.required
      (k.additional.getD .unspecified) annotations := by
  have hno : ¬ (Value.lookupText "type" annotations = some (.text "array") ∨ k.items.isSome) := by
    rw [hitems]
    rintro (h | h)
    · exact htype h
    · cases h
  rw [Keywords.plain, if_neg hno, if_pos (Or.inr hobject)]

end Keywords

/-! ## The subschemas of a mapping -/

namespace Keyword

variable {word : Keyword} {entries : List (Scalar × Value)} {v : Value}

/-- The compositions, in the order of precedence. -/
def compositions : List Keyword := [allOf, oneOf, anyOf]

/-- A mapping has a list under a keyword. -/
def HoldsList (word : Keyword) (entries : List (Scalar × Value)) : Prop :=
  ∃ values, word.held entries = some (.list values)

/-- A mapping has a list under one of the compositions. -/
def IsComposed (entries : List (Scalar × Value)) : Prop :=
  ∃ word ∈ compositions, word.HoldsList entries

/-- The plain shape that a mapping describes is an array: it has items, or the type of an array
without a composition. -/
def IsArray (entries : List (Scalar × Value)) : Prop :=
  (items.held entries).isSome ∨
    (¬ IsComposed entries ∧ Value.lookupText "type" entries = some (.text "array"))

/-- A value is one of the subschemas that a mapping has under a keyword. -/
inductive Subschema (entries : List (Scalar × Value)) : Keyword → Value → Prop where
  /-- A value in the list of a composition. -/
  | composed {word : Keyword} {values : List Value} {v : Value} :
      word ∈ compositions → word.held entries = some (.list values) → v ∈ values →
      Subschema entries word v
  /-- The value of a property. -/
  | property {declared : List (Scalar × Value)} {name : Scalar} {v : Value} :
      properties.held entries = some (.map declared) → (name, v) ∈ declared →
      Subschema entries properties v
  /-- A mapping for the items. -/
  | items {inner : List (Scalar × Value)} :
      items.held entries = some (.map inner) → Subschema entries items (.map inner)
  /-- A mapping for undeclared properties. -/
  | additional {inner : List (Scalar × Value)} :
      additional.held entries = some (.map inner) → Subschema entries additional (.map inner)

/-- Another keyword of the mapping goes before this one; or this one is lost beside items in a composition, by the
slip that is left open. -/
inductive Displaced (entries : List (Scalar × Value)) : Keyword → Prop where
  /-- Members go before alternatives. -/
  | oneOf : allOf.HoldsList entries → Displaced entries oneOf
  /-- Members and exclusive alternatives go before other alternatives. -/
  | anyOf : allOf.HoldsList entries ∨ oneOf.HoldsList entries → Displaced entries anyOf
  /-- An array has no properties. Without a composition it is meant to have none. -/
  | properties : IsArray entries → Displaced entries properties
  /-- An array has no undeclared properties. Without a composition it is meant to have none. -/
  | additional : IsArray entries → Displaced entries additional

end Keyword

namespace Schema

variable {word : Keyword} {entries : List (Scalar × Value)}

/-- A list under a keyword is read as schemas. -/
theorem held_bind_membersOf? {values : List Value} (h : word.held entries = some (.list values)) :
    (word.held entries).bind membersOf? = some (values.map ofValue) := by
  rw [h, Option.bind_some, membersOf?, ofValues_eq_map]

/-- Schemas are read under a keyword exactly if there is a list. -/
theorem isSome_held_bind_membersOf?_iff :
    ((word.held entries).bind membersOf?).isSome ↔ word.HoldsList entries := by
  constructor
  · intro h
    rcases hheld : word.held entries with _ | v
    · simp [hheld] at h
    · cases v with
      | list values => exact ⟨values, hheld⟩
      | _ => simp [hheld, membersOf?] at h
  · rintro ⟨values, h⟩
    rw [held_bind_membersOf? h]
    rfl

/-- Without a list under a keyword no schemas are read there. -/
theorem held_bind_membersOf?_eq_none (h : ¬ word.HoldsList entries) :
    (word.held entries).bind membersOf? = none := by
  rw [← isSome_held_bind_membersOf?_iff, Option.not_isSome_iff_eq_none] at h
  exact h

/-- The keywords are composed as the mapping is. -/
theorem isComposed_keywords_iff : (keywords entries).IsComposed ↔ Keyword.IsComposed entries := by
  rw [keywords_eq, Keywords.IsComposed, isSome_held_bind_membersOf?_iff,
    isSome_held_bind_membersOf?_iff, isSome_held_bind_membersOf?_iff, Keyword.IsComposed,
    Keyword.compositions]
  simp

/-- A key that is kept has the same value among the entries that are kept. -/
theorem lookupText_filter {keep : Scalar → Bool} {key : String} (hkeep : keep (.text key) = true)
    (entries : List (Scalar × Value)) :
    Value.lookupText key (entries.filter fun entry => keep entry.1) = Value.lookupText key entries := by
  induction entries with
  | nil => rfl
  | cons entry rest ih =>
      obtain ⟨other, v⟩ := entry
      unfold Value.lookupText at ih ⊢
      by_cases hother : keep other = true
      · rw [List.filter_cons, if_pos hother, List.lookup_cons, List.lookup_cons, ih]
      · have hne : (Scalar.text key == other) = false := by
          rw [beq_eq_false_iff_ne]
          rintro rfl
          exact hother hkeep
        rw [List.filter_cons, if_neg hother, List.lookup_cons, hne, ih]

/-- What stands under a key that is no shape keyword is an annotation. -/
theorem lookupText_annotationsOf {key : String} (hkey : Keyword.ofKey? (.text key) = none) :
    Value.lookupText key (annotationsOf entries) = Value.lookupText key entries := by
  have hkeep : (Keyword.ofKey? (.text key)).isNone = true := Option.isNone_iff_eq_none.mpr hkey
  exact @lookupText_filter (fun k => (Keyword.ofKey? k).isNone) key hkeep entries

/-- The type of a mapping is an annotation. -/
theorem lookupText_type_annotationsOf :
    Value.lookupText "type" (annotationsOf entries) = Value.lookupText "type" entries :=
  lookupText_annotationsOf (by decide)

/-- A mapping that is no reference is none for its keywords. -/
theorem reference_keywords (href : (Value.map entries).reference? = none) :
    (keywords entries).reference = none := by
  rw [keywords_eq]
  exact href

/-! ## What is kept -/

/-- The schemas of the lists of compositions are kept unless another composition goes before. -/
theorem keeps_of_composed (href : (Value.map entries).reference? = none)
    (hword : word ∈ Keyword.compositions) {values : List Value} {v : Value}
    (hheld : word.held entries = some (.list values)) (hv : v ∈ values)
    (hplace : ¬ Keyword.Displaced entries word) : (ofValue (.map entries)).Keeps (ofValue v) := by
  have hk := reference_keywords href
  have hread := held_bind_membersOf? hheld
  have hmem : ofValue v ∈ values.map ofValue := List.mem_map_of_mem hv
  rw [ofValue_map]
  rw [Keyword.compositions, List.mem_cons, List.mem_cons, List.mem_singleton] at hword
  rcases hword with rfl | rfl | rfl
  · refine Keywords.keeps_of_allOf hk ?_ hmem
    rw [keywords_eq]
    exact hread
  · have hall : ¬ Keyword.allOf.HoldsList entries := fun h => hplace (.oneOf h)
    have halt : (keywords entries).alternatives? = some (.oneOf, values.map ofValue) := by
      rw [keywords_eq, Keywords.alternatives?]
      dsimp only
      rw [hread]
    refine Keywords.keeps_of_alternatives? hk ?_ halt hmem
    rw [keywords_eq]
    exact held_bind_membersOf?_eq_none hall
  · have hall : ¬ Keyword.allOf.HoldsList entries := fun h => hplace (.anyOf (Or.inl h))
    have hone : ¬ Keyword.oneOf.HoldsList entries := fun h => hplace (.anyOf (Or.inr h))
    have halt : (keywords entries).alternatives? = some (.anyOf, values.map ofValue) := by
      rw [keywords_eq, Keywords.alternatives?]
      dsimp only
      rw [held_bind_membersOf?_eq_none hone, hread]
      rfl
    refine Keywords.keeps_of_alternatives? hk ?_ halt hmem
    rw [keywords_eq]
    exact held_bind_membersOf?_eq_none hall

/-- The schema of the items is kept. -/
theorem keeps_of_items (href : (Value.map entries).reference? = none)
    {inner : List (Scalar × Value)} (hheld : Keyword.items.held entries = some (.map inner)) :
    (ofValue (.map entries)).Keeps (ofValue (.map inner)) := by
  have hitems : (keywords entries).items = some (some (ofValue (.map inner))) := by
    rw [keywords_eq]
    dsimp only
    rw [hheld]
    rfl
  have hchild : ∀ annotations, Child (ofValue (.map inner)) ((keywords entries).plain annotations) := by
    intro annotations
    rw [Keywords.plain_of_items hitems]
    exact .items
  rw [ofValue_map]
  refine Keywords.keeps_of_child_plain (reference_keywords href) ?_ (fun _ => hchild _)
    (fun _ => hchild _)
  exact Or.inr (Or.inr (by rw [hitems]; rfl))

/-- What stands in the object that the plain shape of a mapping is stays there, with whatever
annotations the shape gets. -/
theorem keeps_of_child_object {c : Schema} (href : (Value.map entries).reference? = none)
    (harray : ¬ Keyword.IsArray entries)
    (hobject : (keywords entries).properties.join.isSome ∨ (keywords entries).additional.isSome)
    (hchild : ∀ annotations, Child c (.object ((keywords entries).properties.join.getD [])
      (keywords entries).required ((keywords entries).additional.getD .unspecified) annotations)) :
    (ofValue (.map entries)).Keeps c := by
  rw [Keyword.IsArray, not_or] at harray
  have hitems : (keywords entries).items = none := by
    rw [keywords_eq]
    dsimp only
    rw [Option.not_isSome_iff_eq_none.mp harray.1]
    rfl
  have hshape : (keywords entries).HasShape := by
    rcases hobject with h | h
    · refine Or.inl ?_
      rcases hprops : (keywords entries).properties with _ | properties
      · simp [hprops] at h
      · rfl
    · exact Or.inr (Or.inl h)
  rw [ofValue_map]
  refine Keywords.keeps_of_child_plain (reference_keywords href) hshape (fun _ => ?_) (fun hcomp => ?_)
  · rw [Keywords.plain_of_properties hitems (by simp [Value.lookupText]) hobject]
    exact hchild []
  · -- the type counts only where there is no composition
    have htype : Value.lookupText "type" (annotationsOf entries) ≠ some (.text "array") := by
      rw [lookupText_type_annotationsOf]
      exact fun h => harray.2 ⟨fun hc => hcomp (isComposed_keywords_iff.mpr hc), h⟩
    rw [Keywords.plain_of_properties hitems htype hobject]
    exact hchild _

/-- Properties with different names are read one by one. -/
theorem properties_keywords {declared : List (Scalar × Value)}
    (hheld : Keyword.properties.held entries = some (.map declared))
    (hnames : (declared.map fun entry => entry.1.display).Nodup) :
    (keywords entries).properties
      = some (some (declared.map fun entry => (entry.1.display, ofValue entry.2))) := by
  have hkeys : ((declared.map fun entry => (entry.1.display, ofValue entry.2)).map Prod.fst).Nodup := by
    rw [List.map_map]
    exact hnames
  rw [keywords_eq]
  dsimp only
  rw [hheld, Option.map_some, propertiesOf?, namedSchemas_eq_map, Entries.ofList_of_nodup hkeys]

/-- The schemas of properties with different names are kept unless the mapping is an array. -/
theorem keeps_of_property (href : (Value.map entries).reference? = none)
    {declared : List (Scalar × Value)} {name : Scalar} {v : Value}
    (hheld : Keyword.properties.held entries = some (.map declared))
    (hnames : (declared.map fun entry => entry.1.display).Nodup) (hv : (name, v) ∈ declared)
    (hplace : ¬ Keyword.Displaced entries .properties) :
    (ofValue (.map entries)).Keeps (ofValue v) := by
  have hprops := properties_keywords hheld hnames
  refine keeps_of_child_object href (fun h => hplace (.properties h)) ?_ (fun annotations => ?_)
  · exact Or.inl (by rw [hprops]; rfl)
  · rw [hprops, Option.join_some, Option.getD_some]
    exact .property (List.mem_map_of_mem hv)

/-- The schema of undeclared properties is kept unless the mapping is an array. -/
theorem keeps_of_additional (href : (Value.map entries).reference? = none)
    {inner : List (Scalar × Value)} (hheld : Keyword.additional.held entries = some (.map inner))
    (hplace : ¬ Keyword.Displaced entries .additional) :
    (ofValue (.map entries)).Keeps (ofValue (.map inner)) := by
  have hadd : (keywords entries).additional = some (.typed (ofValue (.map inner))) := by
    rw [keywords_eq]
    dsimp only
    rw [hheld]
    rfl
  refine keeps_of_child_object href (fun h => hplace (.additional h)) ?_ (fun annotations => ?_)
  · exact Or.inr (by rw [hadd]; rfl)
  · rw [hadd, Option.getD_some]
    exact .additional

/-- Beside a composition, required names count together with properties. -/
theorem object_mem_members (href : (Value.map entries).reference? = none)
    (hcomp : Keyword.IsComposed entries) {names : List Value}
    (hrequired : Keyword.required.held entries = some (.list names))
    (hitems : Keyword.items.held entries = none)
    (hobject : (∃ declared, Keyword.properties.held entries = some (.map declared)) ∨
      (Keyword.additional.held entries).isSome) :
    ∃ properties additional, .object properties (some (names.filterMap Value.text?)) additional []
      ∈ (ofValue (.map entries)).members := by
  have hk : (keywords entries).items = none := by
    rw [keywords_eq]
    dsimp only
    rw [hitems]
    rfl
  have hreq : (keywords entries).required = some (names.filterMap Value.text?) := by
    rw [keywords_eq]
    dsimp only
    rw [hrequired]
    rfl
  have hread : (keywords entries).properties.join.isSome ∨ (keywords entries).additional.isSome := by
    rw [keywords_eq]
    rcases hobject with ⟨declared, h⟩ | h
    · exact Or.inl (by dsimp only; rw [h]; rfl)
    · exact Or.inr (by simpa using h)
  have hshape : (keywords entries).HasShape := by
    rcases hread with h | h
    · exact Or.inl (Option.isSome_of_mem (Option.join_eq_some_iff.mp (Option.some_get h).symm))
    · exact Or.inr (Or.inl h)
  have hmem : (keywords entries).plain [] ∈ (ofValue (.map entries)).members :=
    Keywords.plain_mem_members (reference_keywords href) (isComposed_keywords_iff.mpr hcomp) hshape
  rw [Keywords.plain_of_properties hk (by simp [Value.lookupText]) hread, hreq] at hmem
  exact ⟨_, _, hmem⟩

/-- **Reading keeps what is not displaced.** Of a mapping that is no reference and whose properties
have different names, every subschema that no other keyword displaces is kept. The required names
beside a composition without items are those of an object among the members, if properties are
declared or spoken of beside it. -/
theorem keeps_of_subschema (href : (Value.map entries).reference? = none)
    (hnames : ∀ declared, Keyword.properties.held entries = some (.map declared) →
      (declared.map fun entry => entry.1.display).Nodup) :
    (∀ word v, Keyword.Subschema entries word v → ¬ Keyword.Displaced entries word →
      (ofValue (.map entries)).Keeps (ofValue v)) ∧
    (∀ names, Keyword.IsComposed entries → Keyword.required.held entries = some (.list names) →
      Keyword.items.held entries = none →
      ((∃ declared, Keyword.properties.held entries = some (.map declared)) ∨
        (Keyword.additional.held entries).isSome) →
      ∃ properties additional, .object properties (some (names.filterMap Value.text?)) additional []
        ∈ (ofValue (.map entries)).members) := by
  refine ⟨?_, fun names hcomp hrequired hitems hobject =>
    object_mem_members href hcomp hrequired hitems hobject⟩
  intro word v hsub hplace
  cases hsub with
  | composed hword hheld hv => exact keeps_of_composed href hword hheld hv hplace
  | property hheld hv => exact keeps_of_property href hheld (hnames _ hheld) hv hplace
  | items hheld => exact keeps_of_items href hheld
  | additional hheld => exact keeps_of_additional href hheld hplace

/-- Reading keeps the alternatives, a declared property and the required name of a mapping that has
all three. -/
theorem keeps_of_subschema_oneOf :
    let entries : List (Scalar × Value) :=
      [(.text "oneOf", .list [.map [(.text "type", .text "integer")]]),
       (.text "properties", .map [(.text "a", .map [(.text "type", .text "string")])]),
       (.text "required", .list [.text "a"])]
    (ofValue (.map entries)).Keeps (ofValue (.map [(.text "type", .text "integer")])) ∧
      (ofValue (.map entries)).Keeps (ofValue (.map [(.text "type", .text "string")])) ∧
      ∃ properties additional, .object properties (some ["a"]) additional []
        ∈ (ofValue (.map entries)).members := by
  intro entries
  have hone : Keyword.oneOf.held entries
      = some (.list [.map [(.text "type", .text "integer")]]) := by decide
  have hprops : Keyword.properties.held entries
      = some (.map [(.text "a", .map [(.text "type", .text "string")])]) := by decide
  have hitems : Keyword.items.held entries = none := by decide
  have hall : ¬ Keyword.allOf.HoldsList entries := by
    rintro ⟨values, h⟩
    exact absurd h (by rw [show Keyword.allOf.held entries = none by decide]; nofun)
  have hcomp : Keyword.IsComposed entries := ⟨.oneOf, by decide, _, hone⟩
  have href : (Value.map entries).reference? = none := by decide
  obtain ⟨hkeep, hnames⟩ := keeps_of_subschema href
    (fun declared h => by
      rw [hprops] at h
      cases h
      decide)
  refine ⟨hkeep .oneOf _ (.composed (by decide) hone List.mem_cons_self) ?_,
    hkeep .properties _ (.property hprops List.mem_cons_self) ?_,
    hnames [.text "a"] hcomp (by decide) hitems (Or.inl ⟨_, hprops⟩)⟩
  · rintro ⟨h⟩
    exact hall h
  · rintro (_ | _ | harray)
    rcases harray with h | ⟨h, -⟩
    · rw [hitems] at h
      cases h
    · exact h hcomp

/-- The properties of an array, the alternatives beside members and the required names alone beside a
composition are not kept. -/
theorem not_keeps_displaced :
    ¬ (ofValue (.map
        [(.text "items", .map [(.text "type", .text "string")]),
         (.text "properties", .map [(.text "a", .map [(.text "type", .text "integer")])])])).Keeps
        (ofValue (.map [(.text "type", .text "integer")])) ∧
      ¬ (ofValue (.map
        [(.text "type", .text "array"),
         (.text "properties", .map [(.text "a", .map [(.text "type", .text "integer")])])])).Keeps
        (ofValue (.map [(.text "type", .text "integer")])) ∧
      ¬ (ofValue (.map
        [(.text "allOf", .list [.map [(.text "type", .text "string")]]),
         (.text "oneOf", .list [.map [(.text "type", .text "integer")]])])).Keeps
        (ofValue (.map [(.text "type", .text "integer")])) ∧
      ¬ (ofValue (.map
        [(.text "oneOf", .list [.map [(.text "type", .text "string")]]),
         (.text "anyOf", .list [.map [(.text "type", .text "integer")]])])).Keeps
        (ofValue (.map [(.text "type", .text "integer")])) ∧
      ¬ ∃ properties additional, .object properties (some ["a"]) additional [] ∈
        (ofValue (.map
          [(.text "allOf", .list [.map [(.text "type", .text "string")]]),
           (.text "required", .list [.text "a"])])).members := by
  have hleaf : ofValue (.map [(.text "type", .text "integer")]) = .primitive ["integer"] [] := by
    rfl
  rw [hleaf]
  refine ⟨?_, ?_, ?_, ?_, ?_⟩
  · rw [show ofValue _ = .array (some (.primitive ["string"] [])) [] by rfl]
    simp [Keeps, members]
  · rw [show ofValue _ = .array none [(.text "type", .text "array")] by rfl]
    simp [Keeps, members]
  · rw [show ofValue _ = .allOf [.primitive ["string"] []] [] by rfl]
    simp [Keeps, members, not_child_primitive]
  · rw [show ofValue _ = .union .oneOf [.primitive ["string"] []] [] by rfl]
    simp [Keeps, members, not_child_primitive]
  · rw [show ofValue _ = .allOf [.primitive ["string"] []] [] by rfl]
    simp [members]

end Schema

end ServiceBindings
