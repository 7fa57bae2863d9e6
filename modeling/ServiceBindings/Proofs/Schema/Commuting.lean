import ServiceBindings.Proofs.Document.Inlining
import ServiceBindings.Proofs.Schema.Retention

/-! # Reading commutes with dereferencing

References can be replaced before a value is read (`Value.inline`) or in the schema that is read
(`Schema.expand`). **Both ways lead to the same schema** (`Schema.expand_ofValue_inline`).

Reading decides on a shape by the keywords of a mapping. Inlining leaves all that it looks at: which keywords
there are, which of them hold lists or mappings, the names of the properties, and everything that is no
schema. So the keywords of a mapping and of its inlined form differ in the schemas inside only
(`Keywords.Alike`), and whichever shape is chosen is the same for both (`Keywords.Alike.schema`). -/

namespace ServiceBindings

/-! ## Values that are there on both sides -/

section Options

variable {α β : Type} {R : α → β → Prop}

/-- Related options are both there or both not. -/
theorem isSome_eq_of_rel {a : Option α} {b : Option β} (h : Option.Rel R a b) : a.isSome = b.isSome := by
  cases h <;> rfl

/-- Related options of options are related when joined. -/
theorem rel_join {a : Option (Option α)} {b : Option (Option β)} (h : Option.Rel (Option.Rel R) a b) :
    Option.Rel R a.join b.join := by
  cases h with
  | none => exact .none
  | some h => exact h

end Options

namespace Entries

variable {κ α β : Type} [BEq κ] {R : α → β → Prop}

/-- Setting related values leaves entries related. -/
theorem forall₂_insert {l : List (κ × α)} {m : List (κ × β)}
    (h : List.Forall₂ (fun p q => p.1 = q.1 ∧ R p.2 q.2) l m) (key : κ) {a : α} {b : β} (hR : R a b) :
    List.Forall₂ (fun p q => p.1 = q.1 ∧ R p.2 q.2) (insert key a l) (insert key b m) := by
  induction h with
  | nil => exact .cons ⟨rfl, hR⟩ .nil
  | @cons p q l m hpq hrest ih =>
      obtain ⟨k, v⟩ := p
      obtain ⟨k', w⟩ := q
      obtain ⟨rfl, hvw⟩ := hpq
      rw [insert_cons, insert_cons]
      split
      · exact .cons ⟨rfl, hR⟩ hrest
      · exact .cons ⟨rfl, hvw⟩ ih

/-- Pairs with the same keys and related values make related entries. -/
theorem forall₂_ofList {l : List (κ × α)} {m : List (κ × β)}
    (h : List.Forall₂ (fun p q => p.1 = q.1 ∧ R p.2 q.2) l m) :
    List.Forall₂ (fun p q => p.1 = q.1 ∧ R p.2 q.2) (ofList l) (ofList m) := by
  -- the pairs come from the left, so the statement is about entries that are there already
  suffices hall : ∀ done done', List.Forall₂ (fun p q => p.1 = q.1 ∧ R p.2 q.2) done done' →
      List.Forall₂ (fun p q => p.1 = q.1 ∧ R p.2 q.2) (insertAllBy (· == ·) done l)
        (insertAllBy (· == ·) done' m) from hall [] [] .nil
  induction h with
  | nil => exact fun _ _ hdone => hdone
  | @cons p q l m hpq _ ih =>
      intro done done' hdone
      obtain ⟨k, v⟩ := p
      obtain ⟨k', w⟩ := q
      obtain ⟨rfl, hvw⟩ := hpq
      exact ih _ _ (forall₂_insert hdone k hvw)

end Entries

/-! ## Keywords that differ in schemas only -/

namespace Keywords

/-- Keywords that differ at most in the schemas inside, which are related. -/
structure Alike (R : Schema → Schema → Prop) (k k' : Keywords) : Prop where
  /-- The same reference. -/
  reference : k.reference = k'.reference
  /-- Related members. -/
  allOf : Option.Rel (List.Forall₂ R) k.allOf k'.allOf
  /-- Related alternatives of which one holds. -/
  oneOf : Option.Rel (List.Forall₂ R) k.oneOf k'.oneOf
  /-- Related alternatives. -/
  anyOf : Option.Rel (List.Forall₂ R) k.anyOf k'.anyOf
  /-- Related items. -/
  items : Option.Rel (Option.Rel R) k.items k'.items
  /-- Properties of the same names with related schemas. -/
  properties : Option.Rel (Option.Rel (List.Forall₂ fun p q => p.1 = q.1 ∧ R p.2 q.2)) k.properties
    k'.properties
  /-- The same required names. -/
  required : k.required = k'.required
  /-- The same said about undeclared properties. -/
  additional : Option.Rel (Additional.Alike R) k.additional k'.additional

namespace Alike

variable {R : Schema → Schema → Prop} {k k' : Keywords}

/-- The plain shape is the same. -/
theorem plain (h : Alike R k k') (annotations : Annotations) :
    Schema.Alike R (k.plain annotations) (k'.plain annotations) := by
  have hitems := rel_join h.items
  have hproperties := rel_join h.properties
  have hadditional := h.additional
  unfold Keywords.plain
  dsimp only
  rw [isSome_eq_of_rel h.items, isSome_eq_of_rel hproperties, isSome_eq_of_rel hadditional, h.required]
  split
  · generalize k.items.join = items at hitems ⊢
    generalize k'.items.join = items' at hitems ⊢
    cases hitems with
    | none => exact .untyped
    | some hR => exact .array hR
  · split
    · refine .object ?_ ?_
      · generalize k.properties.join = properties at hproperties ⊢
        generalize k'.properties.join = properties' at hproperties ⊢
        cases hproperties with
        | none => exact .nil
        | some hR => exact hR
      · generalize k.additional = additional at hadditional ⊢
        generalize k'.additional = additional' at hadditional ⊢
        cases hadditional with
        | none => exact .unspecified
        | some hR => exact hR
    · exact .primitive

/-- The member beside a composition is there on both sides or on neither. -/
theorem siblings (h : Alike R k k') (hclosed : ∀ s t, Schema.Alike R s t → R s t) :
    List.Forall₂ R k.siblings k'.siblings := by
  rw [Keywords.siblings, Keywords.siblings, isSome_eq_of_rel h.properties, isSome_eq_of_rel h.additional,
    isSome_eq_of_rel h.items]
  split
  · exact .cons (hclosed _ _ (h.plain [])) .nil
  · exact .nil

/-- The alternatives have the same keyword. -/
theorem alternatives (h : Alike R k k') :
    Option.Rel (fun a b => a.1 = b.1 ∧ List.Forall₂ R a.2 b.2) k.alternatives? k'.alternatives? := by
  have hone := h.oneOf
  have hany := h.anyOf
  unfold Keywords.alternatives?
  generalize k.oneOf = one at hone ⊢
  generalize k'.oneOf = one' at hone ⊢
  cases hone with
  | some hR => exact .some ⟨rfl, hR⟩
  | none =>
      generalize k.anyOf = any at hany ⊢
      generalize k'.anyOf = any' at hany ⊢
      cases hany with
      | none => exact .none
      | some hR => exact .some ⟨rfl, hR⟩

/-- **Whichever shape is chosen is the same on both sides**, unless it is a reference. -/
theorem schema (h : Alike R k k') (hclosed : ∀ s t, Schema.Alike R s t → R s t)
    (href : k.reference = none) (annotations : Annotations) :
    Schema.Alike R (k.schema annotations) (k'.schema annotations) := by
  have hall := h.allOf
  have halternatives := h.alternatives
  have hsiblings := h.siblings hclosed
  have hplain := h.plain annotations
  unfold Keywords.schema
  rw [← h.reference, href]
  dsimp only
  generalize k.allOf = all at hall ⊢
  generalize k'.allOf = all' at hall ⊢
  cases hall with
  | some hR => exact .allOf (List.rel_append hR hsiblings)
  | none =>
      dsimp only
      generalize k.alternatives? = alternatives at halternatives ⊢
      generalize k'.alternatives? = alternatives' at halternatives ⊢
      cases halternatives with
      | none => exact hplain
      | @some a b hR =>
          obtain ⟨keyword, members⟩ := a
          obtain ⟨keyword', members'⟩ := b
          obtain ⟨rfl, hmembers⟩ := hR
          dsimp only
          generalize k.siblings = siblings at hsiblings ⊢
          generalize k'.siblings = siblings' at hsiblings ⊢
          cases hsiblings with
          | nil => exact .union hmembers
          | cons hR hrest => exact .allOf (.cons (hclosed _ _ (.union hmembers)) (.cons hR hrest))

end Alike

end Keywords

/-! ## Expanding schemas of one shape -/

namespace Schema

variable {f : String → Except ReferenceError Schema}

/-- Properties whose schemas are expanded. -/
theorem expandProperties_eq_ok_of_forall₂ {properties properties' : List (String × Schema)}
    (h : List.Forall₂ (fun p q => p.1 = q.1 ∧ expandWith f p.2 = .ok q.2) properties properties') :
    expandProperties f properties = .ok properties' := by
  induction h with
  | nil => rfl
  | @cons p q _ _ hpq _ ih =>
      obtain ⟨name, s⟩ := p
      obtain ⟨name', t⟩ := q
      obtain ⟨rfl, hexp⟩ := hpq
      dsimp only at hexp
      rw [expandProperties, hexp, ih]
      rfl

/-- Members that are expanded. -/
theorem expandMembers_eq_ok_of_forall₂ {members members' : List Schema}
    (h : List.Forall₂ (fun c d => expandWith f c = .ok d) members members') :
    expandMembers f members = .ok members' := by
  induction h with
  | nil => rfl
  | cons hexp _ ih =>
      rw [expandMembers, hexp, ih]
      rfl

/-- What is said about undeclared properties, expanded. -/
theorem expandAdditional_eq_ok_of_alike {a a' : Additional Schema}
    (h : Additional.Alike (fun c d => expandWith f c = .ok d) a a') : expandAdditional f a = .ok a' := by
  cases h with
  | unspecified => rfl
  | allowed => rfl
  | typed hexp =>
      rw [expandAdditional, hexp]
      rfl

/-- **A schema is expanded part by part.** -/
theorem expandWith_eq_ok_of_alike {s r : Schema} (h : Alike (fun c d => expandWith f c = .ok d) s r) :
    expandWith f s = .ok r := by
  cases h with
  | primitive => rfl
  | object hproperties hadditional =>
      rw [expandWith, expandAdditional_eq_ok_of_alike hadditional,
        expandProperties_eq_ok_of_forall₂ hproperties]
      rfl
  | untyped => rfl
  | array hexp =>
      rw [expandWith, hexp]
      rfl
  | allOf hmembers =>
      rw [expandWith, expandMembers_eq_ok_of_forall₂ hmembers]
      rfl
  | union hmembers =>
      rw [expandWith, expandMembers_eq_ok_of_forall₂ hmembers]
      rfl

/-! ## Reading what is inlined -/

/-- A mapping that is a reference is read as one. -/
theorem ofValue_of_reference? {v : Value} {pointer : String} (h : v.reference? = some pointer) :
    ofValue v = .reference pointer := by
  cases v with
  | map entries =>
      have hkeyword : (keywords entries).reference = some pointer := by
        rw [keywords_eq]
        exact h
      rw [ofValue_map, Keywords.schema, hkeyword]
  | _ => cases h

section Inlined

variable {g : String → Option Value}

/-- What references are replaced by before and after reading agrees: they are replaced by mappings, which are
read as what the references in the schema are replaced by. -/
def ReplacedAlike (g : String → Option Value) (f : String → Except ReferenceError Schema) : Prop :=
  ∀ q t, g q = some t → t.isMap ∧ f q = .ok (ofValue t)

/-- Inlining leaves the entries that are no shape keywords. -/
theorem annotationsOf_of_inlineEntries {entries entries' : List (Scalar × Value)}
    (h : Value.inlineEntries g entries = some entries') : annotationsOf entries' = annotationsOf entries := by
  induction entries generalizing entries' with
  | nil =>
      cases h
      rfl
  | cons entry rest ih =>
      obtain ⟨key, v⟩ := entry
      rw [Value.inlineEntries_cons, Option.bind_eq_some_iff] at h
      obtain ⟨w, hw, h⟩ := h
      obtain ⟨rest', hrest, rfl⟩ := Option.map_eq_some_iff.mp h
      have hannotations := ih hrest
      unfold annotationsOf at hannotations ⊢
      rw [List.filter_cons, List.filter_cons, hannotations]
      cases hkey : Keyword.ofKey? key with
      | none =>
          rw [SchemaPlace.ofKey, hkey, Option.elim_none, Value.inlineAt, Option.some.injEq] at hw
          rw [hw]
      | some word => rfl

/-- Where references are replaced by mappings, inlining leaves mappings mappings. -/
theorem isMap_of_inlineWith (hreplace : ReplacedAlike g f) {v w : Value}
    (h : Value.inlineWith g v = some w) : w.isMap = v.isMap := by
  cases v with
  | map entries =>
      rw [Value.inlineWith] at h
      split at h
      · exact (hreplace _ _ h).1
      · obtain ⟨entries', -, rfl⟩ := Option.map_eq_some_iff.mp h
        rfl
  | _ =>
      cases h
      rfl

/-- The items of a mapping, read before and after. -/
theorem rel_items (hreplace : ReplacedAlike g f) {v w : Value} (h : Value.inlineWith g v = some w)
    (hexp : expandWith f (ofValue v) = .ok (ofValue w)) :
    Option.Rel (fun c d => expandWith f c = .ok d) (if v.isMap then some (ofValue v) else none)
      (if w.isMap then some (ofValue w) else none) := by
  rw [isMap_of_inlineWith hreplace h]
  split
  · exact .some hexp
  · exact .none

/-- What is said about undeclared properties, read before and after. -/
theorem alike_additionalOf (hreplace : ReplacedAlike g f) {v w : Value} (h : Value.inlineWith g v = some w)
    (hexp : expandWith f (ofValue v) = .ok (ofValue w)) :
    Additional.Alike (fun c d => expandWith f c = .ok d) (additionalOf v (ofValue v))
      (additionalOf w (ofValue w)) := by
  cases v with
  | map entries =>
      have hw := isMap_of_inlineWith hreplace h
      cases w with
      | map => exact .typed hexp
      | _ => cases hw
  | scalar s =>
      cases h
      cases s with
      | flag b => exact .allowed b
      | _ => exact .unspecified
  | list =>
      cases h
      exact .unspecified
  | set =>
      cases h
      exact .unspecified

mutual

/-- **Reading commutes with replacing references.** -/
theorem expandWith_ofValue (hreplace : ReplacedAlike g f) : ∀ v w : Value, Value.inlineWith g v = some w →
    expandWith f (ofValue v) = .ok (ofValue w)
  | .map entries, w, h => by
      rw [Value.inlineWith] at h
      split at h
      · next pointer href =>
          rw [ofValue_of_reference? href]
          exact (hreplace pointer w h).2
      · next href =>
          obtain ⟨entries', hentries, rfl⟩ := Option.map_eq_some_iff.mp h
          have halike := alike_keywords hreplace entries entries' hentries
          rw [ofValue_map, ofValue_map, annotationsOf_of_inlineEntries hentries]
          refine expandWith_eq_ok_of_alike (halike.schema ?_ (reference_keywords href) _)
          exact fun s t => expandWith_eq_ok_of_alike
  | .scalar _, _, h => by
      cases h
      rfl
  | .list _, _, h => by
      cases h
      rfl
  | .set _, _, h => by
      cases h
      rfl

/-- The keywords of a mapping, read before and after. -/
theorem alike_keywords (hreplace : ReplacedAlike g f) : ∀ entries entries' : List (Scalar × Value),
    Value.inlineEntries g entries = some entries' →
      Keywords.Alike (fun c d => expandWith f c = .ok d) (keywords entries) (keywords entries')
  | [], entries', h => by
      cases h
      exact ⟨rfl, .none, .none, .none, .none, .none, rfl, .none⟩
  | (key, v) :: rest, entries', h => by
      rw [Value.inlineEntries_cons, Option.bind_eq_some_iff] at h
      obtain ⟨w, hw, h⟩ := h
      obtain ⟨rest', hrest, rfl⟩ := Option.map_eq_some_iff.mp h
      have halike := alike_keywords hreplace rest rest' hrest
      rw [keywords, keywords]
      rw [SchemaPlace.ofKey] at hw
      cases hkey : Keyword.ofKey? key with
      | none => exact halike
      | some word =>
          rw [hkey, Option.elim_some] at hw
          cases word with
          | reference =>
              cases hw
              exact { halike with reference := rfl }
          | allOf => exact { halike with allOf := rel_membersOf? hreplace v w hw }
          | oneOf => exact { halike with oneOf := rel_membersOf? hreplace v w hw }
          | anyOf => exact { halike with anyOf := rel_membersOf? hreplace v w hw }
          | items =>
              exact { halike with
                items := .some (rel_items hreplace hw (expandWith_ofValue hreplace v w hw)) }
          | properties => exact { halike with properties := .some (rel_propertiesOf? hreplace v w hw) }
          | required =>
              cases hw
              exact { halike with required := rfl }
          | additional =>
              exact { halike with
                additional := .some (alike_additionalOf hreplace hw (expandWith_ofValue hreplace v w hw)) }

/-- The members of a composition, read before and after. -/
theorem rel_membersOf? (hreplace : ReplacedAlike g f) : ∀ v w : Value, Value.inlineItems g v = some w →
    Option.Rel (List.Forall₂ fun c d => expandWith f c = .ok d) (membersOf? v) (membersOf? w)
  | .list items, w, h => by
      obtain ⟨items', hitems, rfl⟩ := Option.map_eq_some_iff.mp h
      exact .some (forall₂_ofValues hreplace items items' hitems)
  | .scalar _, _, h => by
      cases h
      exact .none
  | .map _, _, h => by
      cases h
      exact .none
  | .set _, _, h => by
      cases h
      exact .none

/-- The properties, read before and after. -/
theorem rel_propertiesOf? (hreplace : ReplacedAlike g f) : ∀ v w : Value, Value.inlineValues g v = some w →
    Option.Rel (List.Forall₂ fun p q => p.1 = q.1 ∧ expandWith f p.2 = .ok q.2) (propertiesOf? v)
      (propertiesOf? w)
  | .map entries, w, h => by
      obtain ⟨entries', hentries, rfl⟩ := Option.map_eq_some_iff.mp h
      exact .some (Entries.forall₂_ofList (R := fun c d => expandWith f c = .ok d)
        (forall₂_namedSchemas hreplace entries entries' hentries))
  | .scalar _, _, h => by
      cases h
      exact .none
  | .list _, _, h => by
      cases h
      exact .none
  | .set _, _, h => by
      cases h
      exact .none

/-- The schemas of a list, read before and after. -/
theorem forall₂_ofValues (hreplace : ReplacedAlike g f) : ∀ items items' : List Value,
    Value.inlineEachItem g items = some items' →
    List.Forall₂ (fun c d => expandWith f c = .ok d) (ofValues items) (ofValues items')
  | [], items', h => by
      cases h
      exact .nil
  | v :: rest, items', h => by
      rw [Value.inlineEachItem, Option.bind_eq_some_iff] at h
      obtain ⟨w, hw, h⟩ := h
      obtain ⟨rest', hrest, rfl⟩ := Option.map_eq_some_iff.mp h
      exact .cons (expandWith_ofValue hreplace v w hw) (forall₂_ofValues hreplace rest rest' hrest)

/-- Named schemas, read before and after. -/
theorem forall₂_namedSchemas (hreplace : ReplacedAlike g f) : ∀ entries entries' : List (Scalar × Value),
    Value.inlineEachValue g entries = some entries' →
      List.Forall₂ (fun p q => p.1 = q.1 ∧ expandWith f p.2 = .ok q.2) (namedSchemas entries)
        (namedSchemas entries')
  | [], entries', h => by
      cases h
      exact .nil
  | (name, v) :: rest, entries', h => by
      rw [Value.inlineEachValue, Option.bind_eq_some_iff] at h
      obtain ⟨w, hw, h⟩ := h
      obtain ⟨rest', hrest, rfl⟩ := Option.map_eq_some_iff.mp h
      exact .cons ⟨rfl, expandWith_ofValue hreplace v w hw⟩ (forall₂_namedSchemas hreplace rest rest' hrest)

end

end Inlined

variable {document : Value}

/-- An inlined reference is a mapping, and read as what the reference is unfolded to. -/
theorem unfoldReference_of_inlineReference {bound : Nat} {p : String} {w : Value}
    (h : Value.inlineReference document bound p = some w) :
    w.isMap ∧ unfoldReference document bound p = .ok (ofValue w) := by
  induction bound generalizing p w with
  | zero => cases h
  | succ bound ih =>
      obtain ⟨below, entries, hbound, hentries, hinline⟩ := Value.inlineReference_eq_some_iff.mp h
      cases hbound
      constructor
      · rw [isMap_of_inlineWith (f := unfoldReference document bound) (fun q t ht => ih ht) hinline]
        rfl
      · refine unfoldReference_eq_ok_iff.mpr ⟨bound, ofValue (.map entries), rfl, ?_, ?_⟩
        · exact atPointer_eq_ok_iff.mpr ⟨_, hentries, rfl⟩
        · exact expandWith_ofValue (fun q t ht => ih ht) _ w hinline

/-- **Dereferencing commutes with reading.** The references at the schema positions of a value can be inlined
exactly when each of them leads to a mapping and none back to itself. Then the schema of the value can be
expanded, and its expansion is the schema of the inlined value. -/
theorem expand_ofValue_inline (document v : Value) :
    ((∃ w, document.inline v = some w) ↔ ∀ q, Value.Reaches document v q →
      Value.ResolvesToMap document q ∧ ¬ Relation.TransGen (Value.RefersTo document) q q) ∧
    ∀ w, document.inline v = some w → expand document (ofValue v) = .ok (ofValue w) := by
  refine ⟨Value.exists_inline_eq_some_iff document v, fun w h => expand_eq_ok_iff.mpr ?_⟩
  exact ⟨document.referenceCount v.referenceTexts,
    expandWith_ofValue (fun q t ht => unfoldReference_of_inlineReference ht) v w h⟩

end Schema

end ServiceBindings
