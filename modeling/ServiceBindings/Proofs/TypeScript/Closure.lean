import ServiceBindings.Proofs.Schema.Dereferencing
import ServiceBindings.Proofs.TypeScript.Walk

/-! # Classes of texts that hold everything that is written

A printer puts the text of a schema together from few constructions: literals and names, unions and
intersections, arrays, records and objects, whose lines hold the descriptions of properties as comments
(`Schema.HasComment`, and along the references `Printer.Comments`). A class of texts is **closed** if it admits
each of them (`Printer.Closed`).

**A closed class holds whatever is written for a schema**, on top of any chain of references
(`Printer.Closed.expressionWith_referenceExpression`), so a property of all texts is proved construction by
construction and not along the schema. -/

namespace ServiceBindings

namespace Schema

/-- A text is the description of a property somewhere in a schema. -/
def HasComment (s : Schema) (text : String) : Prop :=
  ∃ o c, Within o s ∧ IsProperty c o ∧ c.description? = some text

/-- The comments in a schema are the descriptions of its own properties and the comments in its parts. -/
theorem hasComment_iff_child {s : Schema} {text : String} : s.HasComment text ↔
    (∃ c, IsProperty c s ∧ c.description? = some text) ∨ ∃ c, Child c s ∧ c.HasComment text := by
  constructor
  · rintro ⟨o, c, hwithin, hprop, hdesc⟩
    rcases Relation.ReflTransGen.cases_tail hwithin with rfl | ⟨d, hwithin, hd⟩
    · exact Or.inl ⟨c, hprop, hdesc⟩
    · exact Or.inr ⟨d, hd, o, c, hwithin, hprop, hdesc⟩
  · rintro (⟨c, hprop, hdesc⟩ | ⟨c, hc, o, d, hwithin, hprop, hdesc⟩)
    · exact ⟨s, c, .refl, hprop, hdesc⟩
    · exact ⟨o, d, hwithin.tail hc, hprop, hdesc⟩

/-- What is written as a comment in a part is written in the whole. -/
theorem Child.hasComment {c s : Schema} (hc : Child c s) {text : String} (h : c.HasComment text) :
    s.HasComment text :=
  hasComment_iff_child.mpr (Or.inr ⟨c, hc, h⟩)

end Schema

namespace TypeScript

namespace Printer

variable {p : Printer} {onReference : Nat → String → Except ReferenceError String} {X P : String → Prop}

/-! ## Comments along the references -/

/-- The descriptions that are written as comments when a schema is written: those of the properties in
it and in the schemas that its references reach. -/
def Comments (p : Printer) (s : Schema) (text : String) : Prop :=
  s.HasComment text ∨ ∃ document q u, p.document = some document ∧ Schema.Reachable document s q ∧
    Schema.atPointer document q = .ok u ∧ u.HasComment text

/-- Without references only the comments in the schema itself are written. -/
theorem Comments.hasComment {s : Schema} {text : String} (h : p.Comments s text)
    (hs : s.references = []) : s.HasComment text := by
  rcases h with h | ⟨document, q, u, -, ⟨r, hr, -⟩, -, -⟩
  · exact h
  · exact absurd hr (Schema.references_eq_nil_iff.mp hs r)

/-- The second schema is the first one, or one that the references in the first reach. -/
def Reaches (p : Printer) (s t : Schema) : Prop :=
  t = s ∨ ∃ document q, p.document = some document ∧ Schema.Reachable document s q ∧
    Schema.atPointer document q = .ok t

/-- What a reached schema reaches is reached. -/
theorem Reaches.trans {s t u : Schema} (hst : p.Reaches s t) (htu : p.Reaches t u) :
    p.Reaches s u := by
  rcases htu with rfl | ⟨document, q, hdocument, ⟨r, hr, hrq⟩, hq⟩
  · exact hst
  · rcases hst with rfl | ⟨document', q', hdocument', ⟨r', hr', hreach⟩, hat⟩
    · exact Or.inr ⟨document, q, hdocument, ⟨r, hr, hrq⟩, hq⟩
    · rw [hdocument, Option.some.injEq] at hdocument'
      subst hdocument'
      -- the first schema leads to `q'`, whose schema mentions `r`, and `r` leads to `q`
      exact Or.inr ⟨document, q, hdocument, ⟨r', hr', (hreach.tail ⟨t, hat, hr⟩).trans hrq⟩, hq⟩

/-- The comments are those in the schemas that are reached. -/
theorem comments_iff {s : Schema} {text : String} :
    p.Comments s text ↔ ∃ u, p.Reaches s u ∧ u.HasComment text := by
  constructor
  · rintro (h | ⟨document, q, u, hdocument, hreach, hat, h⟩)
    · exact ⟨s, Or.inl rfl, h⟩
    · exact ⟨u, Or.inr ⟨document, q, hdocument, hreach, hat⟩, h⟩
  · rintro ⟨u, rfl | ⟨document, q, hdocument, hreach, hat⟩, h⟩
    · exact Or.inl h
    · exact Or.inr ⟨document, q, u, hdocument, hreach, hat, h⟩

/-! ## Closed classes -/

/-- The line of a property whose type is in a class, with a text of a kind as its comment if it has one. -/
def IsPropertyLine (p : Printer) (X P : String → Prop) (depth : Nat) (line : String) : Prop :=
  ∃ required name s type, line = p.member depth required name s type ∧ P type ∧
    ∀ x, s.description? = some x → X x

/-- A class of texts admits every construction of a printer, where the comments have texts of a kind. -/
structure Closed (p : Printer) (X P : String → Prop) : Prop where
  /-- The names of types that are written as such. -/
  name : ∀ type ∈ [unknownType, "never", "null"], P type
  /-- The type of one value. -/
  literal : ∀ v, P (literalType v)
  /-- The type with a name in the schema language. -/
  primitive : ∀ name, P (primitiveType name)
  /-- The union of types. -/
  union : ∀ types, (∀ type ∈ types, P type) → P (union types)
  /-- The intersection of types. -/
  intersection : ∀ types, (∀ type ∈ types, P type) → P (intersection types)
  /-- An array of items without a declared type. -/
  unknowns : P (unknownType ++ "[]")
  /-- An array. -/
  array : ∀ item, P item → P (operand item ++ "[]")
  /-- An object without declared properties. -/
  record : ∀ type, P type → P (recordOf type)
  /-- An object with declared properties. -/
  object : ∀ depth lines additional, (∀ line ∈ lines, p.IsPropertyLine X P depth line) →
    P (p.objectType depth (lines ++ p.indexLines depth additional))

namespace Closed

/-- A fixed type is in a closed class. -/
theorem fixedType? (hP : p.Closed X P) {annotations : Annotations} {type : String}
    (h : fixedType? annotations = some type) : P type := by
  rw [TypeScript.fixedType?] at h
  split at h
  · cases h
    exact hP.literal _
  · split at h
    · cases h
      refine hP.union _ fun type htype => ?_
      obtain ⟨v, -, rfl⟩ := List.mem_map.mp htype
      exact hP.literal v
    · cases h

/-- A type under annotations is in a closed class if that of the shape is. -/
theorem annotated (hP : p.Closed X P) {annotations : Annotations}
    {shape : Unit → Except ReferenceError String} {text : String} (h : annotated annotations shape = .ok text)
    (hshape : ∀ type, shape () = .ok type → P type) : P text := by
  obtain ⟨type, rfl, htype⟩ := annotated_eq_ok_iff.mp h
  have hmem : P type := by
    rcases htype with hfixed | ⟨-, htype⟩
    · exact hP.fixedType? hfixed
    · exact hshape type htype
  rw [nullableType]
  split
  · refine hP.union _ fun text htext => ?_
    rcases List.mem_cons.mp htext with rfl | htext
    · exact hmem
    · rw [List.mem_singleton.mp htext]
      exact hP.name _ (by decide)
  · exact hmem

/-- A leaf is in a closed class. -/
theorem leafType (hP : p.Closed X P) (types : List String) : P (leafType types) := by
  rw [TypeScript.leafType]
  split
  · exact hP.name _ (by decide)
  · refine hP.union _ fun type htype => ?_
    obtain ⟨name, -, rfl⟩ := List.mem_map.mp htype
    exact hP.primitive name

/-- The type of undeclared properties is a record of values in the class. -/
theorem exists_recordOf (hP : p.Closed X P) {depth : Nat} {additional : Additional Schema} {type : String}
    (h : p.undeclaredWith onReference depth additional = .ok type)
    (hparts : ∀ c, additional = .typed c → ∀ text, p.expressionWith onReference depth c = .ok text → P text) :
    ∃ value, type = recordOf value ∧ P value := by
  cases additional with
  | unspecified =>
      cases h
      exact ⟨unknownType, rfl, hP.name _ (by decide)⟩
  | allowed flag =>
      cases flag <;> cases h <;> exact ⟨_, rfl, hP.name _ (by decide)⟩
  | typed c =>
      obtain ⟨value, hvalue, h⟩ := bind_eq_ok_iff.mp h
      cases h
      exact ⟨value, rfl, hparts c rfl value hvalue⟩

end Closed

/-- The lines of properties have types in a class if the properties are written in it. -/
theorem isPropertyLine_of_linesWith {depth : Nat} {required : List String}
    {properties : List (String × Schema)} {lines : List String}
    (h : p.linesWith onReference depth required properties = .ok lines)
    (hparts : ∀ name c, (name, c) ∈ properties → (∀ x, c.description? = some x → X x) ∧
      ∀ text, p.expressionWith onReference (depth + 1) c = .ok text → P text)
    {line : String} (hline : line ∈ lines) : p.IsPropertyLine X P depth line := by
  obtain ⟨⟨name, c⟩, hmem, type, htype, rfl⟩ :=
    exists_mem_left_of_forall₂ (forall₂_of_linesWith_eq_ok h) hline
  obtain ⟨hcomment, hwritten⟩ := hparts name c hmem
  exact ⟨required, name, c, type, rfl, hwritten type htype, hcomment⟩

/-! ## The walk over a schema -/

/-- **Whatever is written for a schema is in a closed class** if what is written for references is, and if the
descriptions of properties are of the kind that may become comments. -/
theorem Closed.expressionWith (hP : p.Closed X P) {s : Schema} (hcomments : ∀ x, s.HasComment x → X x)
    (hreferences : ∀ q depth text, s.Mentions q → onReference depth q = .ok text → P text) {depth : Nat}
    {text : String} (h : p.expressionWith onReference depth s = .ok text) : P text := by
  induction s using Schema.childInduction generalizing depth text with
  | step s ih =>
      -- comments and references of a part are those of the whole
      have hpart : ∀ c, Schema.Child c s → ∀ depth text,
          p.expressionWith onReference depth c = .ok text → P text :=
        fun c hc depth text htext => ih c hc (fun x hx => hcomments x (hc.hasComment hx))
          (fun q depth text hq => hreferences q depth text (hc.mentions hq)) htext
      have hmembers : ∀ members, (∀ c ∈ members, Schema.Child c s) → ∀ depth types,
          p.typesWith onReference depth members = .ok types → ∀ type ∈ types, P type := by
        intro members hchild depth types htypes type htype
        obtain ⟨c, hc, htype⟩ := exists_mem_left_of_forall₂ (forall₂_of_typesWith_eq_ok htypes) htype
        exact hpart c (hchild c hc) depth type htype
      cases s with
      | reference q => exact hreferences q depth text (Schema.mentions_reference q) h
      | primitive types annotations =>
          rw [Printer.expressionWith] at h
          refine hP.annotated h fun type htype => ?_
          cases htype
          exact hP.leafType types
      | object properties required additional annotations =>
          rw [Printer.expressionWith] at h
          refine hP.annotated h fun type htype => ?_
          split at htype
          · obtain ⟨value, rfl, hvalue⟩ := hP.exists_recordOf htype fun c hc =>
              hpart c (hc ▸ .additional) depth
            exact hP.record value hvalue
          · obtain ⟨lines, hlines, htype⟩ := bind_eq_ok_iff.mp htype
            cases htype
            refine hP.object depth lines additional fun line hline =>
              isPropertyLine_of_linesWith hlines (fun name c hmem => ⟨fun x hx => ?_, ?_⟩) hline
            · exact hcomments x ⟨_, c, .refl, .declared hmem, hx⟩
            · exact hpart c (.property hmem) (depth + 1)
      | array items annotations =>
          cases items with
          | none =>
              rw [Printer.expressionWith] at h
              refine hP.annotated h fun type htype => ?_
              cases htype
              exact hP.unknowns
          | some c =>
              rw [Printer.expressionWith] at h
              refine hP.annotated h fun type htype => ?_
              obtain ⟨item, hitem, htype⟩ := bind_eq_ok_iff.mp htype
              cases htype
              exact hP.array item (hpart c .items depth item hitem)
      | allOf members annotations =>
          rw [Printer.expressionWith] at h
          refine hP.annotated h fun type htype => ?_
          obtain ⟨types, htypes, htype⟩ := bind_eq_ok_iff.mp htype
          cases htype
          exact hP.intersection types (hmembers members (fun c hc => .allOf hc) depth types htypes)
      | union keyword members annotations =>
          rw [Printer.expressionWith] at h
          refine hP.annotated h fun type htype => ?_
          obtain ⟨types, htypes, htype⟩ := bind_eq_ok_iff.mp htype
          cases htype
          exact hP.union types (hmembers members (fun c hc => .union hc) depth types htypes)

/-! ## The walk along the references -/

/-- What is written for a reference is in a closed class if the descriptions in all schemas that it reaches are
of the kind that may become comments. -/
theorem Closed.referenceExpression (hP : p.Closed X P) {bound : Nat} {chain : List String} {depth : Nat}
    {q text : String}
    (hcomments : ∀ document r u, p.document = some document →
      Relation.ReflTransGen (Schema.LeadsTo document) q r →
      Schema.atPointer document r = .ok u → ∀ x, u.HasComment x → X x)
    (h : p.referenceExpression bound chain depth q = .ok text) : P text := by
  induction bound generalizing chain depth q text with
  | zero =>
      rw [Printer.referenceExpression] at h
      split at h <;> cases h
  | succ bound ih =>
      rw [Printer.referenceExpression] at h
      cases hs : Schema.followOnce p.document chain q with
      | error e =>
          rw [hs] at h
          cases h
      | ok s =>
          rw [hs] at h
          obtain ⟨-, document, hdocument, hat⟩ := Schema.followOnce_eq_ok hs
          -- what `s` mentions is reached from `q`, so the hypothesis covers its comments as well
          refine hP.expressionWith (hcomments document q s hdocument .refl hat)
            (fun q' depth text hq' htext => ih (fun document' r u hdocument' hreach hu => ?_) htext) h
          rw [hdocument, Option.some.injEq] at hdocument'
          subst hdocument'
          exact hcomments document r u hdocument (.head ⟨s, hat, hq'⟩ hreach) hu

/-- **Whatever is written for a schema, on top of any chain of references, is in a closed class** if the
descriptions that become comments are of the kind that may do so. -/
theorem Closed.expressionWith_referenceExpression (hP : p.Closed X P) {s : Schema}
    (hcomments : ∀ x, p.Comments s x → X x) {bound : Nat} {chain : List String} {depth : Nat} {text : String}
    (h : p.expressionWith (p.referenceExpression bound chain) depth s = .ok text) : P text := by
  refine hP.expressionWith (fun x hx => hcomments x (Or.inl hx)) (fun q depth text hq htext => ?_) h
  refine hP.referenceExpression (fun document r u hdocument hreach hu x hx => ?_) htext
  exact hcomments x (Or.inr ⟨document, r, u, hdocument, ⟨q, hq, hreach⟩, hu, hx⟩)

end Printer

end TypeScript

end ServiceBindings
