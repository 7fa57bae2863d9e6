import ServiceBindings.Proofs.Schema.Dereferencing
import ServiceBindings.Proofs.TypeScript.Walk

/-! # Inlining agrees with dereferencing

A schema can be written with its references followed on the way (`Printer.referenceExpression`), or its
references can be replaced first (`Schema.expand`) and the result be written. **Both give the same
text** (`Printer.declaration_expand`), with one proviso: a comment in front of a property is taken from
the schema that stands there, and a reference has none. So the schemas that property references lead to
must have no description (`Schema.Silent`).

The two walks are compared part by part (`Printer.expressionWith_expandWith`), and then reference by
reference along the chain that they share (`Printer.referenceExpression_expandReference`). -/

namespace ServiceBindings

namespace Schema

/-! ## References without a comment -/

/-- The references at a pointer, followed one after the other, end at a schema that is none. -/
inductive EndsAt (document : Value) : String → Schema → Prop where
  /-- The schema at the pointer is no reference. -/
  | here {p : String} {s : Schema} :
      atPointer document p = .ok s → ¬ s.IsReference → EndsAt document p s
  /-- The schema at the pointer is a reference to be followed. -/
  | there {p q : String} {s : Schema} :
      atPointer document p = .ok (.reference q) → EndsAt document q s → EndsAt document p s

/-- A reference to `pointer` stands somewhere in a schema as the value of a property. -/
def MentionsAsProperty (s : Schema) (pointer : String) : Prop :=
  ∃ o, Within o s ∧ IsProperty (.reference pointer) o

/-- The references that stand as properties in a schema end at schemas without a description. -/
def SilentIn (document : Value) (s : Schema) : Prop :=
  ∀ p t, s.MentionsAsProperty p → EndsAt document p t → t.description? = none

/-- Property references end at schemas without a description, in a schema and in every schema that its
references reach. -/
structure Silent (document : Value) (s : Schema) : Prop where
  /-- In the schema itself. -/
  root : SilentIn document s
  /-- In the schemas at reachable pointers. -/
  reached : ∀ q u, Reachable document s q → atPointer document q = .ok u → SilentIn document u

variable {document : Value}

/-- The description is read from the annotations. -/
theorem description?_congr {s t : Schema} (h : s.annotations = t.annotations) :
    s.description? = t.description? := by
  rw [description?, description?, h]

/-- A reference has no description. -/
theorem description?_reference (pointer : String) : (reference pointer).description? = none := rfl

/-- A reference that stands as a property in a part does so in the whole. -/
theorem Child.mentionsAsProperty {c s : Schema} (hc : Child c s) {p : String}
    (h : c.MentionsAsProperty p) : s.MentionsAsProperty p := by
  obtain ⟨o, hwithin, hprop⟩ := h
  exact ⟨o, hwithin.tail hc, hprop⟩

/-- A reference that stands as a property is a mentioned one. -/
theorem MentionsAsProperty.mentions {s : Schema} {p : String} (h : s.MentionsAsProperty p) :
    s.Mentions p := by
  obtain ⟨o, hwithin, hprop⟩ := h
  cases hprop with
  | declared hmem => exact Relation.ReflTransGen.head (.property hmem) hwithin

/-- A schema is silent if each of its references leads straight to a schema without references and
without a description. -/
theorem silent_of_forall_mentions {s : Schema} (h : ∀ q, s.Mentions q →
    ∃ u, atPointer document q = .ok u ∧ u.references = [] ∧ u.description? = none) :
    Silent document s := by
  -- a chain of references ends after one step, as nothing is mentioned there
  have hreach : ∀ q, Reachable document s q → s.Mentions q := by
    rintro q ⟨p, hp, hsteps⟩
    rcases Relation.ReflTransGen.cases_head hsteps with rfl | ⟨q', ⟨u', hu', hq'⟩, -⟩
    · exact hp
    · obtain ⟨u, hu, hnone, -⟩ := h p hp
      rw [hu, Except.ok.injEq] at hu'
      exact absurd (hu' ▸ hq') (references_eq_nil_iff.mp hnone q')
  refine ⟨fun p t hp hends => ?_, fun q u hq hu p t hp => ?_⟩
  · obtain ⟨u, hu, hnone, hdesc⟩ := h p hp.mentions
    cases hends with
    | here ht =>
        rw [hu, Except.ok.injEq] at ht
        exact ht ▸ hdesc
    | there hq =>
        rw [hu, Except.ok.injEq] at hq
        subst hq
        cases hnone
  · obtain ⟨u', hu', hnone, -⟩ := h q (hreach q hq)
    rw [hu, Except.ok.injEq] at hu'
    exact absurd hp.mentions (references_eq_nil_iff.mp (hu' ▸ hnone) p)

/-- Where a reference is silent, the schema that it leads to is. -/
theorem Silent.of_reference {p : String} {s : Schema} (h : Silent document (.reference p))
    (hs : atPointer document p = .ok s) : Silent document s := by
  -- what can be reached from the schema can be reached from the reference in one step more
  have hp : Reachable document (.reference p) p := ⟨p, mentions_reference p, .refl⟩
  refine ⟨h.reached p s hp hs, ?_⟩
  rintro q u ⟨p', hp', hreach⟩ hu
  exact h.reached q u ⟨p, mentions_reference p, .head ⟨s, hs, hp'⟩ hreach⟩ hu

/-- An expanded reference has the description of the schema at the end of its references. -/
theorem exists_endsAt_of_expandReference {bound : Nat} {chain : List String} {p : String} {r : Schema}
    (h : expandReference document bound chain p = .ok r) :
    ∃ t, EndsAt document p t ∧ r.description? = t.description? := by
  induction bound generalizing chain p with
  | zero => exact absurd h expandReference_zero_ne_ok
  | succ bound ih =>
      obtain ⟨s, -, hs, hexp⟩ := expandReference_succ_eq_ok h
      by_cases href : s.IsReference
      · obtain ⟨q, rfl⟩ := href
        obtain ⟨t, hends, hdesc⟩ := ih hexp
        exact ⟨t, .there hs hends, hdesc⟩
      · refine ⟨s, .here hs href, description?_congr ?_⟩
        exact (alike_of_expandWith_eq_ok href hexp).annotations_eq.symm

end Schema

namespace TypeScript

namespace Printer

/-! ## Writing schemas of one shape -/

section Parts

variable {p p' : Printer} {onReference other : Nat → String → Except ReferenceError String}
  {replace : String → Except ReferenceError Schema}

/-- Of a schema and its replacement the same is written, at every depth. -/
def Agree (p p' : Printer) (onReference other : Nat → String → Except ReferenceError String)
    (s r : Schema) : Prop :=
  ∀ depth, p.expressionWith onReference depth s = p'.expressionWith other depth r

/-- Printers with one indentation write the same margins. -/
theorem margin_congr (h : p.indent = p'.indent) (depth : Nat) : p.margin depth = p'.margin depth := by
  rw [margin, margin, h]

/-- Printers with one indentation write the same object types. -/
theorem objectType_congr (h : p.indent = p'.indent) (depth : Nat) (lines : List String) :
    p.objectType depth lines = p'.objectType depth lines := by
  rw [objectType, objectType, margin_congr h]

/-- The line of a property is the same for two schemas with one description. -/
theorem member_congr (h : p.indent = p'.indent) {s r : Schema} (hdesc : s.description? = r.description?)
    (depth : Nat) (required : List String) (name type : String) :
    p.member depth required name s type = p'.member depth required name r type := by
  rw [member, member, margin_congr h, hdesc]

/-- The line about undeclared properties does not look at their schema. -/
theorem indexLines_congr (h : p.indent = p'.indent) {R : Schema → Schema → Prop}
    {a a' : Additional Schema} (halike : Additional.Alike R a a') (depth : Nat) :
    p.indexLines depth a = p'.indexLines depth a' := by
  cases halike with
  | unspecified => rfl
  | allowed flag =>
      cases flag with
      | false => rfl
      | true => simp only [indexLines, margin_congr h]
  | typed => simp only [indexLines, margin_congr h]

/-- The lines of properties of which the same is written and which have the same descriptions. -/
theorem linesWith_congr (h : p.indent = p'.indent) {properties properties' : List (String × Schema)}
    (hparts : List.Forall₂ (fun c d => c.1 = d.1 ∧ c.2.description? = d.2.description? ∧
      Agree p p' onReference other c.2 d.2) properties properties')
    (depth : Nat) (required : List String) :
    p.linesWith onReference depth required properties
      = p'.linesWith other depth required properties' := by
  induction hparts with
  | nil => rfl
  | @cons c d rest rest' hpart _ ih =>
      obtain ⟨name, c⟩ := c
      obtain ⟨name', d⟩ := d
      obtain ⟨rfl, hdesc, hagree⟩ := hpart
      rw [linesWith, linesWith, hagree, ih]
      simp only [member_congr h hdesc]

/-- The types of members of which the same is written. -/
theorem typesWith_congr {members members' : List Schema}
    (hparts : List.Forall₂ (Agree p p' onReference other) members members') (depth : Nat) :
    p.typesWith onReference depth members = p'.typesWith other depth members' := by
  induction hparts with
  | nil => rfl
  | cons hagree _ ih => rw [typesWith, typesWith, hagree, ih]

/-- Lists that are related item by item are both empty or both not. -/
theorem isEmpty_eq_of_forall₂ {α β : Type} {R : α → β → Prop} {l : List α} {m : List β}
    (h : List.Forall₂ R l m) : l.isEmpty = m.isEmpty := by
  cases h <;> rfl

/-- In lists that are related item by item, the related items are items of the lists. -/
theorem forall₂_with_mem {α β : Type} {R : α → β → Prop} {l : List α} {m : List β}
    (h : List.Forall₂ R l m) : List.Forall₂ (fun a b => a ∈ l ∧ R a b) l m :=
  (List.forall₂_and_left l m).mpr ⟨fun _ ha => ha, h⟩

variable {R : Schema → Schema → Prop} {s r : Schema}

/-- The lines of the properties of two objects of one shape. -/
theorem linesWith_of_forall₂ (h : p.indent = p'.indent)
    {properties properties' : List (String × Schema)}
    (hrelated : List.Forall₂ (fun c d => c.1 = d.1 ∧ R c.2 d.2) properties properties')
    (hparts : ∀ name c d, (name, c) ∈ properties → R c d →
      c.description? = d.description? ∧ Agree p p' onReference other c d)
    (depth : Nat) (required : List String) :
    p.linesWith onReference depth required properties
      = p'.linesWith other depth required properties' := by
  refine linesWith_congr h ((forall₂_with_mem hrelated).imp ?_) depth required
  rintro ⟨name, c⟩ ⟨name', d⟩ ⟨hmem, hname, hR⟩
  exact ⟨hname, hparts name c d hmem hR⟩

/-- The type of undeclared properties of two objects of one shape. -/
theorem undeclaredWith_of_alike {a a' : Additional Schema} (halike : Additional.Alike R a a')
    (hparts : ∀ c d, a = .typed c → R c d → Agree p p' onReference other c d) (depth : Nat) :
    p.undeclaredWith onReference depth a = p'.undeclaredWith other depth a' := by
  cases halike with
  | unspecified => rfl
  | allowed flag => cases flag <;> rfl
  | typed hR => rw [undeclaredWith, undeclaredWith, hparts _ _ rfl hR]

/-- **One level of the walk.** The same is written of two schemas of one shape if the same is written of
their parts and the properties have the same descriptions. -/
theorem agree_of_alike (h : p.indent = p'.indent) (halike : Schema.Alike R s r)
    (hparts : ∀ c d, Schema.Child c s → R c d → Agree p p' onReference other c d)
    (hdesc : ∀ c d, Schema.IsProperty c s → R c d → c.description? = d.description?) :
    Agree p p' onReference other s r := by
  intro depth
  cases halike with
  | primitive => rw [expressionWith, expressionWith]
  | object hprops hadd =>
      have hlines := linesWith_of_forall₂ h hprops fun name c d hmem hR =>
        ⟨hdesc c d (.declared hmem) hR, hparts c d (.property hmem) hR⟩
      have hundeclared := undeclaredWith_of_alike hadd fun c d hc hR =>
        hparts c d (hc ▸ .additional) hR
      simp only [expressionWith, isEmpty_eq_of_forall₂ hprops, hlines, hundeclared,
        objectType_congr h, indexLines_congr h hadd]
  | untyped => rw [expressionWith, expressionWith]
  | array hR => rw [expressionWith, expressionWith, hparts _ _ .items hR]
  | allOf hmems =>
      rw [expressionWith, expressionWith]
      rw [typesWith_congr ((forall₂_with_mem hmems).imp fun c d hcd => hparts c d (.allOf hcd.1) hcd.2)]
  | union hmems =>
      rw [expressionWith, expressionWith]
      rw [typesWith_congr ((forall₂_with_mem hmems).imp fun c d hcd => hparts c d (.union hcd.1) hcd.2)]

/-- The declarations of two schemas of one shape. -/
theorem declareWith_of_alike (h : p.indent = p'.indent) (halike : Schema.Alike R s r)
    (hparts : ∀ c d, Schema.Child c s → R c d → Agree p p' onReference other c d)
    (hdesc : ∀ c d, Schema.IsProperty c s → R c d → c.description? = d.description?)
    (name : String) : p.declareWith onReference name s = p'.declareWith other name r := by
  have hlead := Schema.description?_congr halike.annotations_eq
  have hwhole := agree_of_alike h halike hparts hdesc 0
  cases halike with
  | object hprops hadd =>
      have hlines := linesWith_of_forall₂ h hprops fun name c d hmem hR =>
        ⟨hdesc c d (.declared hmem) hR, hparts c d (.property hmem) hR⟩
      simp only [declareWith, isInterface, isEmpty_eq_of_forall₂ hprops, hlines, hlead, hwhole,
        objectType_congr h, indexLines_congr h hadd]
      rfl
  | primitive => simp only [declareWith, hwhole]
  | untyped => simp only [declareWith, hwhole]
  | array => simp only [declareWith, hlead, hwhole]
  | allOf => simp only [declareWith, hlead, hwhole]
  | union => simp only [declareWith, hlead, hwhole]

/-! ## The walk over a schema -/

/-- A property and its replacement have the same description, if a property that is a reference is
replaced by a schema without one. -/
theorem description?_eq_of_expandWith
    (hsilent : ∀ q t, s.MentionsAsProperty q → replace q = .ok t → t.description? = none)
    {c d : Schema} (hprop : Schema.IsProperty c s) (hexp : Schema.expandWith replace c = .ok d) :
    c.description? = d.description? := by
  by_cases href : c.IsReference
  · obtain ⟨q, rfl⟩ := href
    rw [Schema.description?_reference, hsilent q d ⟨s, .refl, hprop⟩ hexp]
  · exact Schema.description?_congr (Schema.alike_of_expandWith_eq_ok href hexp).annotations_eq

/-- **The two walks agree** on a schema if they agree on every mentioned reference and its
replacement. -/
theorem expressionWith_expandWith (h : p.indent = p'.indent)
    (hexp : Schema.expandWith replace s = .ok r)
    (hagree : ∀ q t, s.Mentions q → replace q = .ok t →
      Agree p p' onReference other (.reference q) t)
    (hsilent : ∀ q t, s.MentionsAsProperty q → replace q = .ok t → t.description? = none) :
    Agree p p' onReference other s r := by
  induction s using Schema.childInduction generalizing r with
  | step s ih =>
      by_cases href : s.IsReference
      · obtain ⟨q, rfl⟩ := href
        exact hagree q r (Schema.mentions_reference q) hexp
      -- the expansion has the same shape, and its parts are the expansions of the parts
      · refine agree_of_alike h (Schema.alike_of_expandWith_eq_ok href hexp) (fun c d hc hcd => ?_)
          fun c d hprop hcd => description?_eq_of_expandWith hsilent hprop hcd
        exact ih c hc hcd (fun q t hq ht => hagree q t (hc.mentions hq) ht)
          fun q t hq ht => hsilent q t (hc.mentionsAsProperty hq) ht

/-- The declarations of a schema that is no reference and of its expansion. -/
theorem declareWith_expandWith (h : p.indent = p'.indent) (href : ¬ s.IsReference)
    (hexp : Schema.expandWith replace s = .ok r)
    (hagree : ∀ q t, s.Mentions q → replace q = .ok t →
      Agree p p' onReference other (.reference q) t)
    (hsilent : ∀ q t, s.MentionsAsProperty q → replace q = .ok t → t.description? = none)
    (name : String) : p.declareWith onReference name s = p'.declareWith other name r := by
  refine declareWith_of_alike h (Schema.alike_of_expandWith_eq_ok href hexp) (fun c d hc hcd => ?_)
    (fun c d hprop hcd => description?_eq_of_expandWith hsilent hprop hcd) name
  exact expressionWith_expandWith h hcd (fun q t hq ht => hagree q t (hc.mentions hq) ht)
    fun q t hq ht => hsilent q t (hc.mentionsAsProperty hq) ht

end Parts

/-! ## The walk along the references -/

variable {document : Value} {indent : String} {p' : Printer}
  {other : Nat → String → Except ReferenceError String}

/-- **Following a reference agrees with expanding it**, on top of the same chain, if every schema that it
reaches is silent. -/
theorem referenceExpression_expandReference (h : indent = p'.indent) {bound : Nat}
    {chain : List String} {q : String} {r : Schema}
    (hexp : Schema.expandReference document bound chain q = .ok r)
    (hsilent : ∀ q' u, Relation.ReflTransGen (Schema.LeadsTo document) q q' →
      Schema.atPointer document q' = .ok u → Schema.SilentIn document u) (depth : Nat) :
    referenceExpression ⟨some document, indent⟩ bound chain depth q
      = p'.expressionWith other depth r := by
  induction bound generalizing chain q r depth with
  | zero => exact absurd hexp Schema.expandReference_zero_ne_ok
  | succ bound ih =>
      obtain ⟨s, hq, hs, hexp⟩ := Schema.expandReference_succ_eq_ok hexp
      rw [referenceExpression, Schema.followOnce_of_not_mem hq, hs]
      -- both walks go on inside what stands at `q`, with `q` at the end of the chain
      refine expressionWith_expandWith h hexp (fun q' t hq' ht depth => ?_) (fun q' t hq' ht => ?_) depth
      · refine ih ht (fun q'' u hreach hu => hsilent q'' u (.head ⟨s, hs, hq'⟩ hreach) hu) depth
      · obtain ⟨e, hends, hdesc⟩ := Schema.exists_endsAt_of_expandReference ht
        rw [hdesc]
        exact hsilent q s .refl hs q' e hq' hends

/-- Of the references in a silent schema the same is written as of their expansions. -/
theorem agree_of_silent (h : indent = p'.indent) {s : Schema} (hsilent : Schema.Silent document s)
    {bound : Nat} {chain : List String} {q : String} {t : Schema} (hq : s.Mentions q)
    (hexp : Schema.expandReference document bound chain q = .ok t) :
    Agree ⟨some document, indent⟩ p' (referenceExpression ⟨some document, indent⟩ bound chain) other
      (.reference q) t := by
  intro depth
  rw [expressionWith]
  refine referenceExpression_expandReference h hexp (fun q' u hreach hu => ?_) depth
  exact hsilent.reached q' u ⟨q, hq, hreach⟩ hu

/-- The references that stand as properties in a silent schema expand to schemas without a
description. -/
theorem description?_eq_none_of_silent {s : Schema} (hsilent : Schema.Silent document s)
    {bound : Nat} {chain : List String} {q : String} {t : Schema} (hq : s.MentionsAsProperty q)
    (hexp : Schema.expandReference document bound chain q = .ok t) : t.description? = none := by
  obtain ⟨e, hends, hdesc⟩ := Schema.exists_endsAt_of_expandReference hexp
  rw [hdesc]
  exact hsilent.root q e hq hends

/-- The declaration of a schema that is no reference agrees with that of its expansion. -/
theorem declareFrom_expandWith_of_not_isReference (h : indent = p'.indent) (name : String)
    {bound : Nat} {chain : List String} {s r : Schema} (href : ¬ s.IsReference)
    (hexp : Schema.expandWith (Schema.expandReference document bound chain) s = .ok r)
    (hsilent : Schema.Silent document s) :
    declareFrom ⟨some document, indent⟩ name bound chain s = p'.declareWith other name r := by
  rw [declareFrom_of_not_isReference href]
  exact declareWith_expandWith h href hexp (fun q t hq ht => agree_of_silent h hsilent hq ht)
    (fun q t hq ht => description?_eq_none_of_silent hsilent hq ht) name

/-- **Declaring a schema agrees with declaring its expansion**, references at the root included. -/
theorem declareFrom_expandWith (h : indent = p'.indent) (name : String) {bound : Nat}
    {chain : List String} {s r : Schema}
    (hexp : Schema.expandWith (Schema.expandReference document bound chain) s = .ok r)
    (hsilent : Schema.Silent document s) :
    declareFrom ⟨some document, indent⟩ name bound chain s = p'.declareWith other name r := by
  by_cases href : s.IsReference
  · obtain ⟨q, rfl⟩ := href
    -- the reference is followed on both sides, and what it leads to may be a reference again
    induction bound generalizing chain q with
    | zero => exact absurd hexp Schema.expandReference_zero_ne_ok
    | succ bound ih =>
        obtain ⟨s', hq, hs', hexp⟩ := Schema.expandReference_succ_eq_ok hexp
        have hsilent := hsilent.of_reference hs'
        rw [declareFrom, Schema.followOnce_of_not_mem hq, hs']
        by_cases href : s'.IsReference
        · obtain ⟨q', rfl⟩ := href
          exact ih q' hexp hsilent
        · exact declareFrom_expandWith_of_not_isReference h name href hexp hsilent
  · exact declareFrom_expandWith_of_not_isReference h name href hexp hsilent

/-! ## Inlining and dereferencing -/

/-- An expansion is not a reference. -/
theorem not_isReference_of_expand {s r : Schema} (h : Schema.expand document s = .ok r) :
    ¬ r.IsReference := by
  rintro ⟨q, rfl⟩
  exact Schema.not_mentions_of_expand_eq_ok h q (Schema.mentions_reference q)

/-- A document with one schema, to refer to. -/
def labelDocument : Value := .map [(.text "label", .map [(.text "type", .scalar (.text "string"))])]

end Printer

end TypeScript

end ServiceBindings
