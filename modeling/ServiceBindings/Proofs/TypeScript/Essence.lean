import ServiceBindings.Proofs.Document.Reordering
import ServiceBindings.Proofs.Schema.GuardedWalk
import ServiceBindings.Proofs.Schema.Retention
import ServiceBindings.Proofs.TypeScript.Inlining
import ServiceBindings.Schema.Required

/-! # What a printer reads of a schema

Of the annotations a printer reads the description, the constant, the enumerated values and whether the
schema is nullable. The **essence** of a schema (`Schema.essence`) keeps these, in this order, and drops all
other annotations.

* Reading, expanding and completing respect the essence (`Schema.essence_ofValue`,
  `Schema.essence_expandWith`, `Schema.essence_completeRequired`).
* A schema is written as its essence is (`TypeScript.Printer.expressionWith_essence`).

So values that are equal up to the order of their entries, in documents with roots that are equal up to
order, have the same expansion up to the essence (`Schema.sameOutcome_expand`) and the same declaration
(`TypeScript.Printer.declaration_congr`). -/

namespace ServiceBindings

open Value (Reordered RootReordered)

namespace Schema

/-! ## The essence -/

/-- The keys of the annotations that a printer reads. -/
def essentialKeys : List String := ["description", "const", "enum", "nullable"]

/-- The annotations that a printer reads, in a fixed order. -/
def essentialAnnotations (annotations : Annotations) : Annotations :=
  essentialKeys.filterMap fun key =>
    (Value.lookupText key annotations).map fun v => (.text key, v)

mutual

/-- A schema with the essential annotations only. -/
def essence : Schema → Schema
  | .reference pointer => .reference pointer
  | .primitive types annotations => .primitive types (essentialAnnotations annotations)
  | .object properties required additional annotations =>
      .object (essenceOfProperties properties) required (essenceOfAdditional additional)
        (essentialAnnotations annotations)
  | .array none annotations => .array none (essentialAnnotations annotations)
  | .array (some items) annotations =>
      .array (some (essence items)) (essentialAnnotations annotations)
  | .allOf members annotations => .allOf (essenceOfMembers members) (essentialAnnotations annotations)
  | .union keyword members annotations =>
      .union keyword (essenceOfMembers members) (essentialAnnotations annotations)

/-- The essence of what is said about undeclared properties. -/
def essenceOfAdditional : Additional Schema → Additional Schema
  | .unspecified => .unspecified
  | .allowed flag => .allowed flag
  | .typed s => .typed (essence s)

/-- The essence of properties. -/
def essenceOfProperties : List (String × Schema) → List (String × Schema)
  | [] => []
  | (name, s) :: rest => (name, essence s) :: essenceOfProperties rest

/-- The essence of members. -/
def essenceOfMembers : List Schema → List Schema
  | [] => []
  | s :: rest => essence s :: essenceOfMembers rest

end

/-- Of the annotations that are picked out by their keys, those under the keys are found. -/
theorem lookup_filterMap_lookupText (keys : List String) (key : String) (annotations : Annotations) :
    Value.lookupText key (keys.filterMap fun k =>
        (Value.lookupText k annotations).map fun v => (Scalar.text k, v))
      = if key ∈ keys then Value.lookupText key annotations else none := by
  induction keys with
  | nil => rfl
  | cons k rest ih =>
      rw [List.filterMap_cons]
      by_cases hk : key = k
      · subst hk
        rw [if_pos List.mem_cons_self]
        cases hfound : Value.lookupText key annotations with
        | none =>
            -- then nothing is found further on either
            rw [hfound, ite_self] at ih
            exact ih
        | some v => rw [Option.map_some, Value.lookupText, List.lookup_cons_self]
      · have hne : (Scalar.text key == Scalar.text k) = false := by simpa using hk
        have hmem : key ∈ k :: rest ↔ key ∈ rest := by
          rw [List.mem_cons, or_iff_right hk]
        simp only [hmem]
        rw [← ih]
        cases Value.lookupText k annotations with
        | none => rfl
        | some v => rw [Option.map_some, Value.lookupText, List.lookup_cons, hne, Value.lookupText]

/-- An essential annotation is found in the essence. -/
theorem lookupText_essentialAnnotations {key : String} (h : key ∈ essentialKeys)
    (annotations : Annotations) :
    Value.lookupText key (essentialAnnotations annotations) = Value.lookupText key annotations := by
  rw [essentialAnnotations, lookup_filterMap_lookupText, if_pos h]

/-- The description is essential. -/
theorem description?_essence (s : Schema) : s.essence.description? = s.description? := by
  have hannotations : ∀ annotations, Value.lookupText "description" (essentialAnnotations annotations)
      = Value.lookupText "description" annotations := lookupText_essentialAnnotations (by decide)
  have hnone : s.essence.annotations = essentialAnnotations s.annotations := by
    cases s with
    | reference => rfl
    | array items => cases items <;> rfl
    | _ => rfl
  rw [description?, description?, hnone, hannotations]

/-- Whether null is accepted is essential. -/
theorem isNullable_essentialAnnotations (annotations : Annotations) :
    isNullable (essentialAnnotations annotations) = isNullable annotations := by
  rw [isNullable, isNullable, lookupText_essentialAnnotations (by decide)]

mutual

/-- The essence mentions the same references. -/
theorem references_essence : ∀ s : Schema, s.essence.references = s.references
  | .reference _ => rfl
  | .primitive _ _ => rfl
  | .object properties _ additional _ => by
      rw [essence, references, references, references_essenceOfAdditional additional,
        references_essenceOfProperties properties]
  | .array none _ => rfl
  | .array (some items) _ => by rw [essence, references, references, references_essence items]
  | .allOf members _ => by rw [essence, references, references, references_essenceOfMembers members]
  | .union _ members _ => by rw [essence, references, references, references_essenceOfMembers members]

/-- The essence of what is said about undeclared properties mentions the same references. -/
theorem references_essenceOfAdditional : ∀ a : Additional Schema,
    referencesOfAdditional (essenceOfAdditional a) = referencesOfAdditional a
  | .unspecified => rfl
  | .allowed _ => rfl
  | .typed s => by
      rw [essenceOfAdditional, referencesOfAdditional, referencesOfAdditional, references_essence s]

/-- The essence of properties mentions the same references. -/
theorem references_essenceOfProperties : ∀ properties : List (String × Schema),
    referencesOfProperties (essenceOfProperties properties) = referencesOfProperties properties
  | [] => rfl
  | (_, s) :: rest => by
      rw [essenceOfProperties, referencesOfProperties, referencesOfProperties, references_essence s,
        references_essenceOfProperties rest]

/-- The essence of members mentions the same references. -/
theorem references_essenceOfMembers : ∀ members : List Schema,
    referencesOfMembers (essenceOfMembers members) = referencesOfMembers members
  | [] => rfl
  | s :: rest => by
      rw [essenceOfMembers, referencesOfMembers, referencesOfMembers, references_essence s,
        references_essenceOfMembers rest]

end

/-! ## Reading, expanding and completing -/

/-- The annotations of a mapping in another order. -/
theorem essentialAnnotations_congr {annotations annotations' : Annotations}
    (h : ∀ key, Value.lookupText key annotations = Value.lookupText key annotations') :
    essentialAnnotations annotations = essentialAnnotations annotations' := by
  rw [essentialAnnotations, essentialAnnotations]
  exact List.filterMap_congr fun key _ => by rw [h key]

/-- What reading chooses for a mapping has the essential annotations of the mapping. -/
theorem essence_schema_congr {k : Keywords} {annotations annotations' : Annotations}
    (h : ∀ key, Value.lookupText key annotations = Value.lookupText key annotations')
    (htype : ∀ key, Value.lookupText key (annotations.filter fun entry => entry.1 ≠ .text "type")
      = Value.lookupText key (annotations'.filter fun entry => entry.1 ≠ .text "type")) :
    (k.schema annotations).essence = (k.schema annotations').essence := by
  have hannotations := essentialAnnotations_congr h
  have hplain : (k.plain annotations).essence = (k.plain annotations').essence := by
    unfold Keywords.plain
    dsimp only
    rw [h "type"]
    split
    · cases k.items.join with
      | none => rw [essence, essence, hannotations]
      | some items => rw [essence, essence, hannotations]
    · split
      · rw [essence, essence, hannotations]
      · rw [essence, essence, essentialAnnotations_congr htype]
  unfold Keywords.schema
  split
  · rfl
  · split
    · rw [essence, essence, hannotations]
    · split
      · split
        · rw [essence, essence, hannotations]
        · rw [essence, essence, hannotations]
      · exact hplain

/-- **Values that are equal up to order are read as schemas of one essence.** -/
theorem essence_ofValue {v w : Value} (h : Reordered v w) :
    (ofValue v).essence = (ofValue w).essence := by
  cases h with
  | refl => rfl
  | @map entries entries' hperm hnodup =>
      have hheld : ∀ word : Keyword, word.held entries = word.held entries' := fun word =>
        Value.lookupText_eq_of_perm hperm hnodup
      have hkeywords : keywords entries = keywords entries' := by
        simp only [keywords_eq, hheld]
      -- a part of the entries repeats no text key either
      have hlookup : ∀ (p : Scalar × Value → Bool) key,
          Value.lookupText key (entries.filter p) = Value.lookupText key (entries'.filter p) :=
        fun p key => Value.lookupText_eq_of_perm (hperm.filter p)
          (hnodup.sublist (List.filter_sublist.filterMap _))
      rw [ofValue_map, ofValue_map, hkeywords]
      refine essence_schema_congr (hlookup _) fun key => ?_
      rw [annotationsOf, annotationsOf, List.filter_filter, List.filter_filter]
      exact hlookup _ key

variable {f g : String → Except ReferenceError Schema}

mutual

/-- **Expanding respects the essence.** -/
theorem essence_expandWith (f : String → Except ReferenceError Schema) : ∀ s : Schema,
    essence <$> expandWith f s = expandWith (fun q => essence <$> f q) s.essence
  | .reference _ => rfl
  | .primitive _ _ => rfl
  | .object properties required additional annotations => by
      simp only [essence, expandWith, map_bind, map_pure, ← essence_expandAdditional f additional,
        ← essence_expandProperties f properties, bind_map_left]
  | .array none _ => rfl
  | .array (some items) _ => by
      simp only [essence, expandWith, map_bind, map_pure, ← essence_expandWith f items, bind_map_left]
  | .allOf members _ => by
      simp only [essence, expandWith, map_bind, map_pure, ← essence_expandMembers f members,
        bind_map_left]
  | .union _ members _ => by
      simp only [essence, expandWith, map_bind, map_pure, ← essence_expandMembers f members,
        bind_map_left]

/-- Expanding what is said about undeclared properties respects the essence. -/
theorem essence_expandAdditional (f : String → Except ReferenceError Schema) :
    ∀ a : Additional Schema, essenceOfAdditional <$> expandAdditional f a
      = expandAdditional (fun q => essence <$> f q) (essenceOfAdditional a)
  | .unspecified => rfl
  | .allowed _ => rfl
  | .typed s => by
      simp only [essenceOfAdditional, expandAdditional, map_bind, map_pure, ← essence_expandWith f s,
        bind_map_left]

/-- Expanding properties respects the essence. -/
theorem essence_expandProperties (f : String → Except ReferenceError Schema) :
    ∀ properties : List (String × Schema), essenceOfProperties <$> expandProperties f properties
      = expandProperties (fun q => essence <$> f q) (essenceOfProperties properties)
  | [] => rfl
  | (name, s) :: rest => by
      simp only [essenceOfProperties, expandProperties, map_bind, map_pure, ← essence_expandWith f s,
        ← essence_expandProperties f rest, bind_map_left]

/-- Expanding members respects the essence. -/
theorem essence_expandMembers (f : String → Except ReferenceError Schema) :
    ∀ members : List Schema, essenceOfMembers <$> expandMembers f members
      = expandMembers (fun q => essence <$> f q) (essenceOfMembers members)
  | [] => rfl
  | s :: rest => by
      simp only [essenceOfMembers, expandMembers, map_bind, map_pure, ← essence_expandWith f s,
        ← essence_expandMembers f rest, bind_map_left]

end

/-- The essence of properties has their names. -/
theorem map_fst_essenceOfProperties (properties : List (String × Schema)) :
    (essenceOfProperties properties).map Prod.fst = properties.map Prod.fst := by
  induction properties with
  | nil => rfl
  | cons property rest ih => rw [essenceOfProperties, List.map_cons, List.map_cons, ih]

/-- The essence of properties is empty where these are. -/
theorem isEmpty_essenceOfProperties (properties : List (String × Schema)) :
    (essenceOfProperties properties).isEmpty = properties.isEmpty := by
  cases properties <;> rfl

mutual

/-- **Completing the required properties respects the essence.** -/
theorem essence_completeRequired : ∀ s : Schema, s.completeRequired.essence = s.essence.completeRequired
  | .reference _ => rfl
  | .primitive _ _ => rfl
  | .object properties required _ _ => by
      simp only [completeRequired, essence, isEmpty_essenceOfProperties, map_fst_essenceOfProperties]
      split
      · rw [essence, essenceOfProperties_completeProperties properties]
      · rw [essence]
  | .array none _ => rfl
  | .array (some items) _ => by
      rw [completeRequired, essence, essence, completeRequired, essence_completeRequired items]
  | .allOf members _ => by
      rw [completeRequired, essence, essence, completeRequired, essenceOfMembers_completeMembers members]
  | .union _ members _ => by
      rw [completeRequired, essence, essence, completeRequired, essenceOfMembers_completeMembers members]

/-- Completing properties respects the essence. -/
theorem essenceOfProperties_completeProperties : ∀ properties : List (String × Schema),
    essenceOfProperties (completeProperties properties)
      = completeProperties (essenceOfProperties properties)
  | [] => rfl
  | (_, s) :: rest => by
      rw [completeProperties, essenceOfProperties, essenceOfProperties, completeProperties,
        essence_completeRequired s, essenceOfProperties_completeProperties rest]

/-- Completing members respects the essence. -/
theorem essenceOfMembers_completeMembers : ∀ members : List Schema,
    essenceOfMembers (completeMembers members) = completeMembers (essenceOfMembers members)
  | [] => rfl
  | s :: rest => by
      rw [completeMembers, essenceOfMembers, essenceOfMembers, completeMembers,
        essence_completeRequired s, essenceOfMembers_completeMembers rest]

end

/-! ## Documents up to the order of entries -/

section Documents

variable {document document' : Value}

/-- A pointer leads to schemas of one essence, or fails alike. -/
theorem essence_atPointer (h : RootReordered document document') (q : String) :
    essence <$> atPointer document q = essence <$> atPointer document' q := by
  have hresolve := h.resolve q
  unfold atPointer
  generalize Pointer.resolve document q = target at hresolve ⊢
  generalize Pointer.resolve document' q = target' at hresolve ⊢
  cases hresolve with
  | ok hvalue => exact congrArg Except.ok (essence_ofValue hvalue)
  | error e => rfl

/-- References are followed once to schemas of one essence, or fail alike. -/
theorem essence_followOnce (h : RootReordered document document') (chain : List String) (q : String) :
    essence <$> followOnce (some document) chain q = essence <$> followOnce (some document') chain q := by
  by_cases hmem : q ∈ chain
  · rw [followOnce_of_mem hmem, followOnce_of_mem hmem]
  · rw [followOnce_of_not_mem hmem, followOnce_of_not_mem hmem, essence_atPointer h q]

/-- References are expanded to schemas of one essence, or fail alike, with every bound. -/
theorem essence_expandReference (h : RootReordered document document') (bound : Nat)
    (chain : List String) (q : String) :
    essence <$> expandReference document bound chain q
      = essence <$> expandReference document' bound chain q := by
  induction bound generalizing chain q with
  | zero => rfl
  | succ bound ih =>
      have honce := essence_followOnce h chain q
      rw [expandReference, expandReference]
      generalize followOnce (some document) chain q = found at honce ⊢
      generalize followOnce (some document') chain q = found' at honce ⊢
      cases SameOutcome.of_map_eq honce with
      | ok hessence =>
          dsimp only
          rw [essence_expandWith, essence_expandWith, hessence]
          exact expandWith_congr _ fun q' _ => ih _ q'
      | error e => rfl

/-- **Schemas of one essence have expansions of one essence**, or fail alike, in documents with roots that
are equal up to order. -/
theorem sameOutcome_expand (h : RootReordered document document') {s t : Schema}
    (hessence : s.essence = t.essence) :
    SameOutcome (fun r r' => r.essence = r'.essence) (expand document s) (expand document' t) := by
  have hreferences : s.references = t.references := by
    rw [← references_essence s, hessence, references_essence]
  have hcount : document.referenceCount s.references = document'.referenceCount t.references :=
    h.referenceCount_eq fun q => by rw [hreferences]
  refine SameOutcome.of_map_eq ?_
  rw [expand, expand, essence_expandWith, essence_expandWith, hessence, hcount]
  exact expandWith_congr _ fun q _ => essence_expandReference h _ [] q

end Documents

end Schema

/-! ## Writing -/

namespace TypeScript

open Schema

/-- What annotations fix is essential. -/
theorem fixedType?_essentialAnnotations (annotations : Annotations) :
    fixedType? (essentialAnnotations annotations) = fixedType? annotations := by
  rw [fixedType?, fixedType?, lookupText_essentialAnnotations (by decide),
    lookupText_essentialAnnotations (by decide)]

/-- A type under the essential annotations is the type under all of them. -/
theorem annotated_essentialAnnotations (annotations : Annotations)
    (shape : Unit → Except ReferenceError String) :
    annotated (essentialAnnotations annotations) shape = annotated annotations shape := by
  rw [annotated, annotated, fixedType?_essentialAnnotations, isNullable_essentialAnnotations]

namespace Printer

section Essence

variable {p p' : Printer}

/-- The line about undeclared properties does not look at their schema. -/
theorem indexLines_essenceOfAdditional (h : p.indent = p'.indent) (depth : Nat)
    (additional : Additional Schema) :
    p'.indexLines depth (essenceOfAdditional additional) = p.indexLines depth additional := by
  cases additional with
  | unspecified => rfl
  | allowed flag =>
      cases flag with
      | false => rfl
      | true => simp only [essenceOfAdditional, indexLines, margin_congr h]
  | typed s => simp only [essenceOfAdditional, indexLines, margin_congr h]

variable (f : Nat → String → Except ReferenceError String)

mutual

/-- **A schema is written as its essence is.** -/
theorem expressionWith_essence (h : p.indent = p'.indent) (depth : Nat) : ∀ s : Schema,
    p'.expressionWith f depth s.essence = p.expressionWith f depth s
  | .reference _ => rfl
  | .primitive _ _ => by
      rw [essence, expressionWith, expressionWith, annotated_essentialAnnotations]
  | .object properties required additional _ => by
      rw [essence, expressionWith, expressionWith, annotated_essentialAnnotations]
      simp only [isEmpty_essenceOfProperties, undeclaredWith_essenceOfAdditional h depth additional,
        linesWith_essenceOfProperties h depth (required.getD []) properties,
        indexLines_essenceOfAdditional h, objectType_congr h]
  | .array none _ => by
      rw [essence, expressionWith, expressionWith, annotated_essentialAnnotations]
  | .array (some items) _ => by
      rw [essence, expressionWith, expressionWith, annotated_essentialAnnotations,
        expressionWith_essence h depth items]
  | .allOf members _ => by
      rw [essence, expressionWith, expressionWith, annotated_essentialAnnotations,
        typesWith_essenceOfMembers h depth members]
  | .union _ members _ => by
      rw [essence, expressionWith, expressionWith, annotated_essentialAnnotations,
        typesWith_essenceOfMembers h depth members]

/-- Undeclared properties are written as their essence is. -/
theorem undeclaredWith_essenceOfAdditional (h : p.indent = p'.indent) (depth : Nat) :
    ∀ a : Additional Schema,
      p'.undeclaredWith f depth (essenceOfAdditional a) = p.undeclaredWith f depth a
  | .unspecified => rfl
  | .allowed true => rfl
  | .allowed false => rfl
  | .typed s => by
      rw [essenceOfAdditional, undeclaredWith, undeclaredWith, expressionWith_essence h depth s]

/-- Properties are written as their essence is. -/
theorem linesWith_essenceOfProperties (h : p.indent = p'.indent) (depth : Nat) (required : List String) :
    ∀ properties : List (String × Schema),
      p'.linesWith f depth required (essenceOfProperties properties)
        = p.linesWith f depth required properties
  | [] => rfl
  | (name, s) :: rest => by
      rw [essenceOfProperties, linesWith, linesWith, expressionWith_essence h (depth + 1) s,
        linesWith_essenceOfProperties h depth required rest]
      simp only [member_congr h (description?_essence s).symm]

/-- Members are written as their essence is. -/
theorem typesWith_essenceOfMembers (h : p.indent = p'.indent) (depth : Nat) :
    ∀ members : List Schema,
      p'.typesWith f depth (essenceOfMembers members) = p.typesWith f depth members
  | [] => rfl
  | s :: rest => by
      rw [essenceOfMembers, typesWith, typesWith, expressionWith_essence h depth s,
        typesWith_essenceOfMembers h depth rest]

end

/-- A schema is declared as an interface where its essence is. -/
theorem isInterface_essence (s : Schema) : isInterface s.essence = isInterface s := by
  cases s with
  | object properties required additional annotations =>
      rw [essence, isInterface, isInterface, isEmpty_essenceOfProperties, isNullable_essentialAnnotations]
  | array items => cases items <;> rfl
  | _ => rfl

/-- **A schema is declared as its essence is.** -/
theorem declareWith_essence (h : p.indent = p'.indent) (name : String) (s : Schema) :
    p'.declareWith f name s.essence = p.declareWith f name s := by
  cases hinterface : isInterface s with
  | false =>
      rw [declareWith_of_not_isInterface hinterface,
        declareWith_of_not_isInterface ((isInterface_essence s).trans hinterface),
        expressionWith_essence f h, description?_essence]
  | true =>
      obtain ⟨properties, required, additional, annotations, rfl, -, -⟩ := isInterface_iff.mp hinterface
      have hdescription := description?_essence (.object properties required additional annotations)
      have hessence := (isInterface_essence _).trans hinterface
      rw [essence] at hdescription hessence ⊢
      rw [declareWith, declareWith, if_pos hinterface, if_pos hessence, hdescription]
      simp only [linesWith_essenceOfProperties f h, indexLines_essenceOfAdditional h,
        objectType_congr h]

/-- Schemas of one essence are written alike. -/
theorem expressionWith_of_essence_eq (p p' : Printer) (h : p.indent = p'.indent) {s t : Schema}
    (hessence : s.essence = t.essence) (depth : Nat) :
    p.expressionWith f depth s = p'.expressionWith f depth t := by
  rw [← expressionWith_essence f h depth s, hessence]
  exact expressionWith_essence f rfl depth t

/-- Schemas of one essence are declared alike. -/
theorem declareWith_of_essence_eq (p p' : Printer) (h : p.indent = p'.indent) {s t : Schema}
    (hessence : s.essence = t.essence) (name : String) :
    p.declareWith f name s = p'.declareWith f name t := by
  rw [← declareWith_essence f h name s, hessence]
  exact declareWith_essence f rfl name t

/-- A schema is a reference if its essence is one. -/
theorem eq_of_essence_eq_reference {s : Schema} {q : String} (h : s.essence = .reference q) :
    s = .reference q := by
  cases s with
  | reference => exact h
  | array items => cases items <;> cases h
  | _ => cases h

end Essence

variable {document document' : Value} {indent : String}

/-- The same is written for a reference, with every bound. -/
theorem referenceExpression_congr (h : RootReordered document document') (bound : Nat)
    (chain : List String) (depth : Nat) (q : String) :
    referenceExpression ⟨some document, indent⟩ bound chain depth q
      = referenceExpression ⟨some document', indent⟩ bound chain depth q := by
  induction bound generalizing chain depth q with
  | zero => rfl
  | succ bound ih =>
      have honce := essence_followOnce h chain q
      rw [referenceExpression, referenceExpression]
      generalize followOnce (some document) chain q = found at honce ⊢
      generalize followOnce (some document') chain q = found' at honce ⊢
      cases SameOutcome.of_map_eq honce with
      | @ok s t hessence =>
          have hreference : referenceExpression ⟨some document, indent⟩ bound (chain ++ [q])
              = referenceExpression ⟨some document', indent⟩ bound (chain ++ [q]) :=
            funext fun depth => funext fun q' => ih (chain ++ [q]) depth q'
          dsimp only
          rw [hreference]
          exact expressionWith_of_essence_eq _ ⟨some document, indent⟩ ⟨some document', indent⟩ rfl
            hessence depth
      | error e => rfl

/-- The declarations of schemas of one essence that are no references. -/
theorem declareFrom_congr_of_not_isReference (h : RootReordered document document') {s t : Schema}
    (hessence : s.essence = t.essence) (href : ¬ s.IsReference) (name : String) (bound : Nat)
    (chain : List String) :
    declareFrom ⟨some document, indent⟩ name bound chain s
      = declareFrom ⟨some document', indent⟩ name bound chain t := by
  have href' : ¬ t.IsReference := by
    rintro ⟨q, rfl⟩
    exact href ⟨q, eq_of_essence_eq_reference hessence⟩
  have hreference : referenceExpression ⟨some document, indent⟩ bound chain
      = referenceExpression ⟨some document', indent⟩ bound chain :=
    funext fun depth => funext fun q' => referenceExpression_congr h bound chain depth q'
  rw [declareFrom_of_not_isReference href, declareFrom_of_not_isReference href', hreference]
  exact declareWith_of_essence_eq _ ⟨some document, indent⟩ ⟨some document', indent⟩ rfl hessence name

/-- The declarations of schemas of one essence, with every bound. -/
theorem declareFrom_congr (h : RootReordered document document') {s t : Schema}
    (hessence : s.essence = t.essence) (name : String) (bound : Nat) (chain : List String) :
    declareFrom ⟨some document, indent⟩ name bound chain s
      = declareFrom ⟨some document', indent⟩ name bound chain t := by
  by_cases href : s.IsReference
  · obtain ⟨q, rfl⟩ := href
    obtain rfl := eq_of_essence_eq_reference hessence.symm
    -- both references are followed, to schemas of one essence again
    induction bound generalizing chain q with
    | zero => rfl
    | succ bound ih =>
        have honce := essence_followOnce h chain q
        rw [declareFrom, declareFrom]
        generalize followOnce (some document) chain q = found at honce ⊢
        generalize followOnce (some document') chain q = found' at honce ⊢
        cases SameOutcome.of_map_eq honce with
        | @ok s t hessence =>
            by_cases href : s.IsReference
            · obtain ⟨q', rfl⟩ := href
              obtain rfl := eq_of_essence_eq_reference hessence.symm
              exact ih _ q' hessence
            · exact declareFrom_congr_of_not_isReference h hessence href name bound _
        | error e => rfl
  · exact declareFrom_congr_of_not_isReference h hessence href name bound chain

/-- **Schemas of one essence have the same declaration**, or fail alike, in documents with roots that are
equal up to order. -/
theorem declaration_congr (h : RootReordered document document') {s t : Schema}
    (hessence : s.essence = t.essence) (name : String) :
    declaration ⟨some document, indent⟩ name s = declaration ⟨some document', indent⟩ name t := by
  have hreferences : s.references = t.references := by
    rw [← references_essence s, hessence, references_essence]
  have hcount : referenceCount ⟨some document, indent⟩ s = referenceCount ⟨some document', indent⟩ t :=
    h.referenceCount_eq fun q => by rw [hreferences]
  rw [declaration, declaration, hcount]
  exact declareFrom_congr h hessence name _ []

end Printer

end TypeScript

end ServiceBindings
