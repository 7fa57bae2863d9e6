import ServiceBindings.Proofs.TypeScript.Emitted

/-! # The type of a schema at the root

A schema has a declaration and an expression. Both begin with the schema at the end of the references at its
root (`Printer.EndsAt`, `Printer.exists_endsAt_of_declareFrom`), and the declaration writes the same type as
the expression, with one difference: an interface is written without the annotations of its object.

**A declaration means the type that the expression writes** unless it is an interface and the annotations fix
another type (`Printer.says_declaration_iff`). A fixed type is a union of literals, and never begins with a
bracket like the body of an interface. -/

namespace ServiceBindings

namespace TypeScript

/-! ## What a declaration says -/

/-- A text declares, behind a lead, that a name means a type. -/
def Says (text lead name type : String) : Prop :=
  text = aliasText lead name type ∨ text = interfaceText lead name type

section Says

variable {text lead name type type' : String}

/-- The type in an alias can be read off. -/
theorem aliasText_inj : aliasText lead name type = aliasText lead name type' ↔ type = type' := by
  simp [aliasText, String.append_left_inj, String.append_right_inj]

/-- The type in an interface can be read off. -/
theorem interfaceText_inj : interfaceText lead name type = interfaceText lead name type' ↔ type = type' := by
  simp [interfaceText, String.append_left_inj, String.append_right_inj]

/-- An alias is not an interface. -/
theorem aliasText_ne_interfaceText : aliasText lead name type ≠ interfaceText lead name type' := by
  intro h
  have hlist := congrArg String.toList h
  simp only [aliasText, interfaceText, String.toList_append, List.append_assoc] at hlist
  -- behind the common beginning one has a `t` where the other has an `i`
  have hrest := List.append_cancel_left hlist
  have hseventh := congrArg (·[7]?) hrest
  simp at hseventh

/-- **A declaration says one thing.** -/
theorem Says.unique (h : Says text lead name type) (h' : Says text lead name type') : type = type' := by
  rcases h with rfl | rfl
  · rcases h' with h' | h'
    · exact aliasText_inj.mp h'
    · exact absurd h' aliasText_ne_interfaceText
  · rcases h' with h' | h'
    · exact absurd h'.symm aliasText_ne_interfaceText
    · exact interfaceText_inj.mp h'

/-- The declaration of a schema says that the name means the type that is written in it. -/
theorem says_declarationText (name : String) (s : Schema) (type : String) :
    Says (declarationText name s type) (leadText s) name type := by
  unfold declarationText
  split
  · exact .inr rfl
  · exact .inl rfl

end Says

/-! ## Fixed types and objects -/

/-- The type of one value does not begin with a brace. -/
theorem head?_literalType (v : Value) : (literalType v).toList.head? ≠ some '\x7b' := by
  intro h
  rcases literalType_cases v with hliteral | ⟨text, htext⟩
  · have hbrace := hliteral _ (List.mem_of_mem_head? h)
    exact absurd hbrace (by decide)
  · rw [htext, Json.toList_quote] at h
    cases h

/-- A union begins like its first member, or with the space in front of an operator. -/
theorem head?_union {types : List String} (h : ∀ type ∈ types, type.toList.head? ≠ some '\x7b') :
    (union types).toList.head? ≠ some '\x7b' := by
  have hdistinct : ∀ type ∈ distinct types, type.toList.head? ≠ some '\x7b' := fun type htype =>
    h type (List.mem_eraseDups.mp htype)
  rw [union]
  split
  · decide
  · rw [Text.join, String.toList_intercalate]
    cases hmembers : distinct types with
    | nil => simp
    | cons first rest =>
        have hfirst := hdistinct first (by rw [hmembers]; exact List.mem_cons_self)
        cases rest with
        | nil => simpa using hfirst
        | cons next rest =>
            rw [List.map_cons, List.map_cons, List.intercalate_cons_cons]
            cases hlist : first.toList with
            | nil => simp
            | cons c cs => simpa [hlist] using hfirst

/-- A fixed type does not begin with a brace. -/
theorem head?_of_fixedType? {annotations : Annotations} {type : String}
    (h : fixedType? annotations = some type) : type.toList.head? ≠ some '\x7b' := by
  rw [fixedType?] at h
  split at h
  · cases h
    exact head?_literalType _
  · split at h
    · cases h
      refine head?_union fun type htype => ?_
      obtain ⟨v, -, rfl⟩ := List.mem_map.mp htype
      exact head?_literalType v
    · cases h

namespace Printer

variable {p : Printer} {onReference : Nat → String → Except ReferenceError String}

/-- A declaration writes the expression of its schema, unless it is an interface and the annotations fix the
type. -/
theorem expressionWith_declaredPart {s : Schema}
    (h : ¬ (isInterface s = true ∧ fixedType? s.annotations ≠ none)) :
    p.expressionWith onReference 0 (declaredPart s) = p.expressionWith onReference 0 s := by
  cases hkind : isInterface s with
  | false => rw [declaredPart_of_not_isInterface hkind]
  | true =>
      have hfixed : fixedType? s.annotations = none := by
        by_contra hne
        exact h ⟨hkind, hne⟩
      obtain ⟨properties, required, additional, annotations, rfl, -, hnullable⟩ :=
        isInterface_iff.mp hkind
      have hplain : ∀ shape, annotated annotations shape = annotated [] shape := by
        intro shape
        rw [Schema.annotations] at hfixed
        rw [annotated, annotated, hfixed, hnullable]
        rfl
      rw [declaredPart, if_pos hkind, expressionWith, expressionWith, hplain]

/-- The type that is written in an interface is an object type. -/
theorem exists_objectType_of_isInterface {s : Schema} (hkind : isInterface s = true) {type : String}
    (htype : p.expressionWith onReference 0 (declaredPart s) = .ok type) :
    ∃ lines, type = p.objectType 0 lines := by
  obtain ⟨properties, required, additional, annotations, rfl, hproperties, -⟩ := isInterface_iff.mp hkind
  rw [declaredPart, if_pos hkind, expressionWith, annotated_nil, hproperties] at htype
  obtain ⟨lines, -, htype⟩ := bind_eq_ok_iff.mp htype
  cases htype
  exact ⟨_, rfl⟩

/-- The type that is written in an interface begins with a brace. -/
theorem head?_of_isInterface {s : Schema} (hkind : isInterface s = true) {type : String}
    (htype : p.expressionWith onReference 0 (declaredPart s) = .ok type) :
    type.toList.head? = some '\x7b' := by
  obtain ⟨lines, rfl⟩ := exists_objectType_of_isInterface hkind htype
  rw [toList_objectType]
  rfl

/-- An interface with a fixed type is written as that type. -/
theorem expressionWith_of_fixedType? {s : Schema} (hkind : isInterface s = true) {type : String}
    (hfixed : fixedType? s.annotations = some type) :
    p.expressionWith onReference 0 s = .ok type := by
  obtain ⟨properties, required, additional, annotations, rfl, -, hnullable⟩ := isInterface_iff.mp hkind
  have hplain : Schema.isNullable (Schema.object properties required additional annotations).annotations = false :=
    hnullable
  rw [expressionWith_eq_of_fixedType? hfixed, nullableType, hplain, if_neg Bool.false_ne_true]

/-- **What a declaration writes is what the expression is**, unless it is an interface and the annotations fix
the type. -/
theorem type_eq_iff {s : Schema} {type written : String}
    (htype : p.expressionWith onReference 0 (declaredPart s) = .ok type)
    (hwritten : p.expressionWith onReference 0 s = .ok written) :
    type = written ↔ ¬ (isInterface s = true ∧ fixedType? s.annotations ≠ none) := by
  constructor
  -- a fixed type does not begin with a brace
  · rintro rfl ⟨hkind, hfixed⟩
    obtain ⟨fixed, hfixed⟩ := Option.ne_none_iff_exists'.mp hfixed
    rw [expressionWith_of_fixedType? hkind hfixed] at hwritten
    cases hwritten
    exact head?_of_fixedType? hfixed (head?_of_isInterface hkind htype)
  · intro h
    rw [expressionWith_declaredPart h] at htype
    exact Except.ok.inj (htype.symm.trans hwritten)

/-! ## The end of the references at the root -/

/-- The references at the root of the first schema lead to the second one, which is no reference. -/
inductive EndsAt (p : Printer) : Schema → Schema → Prop where
  /-- A schema that is no reference is its own end. -/
  | here {s : Schema} : ¬ s.IsReference → EndsAt p s s
  /-- A reference leads on. -/
  | follow {document : Value} {q : String} {s t : Schema} : p.document = some document →
      Schema.atPointer document q = .ok s → EndsAt p s t → EndsAt p (.reference q) t

/-- The schema at the end is reached. -/
theorem EndsAt.reaches {s t : Schema} (h : p.EndsAt s t) : p.Reaches s t := by
  induction h with
  | here => exact .inl rfl
  | @follow document q s t hdocument hat _ ih =>
      have hstep : p.Reaches (.reference q) s :=
        .inr ⟨document, q, hdocument, ⟨q, Schema.mentions_reference q, .refl⟩, hat⟩
      exact hstep.trans ih

/-- The references at the root lead to one schema. -/
theorem EndsAt.unique {s t t' : Schema} (h : p.EndsAt s t) (h' : p.EndsAt s t') : t = t' := by
  induction h generalizing t' with
  | here href =>
      cases h' with
      | here => rfl
      | @follow _ q => exact absurd ⟨q, rfl⟩ href
  | @follow _ q _ _ hdocument hat _ ih =>
      cases h' with
      | here href => exact absurd ⟨q, rfl⟩ href
      | follow hdocument' hat' hrest =>
          cases hdocument.symm.trans hdocument'
          cases hat.symm.trans hat'
          exact ih hrest

/-- **A declaration and an expression begin at the end of the references at the root**, on top of the same
chain. -/
theorem exists_endsAt_of_declareFrom {name : String} {bound : Nat} {chain : List String} {s : Schema}
    {text : String} (h : p.declareFrom name bound chain s = .ok text) : ∃ bound' chain' t, p.EndsAt s t ∧
      p.declareWith (p.referenceExpression bound' chain') name t = .ok text ∧
      ∀ depth, p.expressionWith (p.referenceExpression bound chain) depth s
        = p.expressionWith (p.referenceExpression bound' chain') depth t := by
  induction bound generalizing chain s with
  | zero =>
      by_cases href : s.IsReference
      · obtain ⟨q, rfl⟩ := href
        rw [declareFrom] at h
        split at h <;> cases h
      · rw [declareFrom_of_not_isReference href] at h
        exact ⟨0, chain, s, .here href, h, fun _ => rfl⟩
  | succ bound ih =>
      by_cases href : s.IsReference
      · obtain ⟨q, rfl⟩ := href
        rw [declareFrom] at h
        split at h
        · next t ht =>
            obtain ⟨-, document, hdocument, hat⟩ := Schema.followOnce_eq_ok ht
            obtain ⟨bound', chain', u, hu, htext, hexpression⟩ := ih h
            refine ⟨bound', chain', u, .follow hdocument hat hu, htext, fun depth => ?_⟩
            rw [expressionWith, referenceExpression, ht]
            exact hexpression depth
        · cases h
      · rw [declareFrom_of_not_isReference href] at h
        exact ⟨bound + 1, chain, s, .here href, h, fun _ => rfl⟩

/-! ## Declarations and expressions -/

/-- **The declaration and the expression of a schema write the same type**, unless the schema at the end of the
references is declared as an interface and its annotations fix the type: then the declaration says something
else. -/
theorem says_declaration_iff {name : String} {s : Schema} {text written : String}
    (htext : p.declaration name s = .ok text) (hwritten : p.expression s = .ok written) :
    ∃ t, p.EndsAt s t ∧ (∃ type, Says text (leadText t) name type) ∧
      ((∀ type, Says text (leadText t) name type → type = written) ↔
        ¬ (isInterface t = true ∧ fixedType? t.annotations ≠ none)) := by
  obtain ⟨bound, chain, t, hend, htext, hsame⟩ := exists_endsAt_of_declareFrom htext
  rw [expression, hsame 0] at hwritten
  rw [declareWith_eq] at htext
  obtain ⟨type, htype, hdeclaration⟩ := bind_eq_ok_iff.mp htext
  cases hdeclaration
  have hsays := says_declarationText name t type
  refine ⟨t, hend, ⟨type, hsays⟩, ?_⟩
  rw [← type_eq_iff htype hwritten]
  constructor
  · intro h
    exact h type hsays
  · rintro rfl type' h'
    exact h'.unique hsays

/-- A printer whose document has a shelf, an object with a description and a label. -/
def shelfPrinter : Printer :=
  ⟨some (.map [(.text "Shelf", .map [(.text "type", .scalar (.text "object")),
    (.text "description", .scalar (.text "A shelf.")),
    (.text "properties", .map [(.text "label", .map [(.text "type", .scalar (.text "string"))])])])]), "  "⟩

/-- The declaration of a reference to the shelf says what the expression of the reference is. -/
theorem says_declaration_shelf : ∃ text written,
    shelfPrinter.declaration "T" (.reference "#/Shelf") = .ok text ∧
    shelfPrinter.expression (.reference "#/Shelf") = .ok written ∧
    text = "/** A shelf. */\nexport interface T \x7b\n  label?: string;\n\x7d\n" ∧
    ∃ lead, (∃ type, Says text lead "T" type) ∧ ∀ type, Says text lead "T" type → type = written := by
  refine ⟨_, _, rfl, rfl, rfl, ?_⟩
  obtain ⟨t, hend, hsays, hiff⟩ := @says_declaration_iff shelfPrinter "T" (.reference "#/Shelf") _ _ rfl rfl
  have hshelf : shelfPrinter.EndsAt (.reference "#/Shelf") _ := .follow rfl rfl (.here nofun)
  refine ⟨leadText t, hsays, hiff.mpr ?_⟩
  rw [hend.unique hshelf]
  exact fun h => h.2 rfl

/-- An object with a property of which only one value is allowed, a text: its declaration is the object, its
expression the text. -/
theorem says_declaration_enumerated :
    ∃ s text written, s = Schema.ofValue (.map [(.text "type", .scalar (.text "object")),
        (.text "enum", .list [.scalar (.text "x")]),
        (.text "properties", .map [(.text "a", .map [(.text "type", .scalar (.text "string"))])])]) ∧
      declaration ⟨none, "  "⟩ "T" s = .ok text ∧ expression ⟨none, "  "⟩ s = .ok written ∧
      Says text (leadText s) "T" "\x7b\n  a?: string;\n\x7d" ∧ written = "\"x\"" ∧
      ¬ ∀ type, Says text (leadText s) "T" type → type = written := by
  refine ⟨_, _, _, rfl, rfl, rfl, .inr rfl, rfl, fun h => ?_⟩
  have htype := h _ (.inr rfl)
  exact absurd htype (by decide)

end Printer

end TypeScript

end ServiceBindings
