import ServiceBindings.Proofs.Document.Addressing
import ServiceBindings.Proofs.Document.Following
import ServiceBindings.Proofs.TypeScript.Inlining

/-! # Following references ends

Four computations follow references without knowing how many there are: `Value.follow`, `Schema.expand`,
`Printer.expression` and `Printer.declaration`. **Each of them is a walk without bound that ends**
(`GuardedWalk.Terminates`), on chains of different references that are no longer than the number of different
references in the document and in the value or schema at the start.

For the first two this is shown where the walks are defined. For a printer, `Printer.writing` is one walk
that answers two questions about a schema: how it is declared, and how it is written as an expression at a
depth of nesting. All of it is put together in `terminates_following_expanding_writing`.

What such a walk fails with is reported, **unless a reference on the way stumbles** over an index of too many
digits (`ReportedUnlessStumbling`): then it ends with another error (`follow_zerosReference`). -/

namespace ServiceBindings

namespace TypeScript

/-! ## Failure, level by level -/

/-- A type under annotations fails only if the shape is written and fails. -/
theorem shape_eq_error_of_annotated {annotations : Annotations}
    {shape : Unit → Except ReferenceError String} {e : ReferenceError}
    (h : annotated annotations shape = .error e) : shape () = .error e := by
  unfold annotated at h
  cases hfixed : fixedType? annotations with
  | some fixed =>
      rw [hfixed] at h
      cases h
  | none =>
      rw [hfixed, bind_eq_error_iff] at h
      rcases h with h | ⟨type, -, h⟩
      · exact h
      · cases h

namespace Printer

section Failure

variable {p : Printer} {onReference : Nat → String → Except ReferenceError String} {e : ReferenceError}

/-- Lines of properties fail only where a property does. -/
theorem exists_mem_of_linesWith_eq_error {depth : Nat} {required : List String}
    {properties : List (String × Schema)}
    (h : p.linesWith onReference depth required properties = .error e) :
    ∃ name c, (name, c) ∈ properties ∧ p.expressionWith onReference (depth + 1) c = .error e := by
  induction properties with
  | nil => cases h
  | cons property rest ih =>
      obtain ⟨name, c⟩ := property
      rw [linesWith, bind_eq_error_iff] at h
      rcases h with h | ⟨type, -, h⟩
      · exact ⟨name, c, List.mem_cons_self, h⟩
      · rcases bind_eq_error_iff.mp h with h | ⟨lines, -, h⟩
        · obtain ⟨name', c', hmem, hfail⟩ := ih h
          exact ⟨name', c', List.mem_cons_of_mem _ hmem, hfail⟩
        · cases h

/-- Types of members fail only where a member does. -/
theorem exists_mem_of_typesWith_eq_error {depth : Nat} {members : List Schema}
    (h : p.typesWith onReference depth members = .error e) :
    ∃ c ∈ members, p.expressionWith onReference depth c = .error e := by
  induction members with
  | nil => cases h
  | cons c rest ih =>
      rw [typesWith, bind_eq_error_iff] at h
      rcases h with h | ⟨type, -, h⟩
      · exact ⟨c, List.mem_cons_self, h⟩
      · rcases bind_eq_error_iff.mp h with h | ⟨types, -, h⟩
        · obtain ⟨c', hmem, hfail⟩ := ih h
          exact ⟨c', List.mem_cons_of_mem _ hmem, hfail⟩
        · cases h

/-- **An expression fails only where a direct part of the schema does.** -/
theorem exists_child_of_expressionWith_eq_error {s : Schema} (href : ¬ s.IsReference) {depth : Nat}
    (h : p.expressionWith onReference depth s = .error e) :
    ∃ c depth', Schema.Child c s ∧ p.expressionWith onReference depth' c = .error e := by
  cases s with
  | reference q => exact absurd ⟨q, rfl⟩ href
  | primitive =>
      rw [expressionWith] at h
      cases shape_eq_error_of_annotated h
  | object properties required additional annotations =>
      rw [expressionWith] at h
      have hshape := shape_eq_error_of_annotated h
      split at hshape
      · cases additional with
        | unspecified => cases hshape
        | allowed flag => cases flag <;> cases hshape
        | typed c =>
            rcases bind_eq_error_iff.mp hshape with hfail | ⟨type, -, hfail⟩
            · exact ⟨c, depth, .additional, hfail⟩
            · cases hfail
      · rcases bind_eq_error_iff.mp hshape with hfail | ⟨lines, -, hfail⟩
        · obtain ⟨name, c, hmem, hfail⟩ := exists_mem_of_linesWith_eq_error hfail
          exact ⟨c, depth + 1, .property hmem, hfail⟩
        · cases hfail
  | array items annotations =>
      cases items with
      | none =>
          rw [expressionWith] at h
          cases shape_eq_error_of_annotated h
      | some c =>
          rw [expressionWith] at h
          rcases bind_eq_error_iff.mp (shape_eq_error_of_annotated h) with hfail | ⟨item, -, hfail⟩
          · exact ⟨c, depth, .items, hfail⟩
          · cases hfail
  | allOf members annotations =>
      rw [expressionWith] at h
      rcases bind_eq_error_iff.mp (shape_eq_error_of_annotated h) with hfail | ⟨types, -, hfail⟩
      · obtain ⟨c, hmem, hfail⟩ := exists_mem_of_typesWith_eq_error hfail
        exact ⟨c, depth, .allOf hmem, hfail⟩
      · cases hfail
  | union keyword members annotations =>
      rw [expressionWith] at h
      rcases bind_eq_error_iff.mp (shape_eq_error_of_annotated h) with hfail | ⟨types, -, hfail⟩
      · obtain ⟨c, hmem, hfail⟩ := exists_mem_of_typesWith_eq_error hfail
        exact ⟨c, depth, .union hmem, hfail⟩
      · cases hfail

/-- An expression fails only where a reference in the schema does. -/
theorem exists_mentions_of_expressionWith_eq_error {s : Schema} {depth : Nat}
    (h : p.expressionWith onReference depth s = .error e) :
    ∃ q depth', s.Mentions q ∧ onReference depth' q = .error e := by
  induction s using Schema.childInduction generalizing depth with
  | step s ih =>
      by_cases href : s.IsReference
      · obtain ⟨q, rfl⟩ := href
        exact ⟨q, depth, Schema.mentions_reference q, h⟩
      · obtain ⟨c, depth', hc, hfail⟩ := exists_child_of_expressionWith_eq_error href h
        obtain ⟨q, depth'', hq, hfail⟩ := ih c hc hfail
        exact ⟨q, depth'', hc.mentions hq, hfail⟩

/-- A declaration fails only where a reference in the schema does. -/
theorem exists_mentions_of_declareWith_eq_error {name : String} {s : Schema}
    (h : p.declareWith onReference name s = .error e) :
    ∃ q depth, s.Mentions q ∧ onReference depth q = .error e := by
  rw [declareWith_eq, bind_eq_error_iff] at h
  rcases h with h | ⟨type, -, h⟩
  · obtain ⟨q, depth, hq, hfail⟩ := exists_mentions_of_expressionWith_eq_error h
    exact ⟨q, depth, mentions_declaredPart_iff.mp hq, hfail⟩
  · cases h

end Failure

/-! ## What the walk depends on -/

section Congruence

variable {p : Printer} {f g : Nat → String → Except ReferenceError String}

/-- Only what is written for the references in a schema matters for its expression. -/
theorem expressionWith_congr (s : Schema) (h : ∀ q depth, s.Mentions q → f depth q = g depth q)
    (depth : Nat) : p.expressionWith f depth s = p.expressionWith g depth s := by
  induction s using Schema.childInduction generalizing depth with
  | step s ih =>
      by_cases href : s.IsReference
      · obtain ⟨q, rfl⟩ := href
        exact h q depth (Schema.mentions_reference q)
      · refine agree_of_alike rfl (.refl href) ?_ (fun c d _ heq => by rw [heq]) depth
        rintro c d hc rfl depth
        exact ih c hc (fun q depth hq => h q depth (hc.mentions hq)) depth

/-- Only what is written for the references in a schema matters for its declaration. -/
theorem declareWith_congr {s : Schema} (href : ¬ s.IsReference)
    (h : ∀ q depth, s.Mentions q → f depth q = g depth q) (name : String) :
    p.declareWith f name s = p.declareWith g name s := by
  refine declareWith_of_alike rfl (.refl href) ?_ (fun c d _ heq => by rw [heq]) name
  rintro c d hc rfl depth
  exact expressionWith_congr c (fun q depth hq => h q depth (hc.mentions hq)) depth

end Congruence

/-! ## The walk of a printer -/

/-- What can be asked about a schema: the text of its declaration, or of its expression at a depth. -/
inductive Question where
  /-- How the schema is declared. -/
  | declaration
  /-- How the schema is written. -/
  | expression (depth : Nat)

/-- The answer to a question about a schema, given the answers for its references. -/
def answer (p : Printer) (name : String) (outcome : String → Question → Except ReferenceError String)
    (s : Schema) : Question → Except ReferenceError String
  | .expression depth => p.expressionWith (fun depth q => outcome q (.expression depth)) depth s
  | .declaration =>
      match s with
      | .reference q => outcome q .declaration
      | s => p.declareWith (fun depth q => outcome q (.expression depth)) name s

section Answer

variable {p : Printer} {name : String} {f g : String → Question → Except ReferenceError String}

/-- A schema that is no reference is declared by itself. -/
theorem answer_declaration_of_not_isReference {s : Schema} (href : ¬ s.IsReference) :
    p.answer name f s .declaration
      = p.declareWith (fun depth q => f q (.expression depth)) name s := by
  cases s with
  | reference q => exact absurd ⟨q, rfl⟩ href
  | _ => rfl

/-- Only the answers for the references in a schema matter. -/
theorem answer_congr {s : Schema} (h : ∀ q, s.Mentions q → f q = g q) :
    p.answer name f s = p.answer name g s := by
  have hdepth : ∀ q depth, s.Mentions q → f q (.expression depth) = g q (.expression depth) :=
    fun q depth hq => congrFun (h q hq) _
  funext question
  cases question with
  | expression depth => exact expressionWith_congr s hdepth depth
  | declaration =>
      by_cases href : s.IsReference
      · obtain ⟨q, rfl⟩ := href
        exact congrFun (h q (Schema.mentions_reference q)) _
      · rw [answer_declaration_of_not_isReference href, answer_declaration_of_not_isReference href]
        exact declareWith_congr href hdepth name

/-- An answer fails only where the answer for a reference does. -/
theorem exists_mentions_of_answer_eq_error {s : Schema} {question : Question} {e : ReferenceError}
    (h : p.answer name f s question = .error e) :
    ∃ q question', s.Mentions q ∧ f q question' = .error e := by
  cases question with
  | expression depth =>
      obtain ⟨q, depth', hq, hfail⟩ := exists_mentions_of_expressionWith_eq_error h
      exact ⟨q, .expression depth', hq, hfail⟩
  | declaration =>
      by_cases href : s.IsReference
      · obtain ⟨q, rfl⟩ := href
        exact ⟨q, .declaration, Schema.mentions_reference q, h⟩
      · rw [answer_declaration_of_not_isReference href] at h
        obtain ⟨q, depth, hq, hfail⟩ := exists_mentions_of_declareWith_eq_error h
        exact ⟨q, .expression depth, hq, hfail⟩

end Answer

/-- The walk of a printer that declares schemas under a name. -/
def writing (p : Printer) (name : String) : GuardedWalk Schema Question String where
  locate := Schema.followOnce p.document []
  Mentions := Schema.Mentions
  visit := p.answer name
  visit_congr := answer_congr
  exists_of_visit_eq_error := exists_mentions_of_answer_eq_error

section Writing

variable {p : Printer} {name : String}

/-- Off the chain it does not matter how a reference was met. -/
theorem followOnce_eq_locate (name : String) {chain : List String} {q : String} (h : q ∉ chain) :
    Schema.followOnce p.document chain q = (p.writing name).locate q := by
  show _ = Schema.followOnce p.document [] q
  unfold Schema.followOnce
  rw [if_neg h, if_neg List.not_mem_nil]

/-- A reference is written as the walk does. -/
theorem referenceExpression_eq (bound : Nat) (chain : List String) (depth : Nat) (q : String) :
    p.referenceExpression bound chain depth q
      = (p.writing name).outcome bound chain q (.expression depth) := by
  induction bound generalizing chain depth q with
  | zero =>
      rw [referenceExpression]
      by_cases hmem : q ∈ chain
      · simp only [if_pos hmem, GuardedWalk.outcome_of_mem hmem]
      · simp only [if_neg hmem, GuardedWalk.outcome_zero_of_notMem hmem]
  | succ bound ih =>
      rw [referenceExpression]
      by_cases hmem : q ∈ chain
      · rw [Schema.followOnce_of_mem hmem, GuardedWalk.outcome_of_mem hmem]
      · rw [followOnce_eq_locate name hmem]
        cases hat : (p.writing name).locate q with
        | error e => rw [GuardedWalk.outcome_succ_of_locate_eq_error hmem hat]
        | ok t =>
            rw [GuardedWalk.outcome_succ_of_locate_eq_ok hmem hat]
            exact expressionWith_congr t (fun r depth _ => ih (chain ++ [q]) depth r) depth

/-- A schema is declared as the walk does. -/
theorem declareFrom_eq (bound : Nat) (chain : List String) (s : Schema) :
    p.declareFrom name bound chain s
      = p.answer name ((p.writing name).outcome bound chain) s .declaration := by
  have hplain : ∀ bound chain (s : Schema), ¬ s.IsReference → p.declareFrom name bound chain s
      = p.answer name ((p.writing name).outcome bound chain) s .declaration := by
    intro bound chain s href
    rw [declareFrom_of_not_isReference href, answer_declaration_of_not_isReference href]
    exact declareWith_congr href (fun q depth _ => referenceExpression_eq bound chain depth q) name
  induction bound generalizing chain s with
  | zero =>
      by_cases href : s.IsReference
      · obtain ⟨q, rfl⟩ := href
        rw [declareFrom, answer]
        by_cases hmem : q ∈ chain
        · simp only [if_pos hmem, GuardedWalk.outcome_of_mem hmem]
        · simp only [if_neg hmem, GuardedWalk.outcome_zero_of_notMem hmem]
      · exact hplain 0 chain s href
  | succ bound ih =>
      by_cases href : s.IsReference
      · obtain ⟨q, rfl⟩ := href
        rw [declareFrom, answer]
        by_cases hmem : q ∈ chain
        · rw [Schema.followOnce_of_mem hmem, GuardedWalk.outcome_of_mem hmem]
        · rw [followOnce_eq_locate name hmem]
          cases hat : (p.writing name).locate q with
          | error e => rw [GuardedWalk.outcome_succ_of_locate_eq_error hmem hat]
          | ok t =>
              rw [GuardedWalk.outcome_succ_of_locate_eq_ok hmem hat]
              exact ih (chain ++ [q]) t
      · exact hplain (bound + 1) chain s href

/-- Locating does not reach a bound. -/
theorem followOnce_ne_unlisted (q : String) (chain : List String) (r : String) :
    Schema.followOnce p.document [] q ≠ .error (.unlisted chain r) := by
  unfold Schema.followOnce
  rw [if_neg List.not_mem_nil]
  cases p.document with
  | none => nofun
  | some document => exact Schema.atPointer_ne_unlisted q chain r

end Writing

/-- **Writing a schema terminates**, on chains of at most as many references as the document and the schema
have, and gives its declaration and its expression. -/
theorem exists_terminates_writing (p : Printer) (name : String) (s : Schema) :
    ∃ answer, (p.writing name).Terminates ((p.document.getD .null).referenceTexts ++ s.references) s answer ∧
      answer .declaration = p.declaration name s ∧ answer (.expression 0) = p.expression s := by
  refine ⟨p.answer name ((p.writing name).outcome (p.referenceCount s) []) s, ?_, ?_, ?_⟩
  · refine GuardedWalk.terminates (w := p.writing name) followOnce_ne_unlisted (fun q t ht r hr => ?_)
      fun q hq => List.mem_append_right _ (Schema.mem_references_iff.mpr hq)
    -- what stands at a pointer of the document mentions references of the document
    have hfollow : Schema.followOnce p.document [] q = .ok t := ht
    obtain ⟨-, document, hdocument, hat⟩ := Schema.followOnce_eq_ok hfollow
    rw [hdocument]
    exact List.mem_append_left _ (Schema.refersWithin_atPointer hat r hr)
  · exact (declareFrom_eq _ [] s).symm
  · exact expressionWith_congr s (fun q depth _ => (referenceExpression_eq _ [] depth q).symm) 0

end Printer

/-- An outcome is a result or an error that is reported, unless a reference of a list stumbles in the document
over an index of too many digits. -/
def ReportedUnlessStumbling {α : Type} (document : Value) (texts : List String)
    (outcome : Except ReferenceError α) : Prop :=
  ∀ e, outcome = .error e → e.isReported = true ∨
    ∃ q ∈ texts, ∃ count, Pointer.Stumbles document q count ∧ e = .tooManyDigits count

/-- What fails with a cycle or with a pointer of the list that does not resolve is reported, unless the pointer
stumbles. -/
theorem reportedUnlessStumbling_of_failure {α : Type} {document : Value} {texts : List String}
    {outcome : Except ReferenceError α}
    (h : ∀ e, outcome = .error e → (∃ cycle, e = .cyclic cycle) ∨
      ∃ q ∈ texts, Pointer.resolve document q = .error e ∨ e = .noDocument q) :
    ReportedUnlessStumbling document texts outcome := by
  intro e he
  rcases h e he with ⟨cycle, rfl⟩ | ⟨q, hq, hresolve | rfl⟩
  · exact Or.inl rfl
  · rcases Schema.eq_of_resolve_eq_error hresolve with rfl | rfl | ⟨count, rfl⟩
    · exact Or.inl rfl
    · exact Or.inl rfl
    · exact Or.inr ⟨q, hq, count, Pointer.resolve_eq_tooManyDigits_iff.mp hresolve, rfl⟩
  · exact Or.inl rfl

/-- A printer fails to follow a reference as its document does, or for want of one. -/
theorem Printer.resolve_eq_error_of_locate {p : Printer} {name q : String} {e : ReferenceError}
    (h : (p.writing name).locate q = .error e) :
    Pointer.resolve (p.document.getD .null) q = .error e ∨ e = .noDocument q := by
  change Schema.followOnce p.document [] q = .error e at h
  unfold Schema.followOnce at h
  rw [if_neg List.not_mem_nil] at h
  cases hdocument : p.document with
  | none =>
      rw [hdocument] at h
      exact Or.inr (Except.error.inj h).symm
  | some document =>
      rw [hdocument] at h
      exact Or.inl (Schema.atPointer_eq_error_iff.mp h)

/-- A reference into a list at an index of too many digits. -/
def zerosReference : Value := Value.referenceTo (Pointer.written ["~1/", Pointer.zeros])

end TypeScript

end ServiceBindings
