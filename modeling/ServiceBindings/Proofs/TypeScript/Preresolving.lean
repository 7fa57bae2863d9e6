import ServiceBindings.Proofs.TypeScript.Entering
import ServiceBindings.Proofs.TypeScript.Rooted

/-! # Resolving a reference before it is followed

A reference can be resolved first, and what it leads to be declared or expanded then; or it can be left to the
walk. Left to the walk it is on the chain, so that a way back to it closes a cycle one lap earlier.

**This makes no difference to the kind of an outcome** (`Printer.sameKind_declaration_reference`): the texts are
the same, or both are the same failure, or both are cycles. The lap that is walked twice ends like the first
one: whether an expression is a cycle does not depend on its depth (`Printer.sameEnding_expression`), and a
declaration is a cycle exactly if the expression is one. Only an interface whose annotations fix another type is
different, because its expression does not look at its properties. -/

namespace ServiceBindings

namespace TypeScript

namespace Printer

variable {p : Printer} {name : String} {count : Nat} {chain : List String} {s : Schema}
  {r : Question → Except ReferenceError String}

/-! ## What a walk answers to different questions -/

/-- **Expressions end in the same way at all depths.** -/
theorem sameEnding_expression (h : (p.writing name).Run count chain s r) (shift depth : Nat) :
    SameEnding (r (.expression depth)) (r (.expression (shift + depth))) := by
  induction h generalizing depth with
  | @visit chain s outcome _ _ hcyclic hlost _ ih =>
      have hblind : OutcomeRelation.Alike (fun _ => SameEnding) 0 shift := .inr fun _ _ _ => .inl rfl
      refine related_expressionWith congruence_sameEnding hblind depth s fun q d hq => ?_
      have hq := Schema.mem_references_iff.mp hq
      -- a failure of a reference is the same at all depths
      by_cases hmem : q ∈ chain
      · rw [hcyclic q hq hmem]
        exact .inl rfl
      · cases hat : (p.writing name).locate q with
        | error e =>
            rw [hlost q e hq hmem hat]
            exact .inl rfl
        | ok t => exact ih q t hq hmem hat d

/-- If a declaration is a cycle, then so is every expression, unless the schema is an interface and its
annotations fix the type. -/
theorem isCycle_of_isCycle_declaration (href : ¬ s.IsReference)
    (hkind : ¬ (isInterface s = true ∧ fixedType? s.annotations ≠ none))
    (h : (p.writing name).Run count chain s r) (hcycle : IsCycle (r .declaration)) (question : Question) :
    IsCycle (r question) := by
  cases question with
  | declaration => exact hcycle
  | expression depth =>
      have hending := sameEnding_expression h depth 0
      refine hending.isCycle ?_
      cases h with
      | visit outcome =>
          obtain ⟨cycle, hcycle⟩ := hcycle
          change p.answer name outcome s .declaration = _ at hcycle
          rw [answer_declaration_of_not_isReference href, declareWith_eq, expressionWith_declaredPart hkind]
            at hcycle
          rcases bind_eq_error_iff.mp hcycle with hfail | ⟨type, -, hfail⟩
          · exact ⟨cycle, hfail⟩
          · cases hfail

/-- A reference on the chain is a cycle, whatever is asked. -/
theorem isCycle_of_mem {q : String} (h : (p.writing name).Run count chain (.reference q) r)
    (hmem : q ∈ chain) (question : Question) : IsCycle (r question) := by
  cases h with
  | visit outcome _ _ hcyclic =>
      have houtcome := hcyclic q (Schema.mentions_reference q) hmem
      have hanswer : p.answer name outcome (.reference q) question = outcome q question := by
        cases question <;> rfl
      exact ⟨_, hanswer.trans (congrFun houtcome question)⟩

/-! ## One lap later -/

/-- **A reference to a reference**: inside of the first one, the outcome of the second is of the same kind. -/
theorem sameKind_of_reference {q q' : String} (hat : (p.writing name).locate q = .ok (.reference q'))
    {count' : Nat} {r' : Question → Except ReferenceError String}
    (h : (p.writing name).Run count [] (.reference q') r)
    (h' : (p.writing name).Run count' [q] (.reference q') r') (question : Question) :
    SameKind (r question) (r' question) := by
  refine sameKind_of_sameUnless (fun _ => False) (fun _ => id) ?_
  have hfront : (p.writing name).Run count' ([q] ++ []) (.reference q') r' := h'
  -- behind the first step the second reference is on the chain, so that coming back to it is a cycle
  refine GuardedWalk.Run.related_of_front (congruence_sameUnless _) (keeps_writing p name)
    (fun chain s => chain = [] ∧ s = .reference q' ∨ q' ∈ chain) ?_ ?_ (.inl ⟨rfl, rfl⟩) h hfront question
  · rintro chain s x t (⟨rfl, rfl⟩ | hmem) hx ht
    · obtain rfl := Schema.mentions_reference_iff.mp hx
      exact .inr (List.mem_singleton_self _)
    · exact .inr (List.mem_append_left _ hmem)
  · intro chain s x outcome hinv hx hmem hinside j
    obtain rfl := List.mem_singleton.mp hmem
    obtain ⟨count, hlap⟩ := hinside _ hat
    have hq' : q' ∈ chain ++ [x] := by
      rcases hinv with ⟨rfl, rfl⟩ | hq'
      · rw [Schema.mentions_reference_iff.mp hx]
        exact List.mem_singleton_self _
      · exact List.mem_append_left _ hq'
    exact .inl (.inr ⟨isCycle_of_mem hlap hq' j, _, rfl⟩)

/-- A declaration of what a reference leads to is of the same kind as a declaration of the reference, or the
reference leads to an interface whose annotations fix another type, and only inside of the reference the
declaration comes back to it. -/
theorem sameKind_or_returns {document v : Value} {q : String} (hdocument : p.document = some document)
    (hresolve : Pointer.resolve document q = .ok v) (name : String) :
    SameKind (p.declaration name (.ofValue v)) (p.declaration name (.reference q)) ∨
      isInterface (.ofValue v) = true ∧ fixedType? (Schema.ofValue v).annotations ≠ none ∧
        (∃ path, (q :: path ++ [q]).IsChain (Schema.LeadsTo document) ∧
          p.declaration name (.reference q) = .error (.cyclic (q :: path ++ [q]))) ∧
        ¬ IsCycle (p.declaration name (.ofValue v)) := by
  have hat : Schema.atPointer document q = .ok (.ofValue v) := by rw [Schema.atPointer, hresolve]; rfl
  generalize Schema.ofValue v = s at hat
  obtain ⟨hlocate, _, r, _, r', hrun, hrun', hr, hr'⟩ := exists_runs_of_atPointer hdocument name hat
  rw [← hr, ← hr']
  rcases hrun.sameUnless_returns (keeps_writing p name) hlocate hrun' .declaration
    with hsame | ⟨e, ⟨path, hchain, rfl⟩, he⟩
  · exact .inl hsame
  -- inside of the reference the declaration is a cycle
  by_cases hcycle : IsCycle (r .declaration)
  · exact .inl (.inr ⟨hcycle, _, he⟩)
  have hchain := hchain.imp fun _ _ => leadsTo_of_writing hdocument
  by_cases hkind : isInterface s = true ∧ fixedType? s.annotations ≠ none
  · exact .inr ⟨hkind.1, hkind.2, ⟨path, hchain, he⟩, hcycle⟩
  left
  by_cases href : s.IsReference
  · obtain ⟨q', rfl⟩ := href
    exact sameKind_of_reference hlocate hrun hrun' .declaration
  · refine hrun.sameKind_of_lap (keeps_writing p name) hlocate hrun' ?_ .declaration
    exact isCycle_of_isCycle_declaration href hkind hrun' ⟨_, he⟩

/-- **Resolving a reference before it is followed makes no difference to the kind of an outcome**, neither for
a declaration nor for an expansion: both are the same result or the same failure, or both are cycles. A
declaration is excepted if the reference leads to an object that is declared as an interface and has a type that
is fixed by its annotations, and the reference leads back to itself: then it closes a cycle, and the declaration
of the object is none. -/
theorem sameKind_declaration_reference {document v : Value} {q : String}
    (hdocument : p.document = some document) (hresolve : Pointer.resolve document q = .ok v)
    (name : String) :
    (SameKind (p.declaration name (.ofValue v)) (p.declaration name (.reference q)) ↔
      ¬ (isInterface (.ofValue v) = true ∧ fixedType? (Schema.ofValue v).annotations ≠ none ∧
        (∃ path, (q :: path ++ [q]).IsChain (Schema.LeadsTo document) ∧
          p.declaration name (.reference q) = .error (.cyclic (q :: path ++ [q]))) ∧
        ¬ IsCycle (p.declaration name (.ofValue v)))) ∧
    SameKind (Schema.expand document (.ofValue v)) (Schema.expand document (.reference q)) := by
  have hat : Schema.atPointer document q = .ok (.ofValue v) := by rw [Schema.atPointer, hresolve]; rfl
  refine ⟨?_, Schema.sameKind_expand_reference hat⟩
  constructor
  · rintro hsame ⟨-, -, ⟨path, -, hcycle⟩, hnot⟩
    exact hnot (hsame.symm.isCycle ⟨_, hcycle⟩)
  · exact (sameKind_or_returns hdocument hresolve name).resolve_right

/-- A document with a list of texts, and an object of which only one text is allowed as a value, with a
property that is a reference to the object. -/
def loopDocument : Value :=
  .map [(.text "Texts", .map [(.text "type", .text "array"),
      (.text "items", .map [(.text "type", .text "string")])]),
    (.text "Loop", .map [(.text "type", .text "object"), (.text "enum", .list [.text "x"]),
      (.text "properties", .map [(.text "a", .map [(.text "$ref", .text "#/Loop")])])])]

/-- The list of texts is declared alike where it stands and by a reference to it. -/
theorem sameKind_declaration_texts : ∃ v text, Pointer.resolve loopDocument "#/Texts" = .ok v ∧
    text = "export type T = string[];\n" ∧
    declaration ⟨some loopDocument, "  "⟩ "T" (.ofValue v) = .ok text ∧
    declaration ⟨some loopDocument, "  "⟩ "T" (.reference "#/Texts") = .ok text := by
  refine ⟨_, _, rfl, rfl, rfl, ?_⟩
  obtain ⟨hdeclaration, -⟩ :=
    @sameKind_declaration_reference ⟨some loopDocument, "  "⟩ loopDocument _ "#/Texts" rfl rfl "T"
  have hsame := hdeclaration.mpr fun h => Bool.false_ne_true h.1
  exact hsame.eq_ok rfl

/-- **The object is declared where it stands, but not by a reference to it**, which closes a cycle. -/
theorem sameKind_declaration_loop : ∃ v text, Pointer.resolve loopDocument "#/Loop" = .ok v ∧
    text = "export interface T \x7b\n  a?: \"x\";\n\x7d\n" ∧
    declaration ⟨some loopDocument, "  "⟩ "T" (.ofValue v) = .ok text ∧
    declaration ⟨some loopDocument, "  "⟩ "T" (.reference "#/Loop") = .error (.cyclic ["#/Loop", "#/Loop"]) ∧
    ¬ SameKind (declaration ⟨some loopDocument, "  "⟩ "T" (.ofValue v))
      (declaration ⟨some loopDocument, "  "⟩ "T" (.reference "#/Loop")) := by
  refine ⟨_, _, rfl, rfl, rfl, rfl, ?_⟩
  rintro (hsame | ⟨⟨chain, hcycle⟩, -⟩)
  · cases hsame
  · cases hcycle

end Printer

end TypeScript

end ServiceBindings
